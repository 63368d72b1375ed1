/-
# QueryBind.Value.Scalar — field types and their conversions

A scalar field has a `FieldType`: one of seventeen types, required or optional. `FieldType.Content`
is what the field holds, `FieldType.ofValue` takes a value into the field and
`FieldType.toValue` gives the field's content back as a value. A type accepts its own kind of
value and the few others that lose nothing or that drivers report in its place: integers for
floats, 0 and 1 for truth values, text for bytes, JSON and identifiers, and either kind of
timestamp for the other.
-/
import QueryBind.Value
import QueryBind.Json.Reader
import QueryBind.Text.Utf8

namespace QueryBind

set_option autoImplicit false

inductive ScalarType where
  | bool
  | int8 | int16 | int32 | int64
  | uint8 | uint16 | uint32
  | single | double
  | text | bytes | json
  | date | timestamp | timestamptz
  | uuid
  deriving DecidableEq, Repr

/-- Why a field does not accept a value. -/
inductive ConversionError where
  | wrongKind (expected : ScalarType) (got : Value.Kind)
  | outOfRange (n : Int) (type : ScalarType)
  | malformedJson
  | malformedUuid
  deriving DecidableEq, Repr

namespace ScalarType

/-- The name of a type in messages. -/
def name : ScalarType → String
  | .bool => "bool"
  | .int8 => "i8"
  | .int16 => "i16"
  | .int32 => "i32"
  | .int64 => "i64"
  | .uint8 => "u8"
  | .uint16 => "u16"
  | .uint32 => "u32"
  | .single => "f32"
  | .double => "f64"
  | .text => "text"
  | .bytes => "bytes"
  | .json => "json"
  | .date => "date"
  | .timestamp => "timestamp"
  | .timestamptz => "timestamptz"
  | .uuid => "uuid"

/-- What a required field of the type holds. -/
def Content : ScalarType → Type
  | .bool => Bool
  | .int8 => Int8
  | .int16 => Int16
  | .int32 => Int32
  | .int64 => Int64
  | .uint8 => UInt8
  | .uint16 => UInt16
  | .uint32 => UInt32
  | .single => Single
  | .double => Double
  | .text => String
  | .bytes => List UInt8
  | .json => Json
  | .date => Date
  | .timestamp => Timestamp
  | .timestamptz => Instant
  | .uuid => Uuid

/-- The content of a field that nothing was stored into. -/
def blank : (t : ScalarType) → t.Content
  | .bool => false
  | .int8 => (0 : Int8)
  | .int16 => (0 : Int16)
  | .int32 => (0 : Int32)
  | .int64 => (0 : Int64)
  | .uint8 => (0 : UInt8)
  | .uint16 => (0 : UInt16)
  | .uint32 => (0 : UInt32)
  | .single => (default : Single)
  | .double => (default : Double)
  | .text => ""
  | .bytes => ([] : List UInt8)
  | .json => Json.null
  | .date => (default : Date)
  | .timestamp => (default : Timestamp)
  | .timestamptz => (default : Instant)
  | .uuid => (default : Uuid)

/-- The content as an argument. -/
def argument : (t : ScalarType) → t.Content → Value
  | .bool, x => Argument.value (show Bool from x)
  | .int8, x => Argument.value (show Int8 from x)
  | .int16, x => Argument.value (show Int16 from x)
  | .int32, x => Argument.value (show Int32 from x)
  | .int64, x => Argument.value (show Int64 from x)
  | .uint8, x => Argument.value (show UInt8 from x)
  | .uint16, x => Argument.value (show UInt16 from x)
  | .uint32, x => Argument.value (show UInt32 from x)
  | .single, x => Argument.value (show Single from x)
  | .double, x => Argument.value (show Double from x)
  | .text, x => Argument.value (show String from x)
  | .bytes, x => Argument.value (show List UInt8 from x)
  | .json, x => Argument.value (show Json from x)
  | .date, x => Argument.value (show Date from x)
  | .timestamp, x => Argument.value (show Timestamp from x)
  | .timestamptz, x => Argument.value (show Instant from x)
  | .uuid, x => Argument.value (show Uuid from x)

/-- The content as a value. -/
def toValue : (t : ScalarType) → t.Content → Value
  | .bool, (b : Bool) => .bool b
  | .int8, (n : Int8) => .int (Int64.ofInt n.toInt)
  | .int16, (n : Int16) => .int (Int64.ofInt n.toInt)
  | .int32, (n : Int32) => .int (Int64.ofInt n.toInt)
  | .int64, (n : Int64) => .int n
  | .uint8, (n : UInt8) => .int (Int64.ofInt n.toNat)
  | .uint16, (n : UInt16) => .int (Int64.ofInt n.toNat)
  | .uint32, (n : UInt32) => .int (Int64.ofInt n.toNat)
  | .single, (x : Single) => .float x.toDouble
  | .double, (x : Double) => .float x
  | .text, (s : String) => .text s
  | .bytes, (b : List UInt8) => .bytes b
  | .json, (j : Json) => .json j
  | .date, (d : Date) => .date d
  | .timestamp, (t : Timestamp) => .timestamp t
  | .timestamptz, (t : Instant) => .timestamptz t
  | .uuid, (u : Uuid) => .uuid u

/-- An integer that must lie from `least` to `greatest`. -/
def bounded {α : Type} (t : ScalarType) (least greatest : Int) (ofInt : Int → α) :
    Value → Except ConversionError α
  | .int n =>
      if least ≤ n.toInt ∧ n.toInt ≤ greatest then .ok (ofInt n.toInt)
      else .error (.outOfRange n.toInt t)
  | v => .error (.wrongKind t v.kind)

def doubleOfValue : Value → Except ConversionError Double
  | .float x => .ok x
  | .int n => .ok (Double.ofInt n.toInt)
  | v => .error (.wrongKind .double v.kind)

/-- The content that a value gives a field of the type. -/
def ofValue : (t : ScalarType) → Value → Except ConversionError t.Content
  | .bool, v =>
      match v with
      | .bool b => .ok b
      | .int n =>
          if n = 0 then .ok false
          else if n = 1 then .ok true
          else .error (.wrongKind .bool .int)
      | v => .error (.wrongKind .bool v.kind)
  | .int8, v => bounded .int8 (-128) 127 Int8.ofInt v
  | .int16, v => bounded .int16 (-32768) 32767 Int16.ofInt v
  | .int32, v => bounded .int32 (-2147483648) 2147483647 Int32.ofInt v
  | .int64, v =>
      match v with
      | .int n => .ok n
      | v => .error (.wrongKind .int64 v.kind)
  | .uint8, v => bounded .uint8 0 255 UInt8.ofInt v
  | .uint16, v => bounded .uint16 0 65535 UInt16.ofInt v
  | .uint32, v => bounded .uint32 0 4294967295 UInt32.ofInt v
  | .single, v => (doubleOfValue v).map Single.ofDouble
  | .double, v => doubleOfValue v
  | .text, v =>
      match v with
      | .text s => .ok s
      | v => .error (.wrongKind .text v.kind)
  | .bytes, v =>
      match v with
      | .bytes b => .ok b
      | .text s => .ok (Text.Utf8.encode s.toList)
      | v => .error (.wrongKind .bytes v.kind)
  | .json, v =>
      match v with
      | .json j => .ok j
      | .text s =>
          match Json.parse? s.toList with
          | some j => .ok j
          | none => .error .malformedJson
      | v => .error (.wrongKind .json v.kind)
  | .date, v =>
      match v with
      | .date d => .ok d
      | v => .error (.wrongKind .date v.kind)
  | .timestamp, v =>
      match v with
      | .timestamp t => .ok t
      | .timestamptz t => .ok t.utc
      | v => .error (.wrongKind .timestamp v.kind)
  | .timestamptz, v =>
      match v with
      | .timestamptz t => .ok t
      | .timestamp t => .ok (Instant.mk t)
      | v => .error (.wrongKind .timestamptz v.kind)
  | .uuid, v =>
      match v with
      | .uuid u => .ok u
      | .text s =>
          match Uuid.parse? s.toList with
          | some u => .ok u
          | none => .error .malformedUuid
      | v => .error (.wrongKind .uuid v.kind)

end ScalarType

namespace ConversionError

/-- The message. The accounts of the JSON and identifier readers stand for themselves. -/
def message : ConversionError → String
  | .wrongKind expected got => "expected " ++ expected.name ++ ", got " ++ got.name
  | .outOfRange n type =>
      String.ofList (Text.integer n) ++ " is out of range for " ++ type.name
  | .malformedJson => "<json error>"
  | .malformedUuid => "<uuid error>"

end ConversionError

/-- The type of a scalar field. -/
inductive FieldType where
  | required (type : ScalarType)
  /-- The field may hold nothing, which is NULL as a value. -/
  | optional (type : ScalarType)
  deriving DecidableEq, Repr

namespace FieldType

/-- What a field of the type holds. -/
def Content : FieldType → Type
  | .required t => t.Content
  | .optional t => Option t.Content

def blank : (t : FieldType) → t.Content
  | .required t => t.blank
  | .optional _ => none

def toValue : (t : FieldType) → t.Content → Value
  | .required t, x => t.toValue x
  | .optional _, none => .null
  | .optional t, some x => t.toValue x

def argument : (t : FieldType) → t.Content → Value
  | .required t, x => t.argument x
  | .optional t, (x : Option t.Content) => @Argument.value _ (@Argument.instOption _ ⟨t.argument⟩) x

/-- The content that a value gives the field. -/
def ofValue : (t : FieldType) → Value → Except ConversionError t.Content
  | .required t, v => t.ofValue v
  | .optional _, .null => .ok none
  | .optional t, v => (t.ofValue v).map some

end FieldType

end QueryBind
