/-
# QueryBind.Postgres.Parameter — arguments in binary form

`Parameter.write value type` appends the binary form that a type prescribes for a value to the
message under construction. Either the value has a form under the type and its bytes are
appended, or it has none and the message stays as it is; NULL has a form without bytes under
every type. An integer takes the width of the type that the server expects, and is refused when
it does not fit; against a floating type it is the nearest number.
-/
import QueryBind.Number.BigEndian
import QueryBind.Postgres.DataType
import QueryBind.Text.Utf8
import QueryBind.Value

namespace QueryBind.Postgres

set_option autoImplicit false

/-- Why a value has no form under a type. -/
inductive EncodingError where
  | tooLarge
  | tooSmall
  | refused (kind : Value.Kind) (type : String)
  deriving DecidableEq, Repr

namespace EncodingError

/-- What a kind of value is called in a refusal. -/
def kindName : Value.Kind → String
  | .null => "null"
  | .bool => "bool"
  | .int => "i64"
  | .float => "f64"
  | .text => "alloc::string::String"
  | .bytes => "alloc::vec::Vec<u8>"
  | .json => "serde_json::value::Value"
  | .date => "chrono::naive::date::NaiveDate"
  | .timestamp => "chrono::naive::datetime::NaiveDateTime"
  | .timestamptz => "chrono::datetime::DateTime<chrono::offset::utc::Utc>"
  | .uuid => "uuid::Uuid"

def message : EncodingError → String
  | .tooLarge => "number too large to fit in target type"
  | .tooSmall => "number too small to fit in target type"
  | .refused kind type => "cannot encode " ++ kindName kind ++ " as postgres type " ++ type

end EncodingError

/-- The day from which dates and timestamps are counted, 2000-01-01. -/
def epoch : Date := Civil.toDate ⟨2000, 1, 1⟩

/-- Whether an argument is NULL or has bytes. -/
inductive Presence where
  | null | present
  deriving DecidableEq, Repr

/-- Writing to the message under construction. What was written stays when an error follows. -/
abbrev Writer := ExceptT EncodingError (StateM (List UInt8))

namespace Parameter

/-- Append bytes. -/
def append (bytes : List UInt8) : Writer Presence := fun message =>
  (.ok .present, message ++ bytes)

/-- An integer in a given number of bytes. -/
def writeFitting (width : Nat) (n : Int64) : Writer Presence :=
  if BigEndian.fits width n.toInt then append (BigEndian.bytes width n.toInt)
  else throw (if 0 ≤ n.toInt then .tooLarge else .tooSmall)

def doubleBytes (d : Double) : List UInt8 := BigEndian.natBytes 8 d.canonical.bits.toNat

def singleBytes (s : Single) : List UInt8 := BigEndian.natBytes 4 s.bits.toNat

/-- Whole microseconds from the epoch, the part of one dropped toward the epoch. -/
def micros (t : Timestamp) : Int :=
  Int.tdiv (t.nanos - epoch.day * Timestamp.nanosPerDay) 1000

/-- Append the binary form of a value under a type. -/
def write (value : Value) (type : DataType) : Writer Presence :=
  let refuse : Writer Presence := throw (.refused value.kind type.qualifiedName)
  match value, type with
  | .null, _ => return .null
  | .bool b, .builtin .bool => append [if b then 1 else 0]
  | .int n, .builtin .int2 => writeFitting 2 n
  | .int n, .builtin .int4 => writeFitting 4 n
  | .int n, .builtin .int8 => append (BigEndian.bytes 8 n.toInt)
  | .int n, .builtin .float4 => append (singleBytes (Single.ofInt n.toInt))
  | .int n, .builtin .float8 => append (doubleBytes (Double.ofInt n.toInt))
  | .float d, .builtin .float4 => append (singleBytes (Single.ofDouble d))
  | .float d, .builtin .float8 => append (doubleBytes d)
  | .text s, .enumeration .. => append (Text.Utf8.encode s.toList)
  | .text s, type =>
      match type.textForm? with
      | some .plain => append (Text.Utf8.encode s.toList)
      | some .versioned => append (DataType.versionByte :: Text.Utf8.encode s.toList)
      | none => refuse
  | .bytes b, .builtin .bytea => append b
  | .json j, .builtin .json => append (Text.Utf8.encode j.text)
  | .json j, .builtin .jsonb => append (DataType.versionByte :: Text.Utf8.encode j.text)
  | .date d, .builtin .date => append (BigEndian.bytes 4 (d.day - epoch.day))
  | .timestamp t, .builtin .timestamp => append (BigEndian.bytes 8 (micros t))
  | .timestamptz t, .builtin .timestamptz => append (BigEndian.bytes 8 (micros t.utc))
  | .uuid u, .builtin .uuid => append u.bytes
  | _, _ => refuse

/-- The binary form of a value by itself, absent for NULL. -/
def encode (value : Value) (type : DataType) : Except EncodingError (Option (List UInt8)) :=
  match (write value type).run [] with
  | (.ok .null, _) => .ok none
  | (.ok .present, bytes) => .ok (some bytes)
  | (.error e, _) => .error e

end Parameter

end QueryBind.Postgres
