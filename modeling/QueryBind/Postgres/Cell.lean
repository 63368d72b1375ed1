/-
# QueryBind.Postgres.Cell — result cells from their binary form

`Cell.decode? type bytes` is the value that a column's type gives to the bytes of a cell. A type
without a known binary form gives none, not even to NULL, and so do bytes of a wrong size, bytes
that are no text, and days or instants outside the calendar.
-/
import QueryBind.Json.Reader
import QueryBind.Postgres.Parameter

namespace QueryBind.Postgres

set_option autoImplicit false

namespace Cell

/-- The bytes, if they are as many as a form of fixed size has. -/
def sized? (size : Nat) (bytes : List UInt8) : Option (List UInt8) :=
  if bytes.length = size then some bytes else none

/-- The bytes after the version byte. -/
def unversioned? : List UInt8 → Option (List UInt8)
  | [] => none
  | version :: rest => if version = DataType.versionByte then some rest else none

def int? (size : Nat) (bytes : List UInt8) : Option Value :=
  (sized? size bytes).map fun b => .int (Int64.ofInt (BigEndian.toInt b))

def text? (bytes : List UInt8) : Option Value :=
  (Text.Utf8.decode? bytes).map fun s => .text (String.ofList s)

def json? (bytes : List UInt8) : Option Value :=
  ((Text.Utf8.decode? bytes).bind Json.parse?).map .json

def date? (bytes : List UInt8) : Option Value :=
  (sized? 4 bytes).bind fun b =>
    let d : Date := ⟨epoch.day + BigEndian.toInt b⟩
    if d.isValid then some (.date d) else none

def timestamp? (bytes : List UInt8) : Option Timestamp :=
  (sized? 8 bytes).bind fun b =>
    let t : Timestamp := ⟨epoch.day * Timestamp.nanosPerDay + BigEndian.toInt b * 1000⟩
    if t.isValid then some t else none

/-- The value of bytes under a system type. -/
def ofBuiltin? (type : Builtin) (bytes : List UInt8) : Option Value :=
  match type with
  | .bool =>
      match bytes with
      | [b] => some (.bool (b != 0))
      | _ => none
  | .int2 => int? 2 bytes
  | .int4 => int? 4 bytes
  | .int8 => int? 8 bytes
  | .oid => (sized? 4 bytes).map fun b => .int (Int64.ofInt (BigEndian.toNat b))
  | .float4 =>
      (sized? 4 bytes).map fun b => .float (Single.toDouble ⟨UInt32.ofNat (BigEndian.toNat b)⟩)
  | .float8 => (sized? 8 bytes).map fun b => .float ⟨UInt64.ofNat (BigEndian.toNat b)⟩
  | .text | .varchar | .bpchar | .name | .unknown => text? bytes
  | .bytea => some (.bytes bytes)
  | .json => json? bytes
  | .jsonb => (unversioned? bytes).bind json?
  | .date => date? bytes
  | .timestamp => (timestamp? bytes).map .timestamp
  | .timestamptz => (timestamp? bytes).map fun t => .timestamptz ⟨t⟩
  | .uuid => (Uuid.ofBytes? bytes).map .uuid

/-- How the cells of a type are read, if they can be. -/
def reader? : DataType → Option (List UInt8 → Option Value)
  | .builtin type => some (ofBuiltin? type)
  | .enumeration .. => some text?
  | type =>
      match type.textForm? with
      | some .plain => some text?
      | some .versioned => some fun bytes => (unversioned? bytes).bind text?
      | none => none

/-- The value of a cell, which has no bytes when it is NULL. -/
def decode? (type : DataType) (cell : Option (List UInt8)) : Option Value :=
  match reader? type, cell with
  | none, _ => none
  | some _, none => some .null
  | some read, some bytes => read bytes

end Cell

end QueryBind.Postgres
