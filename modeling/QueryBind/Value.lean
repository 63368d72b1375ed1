/-
# QueryBind.Value — argument and result values

A `Value` is what a statement's arguments are stored as and what result columns are decoded
into, whatever the database driver. `Argument` says which types may be given as arguments.
-/
import QueryBind.Calendar
import QueryBind.Json
import QueryBind.Uuid

namespace QueryBind

set_option autoImplicit false

inductive Value where
  | null
  | bool (b : Bool)
  | int (n : Int64)
  | float (d : Double)
  | text (s : String)
  | bytes (b : List UInt8)
  | json (j : Json)
  | date (d : Date)
  | timestamp (t : Timestamp)
  | timestamptz (t : Instant)
  | uuid (u : Uuid)

namespace Value

instance : Inhabited Value := ⟨.null⟩

/-- Which kind of value it is. -/
inductive Kind where
  | null | bool | int | float | text | bytes | json | date | timestamp | timestamptz | uuid
  deriving DecidableEq, Repr

def Kind.name : Kind → String
  | .null => "null"
  | .bool => "bool"
  | .int => "int"
  | .float => "float"
  | .text => "text"
  | .bytes => "bytes"
  | .json => "json"
  | .date => "date"
  | .timestamp => "timestamp"
  | .timestamptz => "timestamptz"
  | .uuid => "uuid"

def kind : Value → Kind
  | .null => .null
  | .bool _ => .bool
  | .int _ => .int
  | .float _ => .float
  | .text _ => .text
  | .bytes _ => .bytes
  | .json _ => .json
  | .date _ => .date
  | .timestamp _ => .timestamp
  | .timestamptz _ => .timestamptz
  | .uuid _ => .uuid

def isNull : Value → Bool
  | .null => true
  | _ => false

end Value

/-- Types whose elements may be given as arguments of a statement. -/
class Argument (α : Type) where
  value : α → Value

namespace Argument

instance : Argument Bool := ⟨.bool⟩
instance : Argument Int8 := ⟨fun n => .int (Int64.ofInt n.toInt)⟩
instance : Argument Int16 := ⟨fun n => .int (Int64.ofInt n.toInt)⟩
instance : Argument Int32 := ⟨fun n => .int (Int64.ofInt n.toInt)⟩
instance : Argument Int64 := ⟨.int⟩
instance : Argument UInt8 := ⟨fun n => .int (Int64.ofInt n.toNat)⟩
instance : Argument UInt16 := ⟨fun n => .int (Int64.ofInt n.toNat)⟩
instance : Argument UInt32 := ⟨fun n => .int (Int64.ofInt n.toNat)⟩
instance : Argument Single := ⟨fun x => .float x.toDouble⟩
instance : Argument Double := ⟨.float⟩
instance : Argument String := ⟨.text⟩
instance : Argument String.Slice := ⟨fun s => .text s.copy⟩
instance : Argument (List UInt8) := ⟨.bytes⟩
instance : Argument (Array UInt8) := ⟨fun b => .bytes b.toList⟩
instance : Argument Json := ⟨.json⟩
instance : Argument Date := ⟨.date⟩
instance : Argument Timestamp := ⟨.timestamp⟩
instance : Argument Instant := ⟨.timestamptz⟩
instance : Argument Uuid := ⟨.uuid⟩
instance : Argument Value := ⟨id⟩

/-- An absent argument is NULL. -/
instance {α : Type} [Argument α] : Argument (Option α) :=
  ⟨fun x => match x with
    | some x => value x
    | none => .null⟩

end Argument

end QueryBind
