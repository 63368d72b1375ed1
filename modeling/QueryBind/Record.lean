/-
# QueryBind.Record — instances of record types

A `Record` holds one cell for each field of its type. Storing a value at a path has three parts:
`Record.allocate` gives every unset optional record on the way its blank instance,
`Record.find` looks the field up, and `Record.put` replaces its content. Looking up for reading
allocates nothing, and tells apart a field behind an unset optional record from a path that leads
to no scalar field.
-/
import QueryBind.Record.FieldPath
import QueryBind.Record.Schema

namespace QueryBind

set_option autoImplicit false

/-- The content of a scalar field, with its type. -/
structure Held where
  type : FieldType
  content : type.Content

namespace Held

def blank (type : FieldType) : Held := ⟨type, type.blank⟩

def toValue (h : Held) : Value := h.type.toValue h.content

/-- The field after a value was stored into it. -/
def store (h : Held) (v : Value) : Except ConversionError Held :=
  (h.type.ofValue v).map fun content => ⟨h.type, content⟩

end Held

/-- What one field of an instance holds. -/
inductive Cell where
  | scalar (held : Held)
  | record (cells : List Cell)
  /-- An optional record that is not there. -/
  | unset

namespace Cell

instance : Inhabited Cell := ⟨.unset⟩

/-- The cells of a nested record, if it is there. -/
def cells? : Cell → Option (List Cell)
  | .record cells => some cells
  | _ => none

end Cell

namespace Schema

/-- The cells of a blank instance, the derived default: every scalar is the default of its own type,
every optional record is unset, and any other record is blank in its turn. In-place and boxed nesting
is well founded, so `depth` levels are enough when there are that many types. -/
def blankCells (s : Schema) : (depth : Nat) → (type : Nat) → List Cell
  | 0, _ => []
  | depth + 1, type =>
      (s.fields type).map fun field =>
        match field.shape with
        | .scalar t => .scalar (.blank t)
        | .nested _ .optional => .unset
        | .nested inner _ => .record (s.blankCells depth inner)

def blank (s : Schema) (type : Nat) : List Cell := s.blankCells s.length type

end Schema

/-- What a path leads to. -/
inductive Reach where
  | scalar (held : Held)
  /-- The path ends at a record that is not there, or at an index without a field. -/
  | unset
  /-- The path ends at a record, or goes on below a scalar. -/
  | misfit

/-- An instance of the type at a position of a schema. -/
structure Record where
  type : Nat
  cells : List Cell

/-- Why a value was not stored. -/
inductive StoreError where
  | unreachable (cause : BindingError)
  | conversion (cause : ConversionError)
  deriving DecidableEq, Repr

namespace Record

/-! ## Cells along a path -/

/-- The cells with the unset records that the path leads into made blank ones. A record that the
path only ends at is not touched. -/
def allocateCells (s : Schema) : (fields : List Field) → (path : List Nat) → List Cell → List Cell
  | fields, i :: j :: rest, cells =>
      match fields[i]? with
      | some ⟨_, .nested type _⟩ =>
          cells.modify i fun cell =>
            match cell with
            | .unset => .record (allocateCells s (s.fields type) (j :: rest) (s.blank type))
            | .record inner => .record (allocateCells s (s.fields type) (j :: rest) inner)
            | .scalar held => .scalar held
      | _ => cells
  | _, _, cells => cells

/-- What a path leads to. -/
def findCell : (path : List Nat) → List Cell → Reach
  | [], _ => .misfit
  | [i], cells =>
      match cells[i]? with
      | some (.scalar held) => .scalar held
      | some _ => .misfit
      | none => .unset
  | i :: rest, cells =>
      match cells[i]? with
      | some (.record inner) => findCell rest inner
      | some (.scalar _) => .misfit
      | some .unset => .unset
      | none => .unset

/-- The cells with the scalar field at the end of a path replaced. -/
def putCell (held : Held) : (path : List Nat) → List Cell → List Cell
  | [], cells => cells
  | [i], cells => cells.set i (.scalar held)
  | i :: rest, cells =>
      cells.modify i fun cell =>
        match cell with
        | .record inner => .record (putCell held rest inner)
        | other => other

/-! ## Reading and storing -/

def blank (s : Schema) (type : Nat) : Record := ⟨type, s.blank type⟩

def allocate (s : Schema) (r : Record) (path : FieldPath) : Record :=
  { r with cells := allocateCells s (s.fields r.type) path.indices r.cells }

def find (r : Record) (path : FieldPath) : Reach := findCell path.indices r.cells

def put (r : Record) (path : FieldPath) (held : Held) : Record :=
  { r with cells := putCell held path.indices r.cells }

/-- The field at a path for reading; nothing behind a record that is not there. -/
def field (r : Record) (path : FieldPath) : Except BindingError (Option Held) :=
  match r.find path with
  | .scalar held => .ok (some held)
  | .unset => .ok none
  | .misfit => .error (.unreachableField path.indices)

/-- The value of the field at a path; NULL behind a record that is not there. -/
def value (r : Record) (path : FieldPath) : Except BindingError Value :=
  (r.field path).map fun held? =>
    match held? with
    | some held => held.toValue
    | none => .null

/-- The values of the fields of a mapping. -/
def values (r : Record) (mapping : List FieldPath) : Except BindingError (List Value) :=
  mapping.mapM r.value

/-- The record after a value was stored at a path. Records on the way are allocated even if the
value is then refused. -/
def store (s : Schema) (r : Record) (path : FieldPath) (v : Value) :
    Record × Except StoreError Unit :=
  let opened := r.allocate s path
  match opened.find path with
  | .scalar held =>
      match held.store v with
      | .ok stored => (opened.put path stored, .ok ())
      | .error cause => (opened, .error (.conversion cause))
  | _ => (opened, .error (.unreachable (.unreachableField path.indices)))

end Record

end QueryBind
