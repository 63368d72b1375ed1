/-
# QueryBind.Record.Scan — rows stored into records

`Record.scan` stores the columns of a row one after the other at the paths of a mapping, and stops
at the first one that is refused, with the columns before it stored. `bindRows` makes a new record
for each row; `bindOne` stores all rows onto one record, so that the last one counts.
-/
import QueryBind.Record
import QueryBind.Record.Mapping
import QueryBind.Row
import QueryBind.Query

namespace QueryBind

set_option autoImplicit false

namespace Record

/-- The failure to store a column's value. -/
def columnError (column : String) : StoreError → Error
  | .unreachable cause => .binding cause
  | .conversion cause => .decode column (.conversion cause)

/-- The record after columns were stored in turn, up to the first failure. -/
def storeAll (s : Schema) : Record → List (FieldPath × Value × String) → Record × Except Error Unit
  | r, [] => (r, .ok ())
  | r, (path, v, column) :: rest =>
      match r.store s path v with
      | (r, .ok ()) => storeAll s r rest
      | (r, .error e) => (r, .error (columnError column e))

/-- The record after a row was stored by a mapping of the row's width. -/
def scan (s : Schema) (r : Record) (mapping : List FieldPath) (row : Row) :
    Record × Except Error Unit :=
  if mapping.length = row.size then r.storeAll s (mapping.zip (row.values.zip row.columns))
  else (r, .error (.binding (.widthMismatch mapping.length row.size)))

/-- The record after rows were stored in turn, up to the first failure. -/
def scanAll (s : Schema) (mapping : List FieldPath) : Record → List Row → Record × Except Error Unit
  | r, [] => (r, .ok ())
  | r, row :: rest =>
      match r.scan s mapping row with
      | (r, .ok ()) => scanAll s mapping r rest
      | (r, .error e) => (r, .error e)

/-- The record after a row was stored by the mapping of the row's own columns. -/
def bindRow (s : Schema) (r : Record) (row : Row) : Record × Except Error Unit :=
  match s.mapping r.type row.columns with
  | .error e => (r, .error (.binding e))
  | .ok mapping => r.scan s mapping row

/-- A new record with a row stored in it. -/
def ofRow (s : Schema) (type : Nat) (mapping : List FieldPath) (row : Row) : Except Error Record :=
  match (blank s type).scan s mapping row with
  | (r, .ok ()) => .ok r
  | (_, .error e) => .error e

/-- A new record for each row, by the mapping of the first row's columns. -/
def bindRows (s : Schema) (type : Nat) : List Row → Except Error (List Record)
  | [] => .ok []
  | first :: rest =>
      match s.mapping type first.columns with
      | .error e => .error (.binding e)
      | .ok mapping => (first :: rest).mapM (ofRow s type mapping)

/-- One record for all rows. -/
def bindOne (s : Schema) (type : Nat) (mode : BindMode) : List Row → Except Error Record
  | [] => .error (.notFound (.noRowToBind (s.typeName type)))
  | first :: rest =>
      if mode = .strict ∧ !rest.isEmpty then .error (.tooManyRows 1 (rest.length + 1))
      else
        match s.mapping type first.columns with
        | .error e => .error (.binding e)
        | .ok mapping =>
            match (blank s type).scanAll s mapping (first :: rest) with
            | (r, .ok ()) => .ok r
            | (_, .error e) => .error e

end Record

end QueryBind
