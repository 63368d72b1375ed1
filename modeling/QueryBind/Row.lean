/-
# QueryBind.Row — one result row

A row has one value for each of its named columns (`IsAligned`). When two columns share a name,
the first one answers.
-/
import QueryBind.Error

namespace QueryBind

set_option autoImplicit false

structure Row where
  columns : List String
  values : List Value

namespace Row

/-- The row has one value for each column. -/
def IsAligned (row : Row) : Prop := row.columns.length = row.values.length

def size (row : Row) : Nat := row.values.length

def isEmpty (row : Row) : Bool := row.values.isEmpty

/-- The value of the first column of that name. -/
def get? (row : Row) (column : String) : Option Value :=
  match row.columns.idxOf? column with
  | some index => row.values[index]?
  | none => none

/-- The column of that name as the content of a field. -/
def field (row : Row) (type : FieldType) (column : String) : Except Error type.Content :=
  match row.get? column with
  | none => .error (.decode column .noSuchColumn)
  | some value =>
      match type.ofValue value with
      | .ok content => .ok content
      | .error cause => .error (.decode column (.conversion cause))

end Row

end QueryBind
