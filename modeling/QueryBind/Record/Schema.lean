/-
# QueryBind.Record.Schema — record types and their field tables

A `Schema` is a list of record types that refer to each other by position. A field is a scalar
or a nested record, which is held in place, in a box, or optionally. Types may be recursive
through optional fields; in-place and boxed nesting must be well founded, or no instance could
be made.
-/
import QueryBind.Value.Scalar

namespace QueryBind

set_option autoImplicit false

/-- How a record is held by the field it is nested in. -/
inductive Hold where
  | inline
  | boxed
  /-- The field may hold no record. -/
  | optional
  deriving DecidableEq, Repr

inductive Shape where
  | scalar (type : FieldType)
  /-- A record of the type at that position of the schema. -/
  | nested (type : Nat) (hold : Hold)
  deriving DecidableEq, Repr

structure Field where
  /-- The column name; empty for a nested record whose columns have no qualifier of their own. -/
  name : String
  shape : Shape
  deriving DecidableEq, Repr

structure RecordType where
  name : String
  fields : List Field
  deriving DecidableEq, Repr

abbrev Schema := List RecordType

namespace Shape

def isNested : Shape → Bool
  | .nested .. => true
  | .scalar _ => false

end Shape

namespace Schema

/-- The field table of a type; a type outside the schema has no fields. -/
def fields (s : Schema) (type : Nat) : List Field := (s[type]?.map (·.fields)).getD []

def typeName (s : Schema) (type : Nat) : String := (s[type]?.map (·.name)).getD ""

end Schema

end QueryBind
