/-
# QueryBind.Record.Mapping — columns resolved to fields

The scalar fields of a type, its own and those of nested records, are flattened into a list of
`Leaf`s: the index trail that leads to the field and its dotted name, made of the non-empty
names along the trail. Trails have at most seven levels, so recursive types flatten to a finite
list. A column is the first leaf with that name, or else the first one whose name ends in it
after a dot.
-/
import QueryBind.Record.FieldPath
import QueryBind.Record.Schema

namespace QueryBind

set_option autoImplicit false

/-- A scalar field of a type, at any depth. -/
structure Leaf where
  name : String
  trail : List Nat
  deriving DecidableEq, Repr

namespace Leaf

/-- A field's name below a qualifier; an empty name adds nothing. -/
def qualify (qualifier name : String) : String :=
  if name = "" then qualifier
  else if qualifier = "" then name
  else qualifier ++ "." ++ name

/-- A name that ends in the column after a dot. -/
def hasSuffix (leaf : Leaf) (column : String) : Bool :=
  ('.' :: column.toList).isSuffixOf leaf.name.toList

end Leaf

namespace Schema

/-- The leaves of a field table with at most `levels` levels, in table order. -/
def leavesFrom (s : Schema) : (levels : Nat) → (qualifier : String) → (trail : List Nat) →
    List Field → List Leaf
  | 0, _, _, _ => []
  | levels + 1, qualifier, trail, fields =>
      fields.zipIdx.flatMap fun (field, index) =>
        let name := Leaf.qualify qualifier field.name
        match field.shape with
        | .scalar _ => [⟨name, trail ++ [index]⟩]
        | .nested type _ => s.leavesFrom levels name (trail ++ [index]) (s.fields type)

/-- The leaves of a type. -/
def leaves (s : Schema) (type : Nat) : List Leaf :=
  s.leavesFrom FieldPath.maxDepth "" [] (s.fields type)

/-- The leaf that a column stands for. -/
def resolve? (leaves : List Leaf) (column : String) : Option Leaf :=
  (leaves.find? fun leaf => leaf.name == column).or (leaves.find? fun leaf => leaf.hasSuffix column)

/-- The paths of the fields that columns stand for, one for each column; the first column without
a field is the error. -/
def mapping (s : Schema) (type : Nat) (columns : List String) :
    Except BindingError (List FieldPath) :=
  let leaves := s.leaves type
  columns.mapM fun column =>
    match resolve? leaves column with
    | some leaf => FieldPath.ofIndices leaf.trail
    | none => .error (.unknownColumn column (s.typeName type))

end Schema

end QueryBind
