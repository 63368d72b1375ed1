/-
# QueryBind.Declaration — binding code for declared record types

`Declaration.expand` turns the declaration of a record type into what binding needs to know of
it: the table of its bound fields, and for writing and for reading a selection of one field by
its index. The three are built together, one field at a time, so index `i` means the `i`-th field
that is not left out in each of them. A field path keeps an index in one byte below its
terminator, which bounds the number of bound fields.
-/
import QueryBind.Declaration.Tag
import QueryBind.Record.FieldPath

namespace QueryBind

set_option autoImplicit false

namespace Declaration

/-- What kind of type is declared. -/
inductive Form where
  /-- A record with named fields. -/
  | named
  /-- A record with fields by position, or without fields. -/
  | unnamed
  /-- Alternatives, or overlapping fields. -/
  | noRecord
  deriving DecidableEq, Repr

/-- A declared field. -/
structure Member where
  name : String
  type : List Token
  attributes : List Attribute
  deriving DecidableEq, Repr

end Declaration

structure Declaration where
  name : String
  /-- The generic parameters in their angle brackets, if any are written. -/
  generics : List Declaration.Token
  form : Declaration.Form
  attributes : List Declaration.Attribute
  members : List Declaration.Member
  deriving DecidableEq, Repr

namespace Declaration

/-- Why no binding code can be made. -/
inductive ExpansionError where
  | generic
  | unnamedFields
  | noRecord
  | tag (error : TagError)
  | tooManyFields
  | arguments (error : ArgumentError)
  | unknownSetting
  /-- The relationships are given by something else than a path. -/
  | noPath
  deriving DecidableEq, Repr

namespace ExpansionError

def message : ExpansionError → String
  | .generic => "Bindable cannot be derived for generic structs"
  | .unnamedFields => "Bindable can only be derived for structs with named fields"
  | .noRecord => "Bindable can only be derived for structs"
  | .tag error => error.message
  | .tooManyFields => "Bindable supports at most 254 bound fields"
  | .arguments error => error.message
  | .unknownSetting => "unknown bind attribute, expected \x60relationships = path\x60"
  | .noPath => "expected a path to \x60fn() -> &'static Relationships<Self>\x60"

end ExpansionError

/-- An entry of the field table. -/
structure Entry where
  name : String
  /-- The type whose own table continues a nested field. -/
  nested? : Option (List Token)
  deriving DecidableEq, Repr

/-- The member that an index selects. -/
structure Arm where
  index : Nat
  nested : Bool
  member : String
  deriving DecidableEq, Repr

structure Accessors where
  table : List Entry
  writers : List Arm
  readers : List Arm
  deriving DecidableEq, Repr

namespace Accessors

def empty : Accessors := ⟨[], [], []⟩

/-- The accessors with one more field, unless its tag leaves it out. -/
def add (a : Accessors) (m : Member) (tag : Tag) : Accessors :=
  if tag.skipped then a
  else
    let index := a.table.length
    { table := a.table ++ [⟨tag.name, if tag.nested then some m.type else none⟩]
      writers := a.writers ++ [⟨index, tag.nested, m.name⟩]
      readers := a.readers ++ [⟨index, tag.nested, m.name⟩] }

/-- The arm that an index selects for writing. -/
def writer? (a : Accessors) (index : Nat) : Option Arm :=
  a.writers.find? fun arm => arm.index = index

/-- The arm that an index selects for reading. -/
def reader? (a : Accessors) (index : Nat) : Option Arm :=
  a.readers.find? fun arm => arm.index = index

/-- Add the field of a member, as its tags say. -/
def addMember (a : Accessors) (m : Member) : Except ExpansionError Accessors :=
  match Tag.read m.name.toList m.attributes with
  | .error e => .error (.tag e)
  | .ok tag => .ok (a.add m tag)

end Accessors

/-- The binding code of a record type. -/
structure Expansion where
  typeName : String
  accessors : Accessors
  /-- The function that gives the type's relationships. -/
  relationships? : Option (List Token)
  deriving DecidableEq, Repr

/-- Whether generic parameters are declared. Empty angle brackets declare none, and neither does
a clause without them. -/
def isGeneric (d : Declaration) : Bool :=
  match d.generics with
  | .mark '<' _ :: .mark '>' _ :: _ => false
  | .mark '<' _ :: _ => true
  | _ => false

/-- The path that the first binding attribute of a declaration gives to its relationships. -/
def relationshipsOf : List Attribute → Except ExpansionError (Option (List Token))
  | [] => .ok none
  | a :: rest =>
      if a.isNamed Tag.attributeName then
        match a.assignment with
        | .error e => .error (.arguments e)
        | .ok (setting, value) =>
            if setting = [.word "relationships".toList] then
              match value with
              | .path tokens => .ok (some tokens)
              | .other => .error .noPath
            else .error .unknownSetting
      else relationshipsOf rest

/-- The binding code of a declaration. -/
def expand (d : Declaration) : Except ExpansionError Expansion :=
  if d.isGeneric then .error .generic
  else
    match d.form with
    | .unnamed => .error .unnamedFields
    | .noRecord => .error .noRecord
    | .named =>
        match d.members.foldlM Accessors.addMember .empty with
        | .error e => .error e
        | .ok accessors =>
            if FieldPath.terminator ≤ accessors.table.length then .error .tooManyFields
            else (relationshipsOf d.attributes).map fun path? => ⟨d.name, accessors, path?⟩

end Declaration

end QueryBind
