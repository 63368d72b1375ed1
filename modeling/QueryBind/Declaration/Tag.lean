/-
# QueryBind.Declaration.Tag — how a field is bound

A field is bound to the column of its name in snake case unless tags say otherwise. A tag is a
name, possibly with options after commas: `bind` makes the field a nested record, whose columns
the name qualifies. The tag `-` leaves the field out. Later tags extend earlier ones.
-/
import QueryBind.Declaration.Attribute
import QueryBind.Text.Blank
import QueryBind.Text.SnakeCase

namespace QueryBind.Declaration

set_option autoImplicit false

structure Tag where
  /-- The column, or the qualifier of a nested record's columns. -/
  name : String
  nested : Bool
  skipped : Bool
  deriving DecidableEq, Repr

inductive TagError where
  | arguments (error : ArgumentError)
  | unknownOption (option : String)
  deriving DecidableEq, Repr

namespace TagError

def message : TagError → String
  | .arguments error => error.message
  | .unknownOption option =>
      "unknown bind option \x60" ++ option ++ "\x60, expected \x60bind\x60"

end TagError

namespace Tag

/-- The name of the attributes that hold tags. -/
def attributeName : String := "bind"

/-- The tag of a field without attributes. A raw identifier names the same column as a plain
one. -/
def ofMember (member : List Char) : Tag :=
  let plain := if member.take 2 = ['r', '#'] then member.drop 2 else member
  ⟨String.ofList (Text.SnakeCase.ofName plain), false, false⟩

/-- Whether options ask for a nested record. -/
def options : List (List Char) → Except TagError Bool
  | [] => .ok false
  | option :: rest =>
      let option := Text.trim option
      if option = "bind".toList then (options rest).map fun _ => true
      else if option.isEmpty then options rest
      else .error (.unknownOption (String.ofList option))

/-- The tag after the text of one attribute. Without a name a nested record's columns have no
qualifier, and a scalar keeps its name. -/
def extend (tag : Tag) (text : List Char) : Except TagError Tag :=
  if text = ['-'] then .ok { tag with skipped := true }
  else
    match text.splitOn ',' with
    | [] => .ok tag
    | first :: rest =>
        match options rest with
        | .error e => .error e
        | .ok nested =>
            let name := Text.trim first
            if !name.isEmpty then .ok { tag with name := String.ofList name, nested }
            else if nested then .ok { tag with name := "", nested }
            else .ok { tag with nested }

/-- The tag after an attribute; an attribute of another name says nothing. -/
def extendBy (tag : Tag) (a : Attribute) : Except TagError Tag :=
  if a.isNamed attributeName then
    match a.string with
    | .error e => .error (.arguments e)
    | .ok text => tag.extend text
  else .ok tag

/-- The tag of a field with attributes. -/
def read (member : List Char) (attributes : List Attribute) : Except TagError Tag :=
  attributes.foldlM extendBy (ofMember member)

end Tag

end QueryBind.Declaration
