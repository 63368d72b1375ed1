/-
# QueryBind.Declaration.Attribute — attributes of declarations and fields

An attribute has a path and may have arguments, in a group or as an assigned value. The two
readers of arguments are `Attribute.string`, for the tags of fields, and `Attribute.assignment`,
for the settings of a declaration.
-/
import QueryBind.Declaration.Expression
import QueryBind.Declaration.Lexer

namespace QueryBind.Declaration

set_option autoImplicit false

inductive Arguments where
  | absent
  /-- A value after an equals sign. -/
  | assigned
  | group (inside : List Token)
  deriving DecidableEq, Repr

structure Attribute where
  path : List Token
  arguments : Arguments
  deriving DecidableEq, Repr

/-- Why the arguments of an attribute cannot be read. -/
inductive ArgumentError where
  | absent (path : String)
  | assigned (path : String)
  | form (error : FormError)
  deriving DecidableEq, Repr

namespace ArgumentError

def message : ArgumentError → String
  | .absent path => "expected attribute arguments in parentheses: #[" ++ path ++ "(...)]"
  | .assigned path => "expected parentheses: #[" ++ path ++ "(...)]"
  | .form error => error.message

end ArgumentError

namespace Attribute

/-- Whether the path of an attribute is that name alone. -/
def isNamed (a : Attribute) (name : String) : Bool := a.path = [.word name.toList]

/-- An attribute from the tokens between its brackets. -/
def ofInside? (tokens : List Token) : Option Attribute :=
  match Path.ofAttribute tokens with
  | .error _ => none
  | .ok (path, []) => some ⟨path, .absent⟩
  | .ok (path, .mark '=' _ :: _) => some ⟨path, .assigned⟩
  | .ok (path, .opening _ :: rest) =>
      match Token.group? rest with
      | some (inside, []) => some ⟨path, .group inside⟩
      | _ => none
  | .ok _ => none

/-- Attributes in their brackets, for any `fuel` not below the number of tokens. -/
def readWith? : (fuel : Nat) → List Token → Option (List Attribute)
  | _, [] => some []
  | 0, _ => none
  | fuel + 1, .mark '#' _ :: .opening .bracket :: rest =>
      match Token.group? rest with
      | some (inside, more) =>
          match ofInside? inside, readWith? fuel more with
          | some a, some others => some (a :: others)
          | _, _ => none
      | none => none
  | _ + 1, _ => none

/-- The attributes that a text writes. -/
def parse? (s : List Char) : Option (List Attribute) :=
  (Token.scan? s).bind fun tokens => readWith? tokens.length tokens

/-- The attribute of that name with one string literal as its argument. -/
def ofString (name : String) (value : List Char) : Attribute :=
  ⟨[.word name.toList], .group [.string value []]⟩

/-- The tokens of the arguments. -/
def inside (a : Attribute) : Except ArgumentError (List Token) :=
  match a.arguments with
  | .absent => .error (.absent (String.ofList (Token.compact a.path)))
  | .assigned => .error (.assigned (String.ofList (Token.compact a.path)))
  | .group tokens => .ok tokens

/-- The one string literal among the arguments. -/
def string (a : Attribute) : Except ArgumentError (List Char) :=
  match a.inside with
  | .error e => .error e
  | .ok [.string value _] => .ok value
  | .ok (.string _ _ :: _) => .error (.form .leftover)
  | .ok tokens => .error (.form (.expecting .stringLiteral tokens))

/-- The value after an equals sign: a lone literal, or an expression. -/
def assignedValue (tokens : List Token) : Except FormError Expression :=
  match tokens with
  | .mark '#' _ :: .opening .bracket :: _ => .error .attributeInside
  | _ =>
      match Expression.read tokens with
      | .error e => .error e
      | .ok (value, []) => .ok value
      | .ok _ => .error .leftover

/-- The path and the value of the one assignment among the arguments. -/
def assignment (a : Attribute) : Except ArgumentError (List Token × Expression) :=
  match a.inside with
  | .error e => .error e
  | .ok tokens =>
      let reading : Except FormError (List Token × Expression) :=
        match Path.ofAttribute tokens with
        | .error e => .error e
        | .ok (path, .mark '=' _ :: rest) => (assignedValue rest).map fun value => (path, value)
        | .ok _ => .error .equalsMissing
      reading.mapError .form

end Attribute

end QueryBind.Declaration
