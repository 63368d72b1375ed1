/-
# QueryBind.Declaration.Path — paths of names, and errors of form

A path is a sequence of segments between double colons, possibly after a leading one.
`Path.ofAttribute` reads one whose segments are names alone, as attributes have; `Path.inExpression`
reads one as it stands in an expression, where type arguments follow a further double colon and a
qualified type may come first.
-/
import QueryBind.Declaration.Token

namespace QueryBind.Declaration

set_option autoImplicit false

/-- What was expected where something else, or nothing, was found. -/
inductive Expected where
  | identifier
  | stringLiteral
  | expression
  | segment
  | mark (written : String)
  deriving DecidableEq, Repr

/-- Why tokens do not have the form they should have. -/
inductive FormError where
  | expected (what : Expected) (atEnd : Bool)
  /-- A keyword stands where an identifier should. -/
  | keyword (name : String)
  | equalsMissing
  | attributeInside
  | comparisonsChained
  /-- Tokens are left over. -/
  | leftover
  deriving DecidableEq, Repr

namespace Expected

def description : Expected → String
  | .identifier => "identifier"
  | .stringLiteral => "string literal"
  | .expression => "an expression"
  | .segment => "path segment after \x60::\x60"
  | .mark written => "\x60" ++ written ++ "\x60"

end Expected

namespace FormError

def message : FormError → String
  | .expected what atEnd =>
      (if atEnd then "unexpected end of input, " else "") ++ "expected " ++ what.description
  | .keyword name => "expected identifier, found keyword \x60" ++ name ++ "\x60"
  | .equalsMissing => "expected \x60=\x60"
  | .attributeInside => "unexpected attribute inside of attribute"
  | .comparisonsChained => "comparison operators cannot be chained"
  | .leftover => "unexpected token"

/-- The error of tokens that do not start with what was expected. -/
def expecting (what : Expected) (found : List Token) : FormError := .expected what found.isEmpty

/-- The error of tokens that do not start with an identifier. -/
def expectingIdentifier : List Token → FormError
  | .word name :: _ =>
      if Token.isKeyword name then .keyword (String.ofList name) else .expected .identifier false
  | found => expecting .identifier found

end FormError

namespace Path

/-- What was read, and the tokens after it. -/
abbrev Reading := Except FormError (List Token × List Token)

/-- Put tokens in front of what was read. -/
def after (front : List Token) (reading : Reading) : Reading :=
  reading.map fun (path, rest) => (front ++ path, rest)

def separator : List Token := [.mark ':' true, .mark ':' false]

/-- Whether tokens start with a double colon. -/
def startsSeparator : List Token → Bool
  | .mark ':' true :: .mark ':' _ :: _ => true
  | _ => false

/-- Names between double colons. -/
def names : List Token → Reading
  | .word name :: .mark ':' true :: .mark ':' joint :: rest =>
      if Token.isSegment name then
        match rest with
        | .word next :: _ =>
            if Token.isSegment next then after (.word name :: separator) (names rest)
            else .error (.expecting .segment rest)
        | _ => .error (.expecting .segment rest)
      else .error (.expectingIdentifier (.word name :: .mark ':' true :: .mark ':' joint :: rest))
  | .word name :: rest =>
      if Token.isSegment name then .ok ([.word name], rest)
      else .error (.expectingIdentifier (.word name :: rest))
  | found => .error (.expectingIdentifier found)

/-- A path of names, with a leading double colon or not. -/
def plain : List Token → Reading
  | .mark ':' true :: .mark ':' _ :: rest => after separator (names rest)
  | tokens => names tokens

/-- The path of an attribute: names, or one keyword that is allowed alone. -/
def ofAttribute : List Token → Reading
  | .word name :: rest =>
      if name = "unsafe".toList then .ok ([.word name], rest) else plain (.word name :: rest)
  | tokens => plain tokens

/-- The tokens up to the angle bracket that closes the open one, that one included, and the
tokens after it; `depth` counts the angle brackets that are open inside. An arrow's head closes
nothing. -/
def anglesFrom? : (depth : Nat) → List Token → Option (List Token × List Token)
  | _, [] => none
  | depth, .mark '-' true :: .mark '>' joint :: rest =>
      (anglesFrom? depth rest).map fun (inside, more) =>
        (.mark '-' true :: .mark '>' joint :: inside, more)
  | depth, .mark '<' joint :: rest =>
      (anglesFrom? (depth + 1) rest).map fun (inside, more) => (.mark '<' joint :: inside, more)
  | 0, .mark '>' joint :: rest => some ([.mark '>' joint], rest)
  | depth + 1, .mark '>' joint :: rest =>
      (anglesFrom? depth rest).map fun (inside, more) => (.mark '>' joint :: inside, more)
  | depth, t :: rest => (anglesFrom? depth rest).map fun (inside, more) => (t :: inside, more)

/-- Type arguments whose angle bracket has been opened. -/
def angles (tokens : List Token) : Reading :=
  match anglesFrom? 0 tokens with
  | some reading => .ok reading
  | none => .error (.expected (.mark ">") false)

/-- Segments with their type arguments between double colons, for any `fuel` not below the number
of tokens. -/
def segmentsWith : (fuel : Nat) → List Token → Reading
  | 0, found => .error (.expectingIdentifier found)
  | fuel + 1, .word name :: rest =>
      let fixed := name = "super".toList ∨ name = "self".toList ∨ name = "crate".toList ∨
        name = "try".toList
      let continued (front : List Token) (rest : List Token) : Reading :=
        match rest with
        | .mark ':' true :: .mark ':' _ :: .opening .paren :: _ => .ok (front, rest)
        | .mark ':' true :: .mark ':' _ :: more =>
            after (front ++ separator) (segmentsWith fuel more)
        | _ => .ok (front, rest)
      if fixed then continued [.word name] rest
      else if Token.isKeyword name ∧ name ≠ "Self".toList then
        .error (.expectingIdentifier (.word name :: rest))
      else
        match rest with
        | .mark ':' true :: .mark ':' _ :: .mark '<' joint :: more =>
            match angles more with
            | .error e => .error e
            | .ok (inside, more) =>
                continued (.word name :: separator ++ .mark '<' joint :: inside) more
        | _ => continued [.word name] rest
  | _ + 1, found => .error (.expectingIdentifier found)

def segments (tokens : List Token) : Reading := segmentsWith tokens.length tokens

/-- What stands after `as` in the angle brackets of a qualified type, without the closing one. -/
def viewPath : List Token → List Token
  | [] => []
  | .word name :: rest =>
      if name = "as".toList then rest.dropLast else viewPath rest
  | _ :: rest => viewPath rest

/-- A path as it stands in an expression. Of a qualified type only the path after `as` is kept,
and nothing when there is none. -/
def inExpression : List Token → Reading
  | .mark '<' _ :: rest =>
      match angles rest with
      | .error e => .error e
      | .ok (inside, .mark ':' true :: .mark ':' _ :: more) =>
          after (viewPath inside ++ separator) (segments more)
      | .ok _ => .error (.expected (.mark "::") false)
  | .mark ':' true :: .mark ':' _ :: rest => after separator (segments rest)
  | tokens => segments tokens

end Path

end QueryBind.Declaration
