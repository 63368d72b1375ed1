/-
# QueryBind.Declaration.Token — the tokens of type declarations

Declarations, their attributes and the types of their fields are sequences of tokens. Groups are
kept as their delimiters, which match (`isBalanced`); `Token.group?` cuts a sequence at the
delimiter that closes a group. A mark is one punctuation character that knows whether another one
follows at once, so that `::` differs from `: :`.
-/

namespace QueryBind.Declaration

set_option autoImplicit false

inductive Delimiter where
  | paren | bracket | brace
  deriving DecidableEq, Repr

def Delimiter.opener : Delimiter → Char
  | .paren => '('
  | .bracket => '['
  | .brace => '\x7b'

def Delimiter.closer : Delimiter → Char
  | .paren => ')'
  | .bracket => ']'
  | .brace => '\x7d'

inductive Token where
  /-- An identifier or a keyword; a raw identifier keeps its `r#`. -/
  | word (name : List Char)
  | lifetime (name : List Char)
  /-- A string literal: the text it stands for, and the way it is written. -/
  | string (value : List Char) (written : List Char)
  /-- Any other literal, the way it is written. -/
  | literal (written : List Char)
  | mark (c : Char) (joint : Bool)
  | opening (delimiter : Delimiter)
  | closing (delimiter : Delimiter)
  deriving DecidableEq, Repr

namespace Token

/-- The way a token is written. -/
def text : Token → List Char
  | .word name => name
  | .lifetime name => '\x27' :: name
  | .string _ written => written
  | .literal written => written
  | .mark c _ => [c]
  | .opening d => [d.opener]
  | .closing d => [d.closer]

/-- Tokens written without any spaces. -/
def compact (tokens : List Token) : List Char := (tokens.flatMap text).filter (· != ' ')

/-- Whether all groups are closed, given the delimiters of those that are open. -/
def isBalancedFrom : (opened : List Delimiter) → List Token → Bool
  | opened, [] => opened.isEmpty
  | opened, .opening d :: rest => isBalancedFrom (d :: opened) rest
  | opened, .closing d :: rest =>
      match opened with
      | [] => false
      | innermost :: outer => d = innermost && isBalancedFrom outer rest
  | opened, _ :: rest => isBalancedFrom opened rest

def isBalanced (tokens : List Token) : Bool := isBalancedFrom [] tokens

/-- The tokens up to the delimiter that closes the group they are in, and those after it;
`depth` counts the groups that are open inside. -/
def groupFrom? : (depth : Nat) → List Token → Option (List Token × List Token)
  | _, [] => none
  | 0, .closing _ :: rest => some ([], rest)
  | depth + 1, .closing d :: rest =>
      (groupFrom? depth rest).map fun (inside, after) => (.closing d :: inside, after)
  | depth, .opening d :: rest =>
      (groupFrom? (depth + 1) rest).map fun (inside, after) => (.opening d :: inside, after)
  | depth, t :: rest => (groupFrom? depth rest).map fun (inside, after) => (t :: inside, after)

/-- The inside of a group that has been opened, and the tokens after it. -/
def group? (tokens : List Token) : Option (List Token × List Token) := groupFrom? 0 tokens

/-- The words that are no identifiers. -/
def keywords : List String :=
  ["_", "abstract", "as", "async", "await", "become", "box", "break", "const", "continue", "crate",
    "do", "dyn", "else", "enum", "extern", "false", "final", "fn", "for", "if", "impl", "in", "let",
    "loop", "macro", "match", "mod", "move", "mut", "override", "priv", "pub", "ref", "return",
    "Self", "self", "static", "struct", "super", "trait", "true", "try", "type", "typeof", "unsafe",
    "unsized", "use", "virtual", "where", "while", "yield"]

def isKeyword (name : List Char) : Bool := keywords.contains (String.ofList name)

/-- The keywords that may stand in a path. -/
def pathKeywords : List String := ["super", "self", "Self", "crate"]

/-- Whether a word may be a segment of a path. -/
def isSegment (name : List Char) : Bool :=
  !isKeyword name || pathKeywords.contains (String.ofList name)

end Token

end QueryBind.Declaration
