/-
# QueryBind.Identifier — quoting of dotted identifiers

Only a text that reads as a dotted identifier is quoted; any other expression (a call, an
aliased table, a subquery, `*` alone) passes through unchanged, so raw SQL may stand in a
column or table list. A segment is a name, written bare or inside the quote pair, or a final
`*`. `Quotes.segments?` reads a text into its segments and `Quotes.render` writes segments
back with every name quoted, so `Quotes.quote` is the one after the other.
-/
import QueryBind.Text.Pieces

namespace QueryBind

set_option autoImplicit false

open Text

/-- The characters that open and close a quoted identifier. -/
structure Quotes where
  opening : Char
  closing : Char
  deriving DecidableEq, Repr

namespace Identifier

/-- One dotted part of an identifier. -/
inductive Segment where
  | name (text : List Char)
  | star
  deriving DecidableEq, Repr

def startsName (c : Char) : Bool := c == '_' || c.isAlpha

def continuesName (c : Char) : Bool := c == '_' || c == '$' || c == '-' || c.isAlphanum

/-- A name that may stand unquoted: an ASCII letter or underscore, then ASCII letters, digits,
underscores, dollar signs and hyphens. -/
def isBare : List Char → Bool
  | [] => false
  | c :: rest => startsName c && rest.all continuesName

end Identifier

open Identifier

namespace Quotes

/-- The text between the quote pair, when the text is enclosed in it. -/
def inner? (q : Quotes) : List Char → Option (List Char)
  | [] => none
  | c :: rest =>
      if c = q.opening ∧ rest.getLast? = some q.closing then some rest.dropLast else none

/-- One quote pair removed, when there is one. -/
def strip (q : Quotes) (s : List Char) : List Char := (q.inner? s).getD s

/-- One quote pair added. -/
def enclose (q : Quotes) (name : List Char) : List Char := q.opening :: name ++ [q.closing]

/-- The name that a part other than `*` stands for: a bare name inside the quote pair, or
itself bare. -/
def name? (q : Quotes) (part : List Char) : Option (List Char) :=
  match (q.inner? part).filter isBare with
  | some name => some name
  | none => if isBare part then some part else none

/-- The segments of the parts of a text; a `*` may only be the last of several parts. -/
def segmentsOf? (q : Quotes) : (isFirst : Bool) → List (List Char) → Option (List Segment)
  | _, [] => some []
  | isFirst, part :: rest =>
      if part = ['*'] then
        if rest.isEmpty && !isFirst then some [.star] else none
      else
        match q.name? part, q.segmentsOf? false rest with
        | some name, some segments => some (.name name :: segments)
        | _, _ => none

/-- The segments of a text that reads as a dotted identifier. -/
def segments? (q : Quotes) (s : List Char) : Option (List Segment) :=
  q.segmentsOf? true (s.splitOn '.')

def isIdentifier (q : Quotes) (s : List Char) : Bool := (q.segments? s).isSome

def renderSegment (q : Quotes) : Segment → List Char
  | .name text => q.enclose text
  | .star => ['*']

/-- The segments with every name quoted, joined by dots. -/
def render (q : Quotes) (segments : List Segment) : List Char :=
  ['.'].intercalate (segments.map q.renderSegment)

/-- A text that is never quoted: the argument marker, and the null literal in any case. -/
def isLiteral (s : List Char) : Bool := s == ['?'] || sameIgnoringCase s ['n', 'u', 'l', 'l']

/-- The text with every name quoted when it reads as an identifier, and unchanged otherwise. -/
def quote (q : Quotes) (s : List Char) : List Char :=
  if isLiteral s then s
  else
    match q.segments? s with
    | some segments => q.render segments
    | none => s

/-- The text with the quote pair removed from every dotted part. -/
def unquote (q : Quotes) (s : List Char) : List Char :=
  ['.'].intercalate ((s.splitOn '.').map q.strip)

end Quotes

/-- A table of a FROM list, with the alias it is given. -/
structure TableSource where
  name : List Char
  alias? : Option (List Char)
  deriving DecidableEq, Repr

namespace TableSource

/-- The word that names the alias among the words after the table's name: the first word,
unless it is `as`, which is skipped, or `on`, which ends the entry. -/
def aliasWord? : List (List Char) → Option (List Char)
  | [] => none
  | word :: rest =>
      if sameIgnoringCase word ['a', 's'] then rest.head?
      else if sameIgnoringCase word ['o', 'n'] then none
      else some word

/-- A FROM entry read as a table and its alias, quotes removed. -/
def parse? (q : Quotes) (entry : List Char) : Option TableSource :=
  match words entry with
  | [] => none
  | name :: rest =>
      if q.isIdentifier name then
        match aliasWord? rest with
        | none => some ⟨q.unquote name, none⟩
        | some word =>
            if q.isIdentifier word then some ⟨q.unquote name, some (q.unquote word)⟩ else none
      else none

/-- The name that columns of the table are qualified with. -/
def qualifier (t : TableSource) : List Char := t.alias?.getD t.name

end TableSource

end QueryBind
