/-
# QueryBind.Query.Membership — predicates with IN and NOT IN

The keyword of a membership clause is the first IN, or NOT and IN with blanks between, that is
delimited on both sides: a blank, a closing parenthesis or a marker before it, a blank, an opening
parenthesis or a marker after it. What stands left of it may take arguments of its own; the
rest of the arguments is the list on the right, in groups as large as the left side has
columns.
-/
import QueryBind.Query.Fragment

namespace QueryBind

set_option autoImplicit false

open Text

/-- A clause cut at its IN keyword; the two sides keep their blanks. -/
structure Membership where
  left : List Char
  negated : Bool
  right : List Char
  deriving DecidableEq, Repr

namespace Membership

def endsLeft (c : Char) : Bool := isBlank c || c == ')' || c == '?'

def startsRight (c : Char) : Bool := isBlank c || c == '(' || c == '?'

/-- The text after IN, when it starts with a delimiter. -/
def afterIn? : List Char → Option (List Char)
  | i :: n :: c :: rest =>
      if i.toLower = 'i' ∧ n.toLower = 'n' ∧ startsRight c then some (c :: rest) else none
  | _ => none

/-- The keyword at the head of a text: whether it is negated, and the text after it. -/
def keyword? (s : List Char) : Option (Bool × List Char) :=
  match s with
  | n :: o :: t :: b :: rest =>
      if n.toLower = 'n' ∧ o.toLower = 'o' ∧ t.toLower = 't' ∧ isBlank b then
        (afterIn? (rest.dropWhile isBlank)).map fun right => (true, right)
      else (afterIn? s).map fun right => (false, right)
  | _ => (afterIn? s).map fun right => (false, right)

/-- The cut at the first keyword of a text whose preceding part, read backwards, is `before`. -/
def cut? : (before : List Char) → List Char → Option Membership
  | _, [] => none
  | before, c :: rest =>
      match before.head?, keyword? (c :: rest) with
      | some p, some (negated, right) =>
          if endsLeft p then some ⟨before.reverse, negated, right⟩ else cut? (c :: before) rest
      | _, _ => cut? (c :: before) rest

/-- The cut of a clause at its keyword. -/
def ofClause? (clause : List Char) : Option Membership := cut? [] clause

/-- The text between parentheses that enclose the whole. -/
def enclosed? : List Char → Option (List Char)
  | [] => none
  | c :: rest => if c = '(' ∧ rest.getLast? = some ')' then some rest.dropLast else none

/-- How many values one element of the list has: the number of comma-separated parts of a
parenthesised left side, and one for any other. -/
def groupSize (left : List Char) : Nat :=
  match enclosed? left with
  | some inner => (inner.splitOn ',').length
  | none => 1

/-- The keyword in capitals between single blanks. -/
def keywordText (negated : Bool) : List Char := (if negated then " NOT IN " else " IN ").toList

/-- The symbols of a cut clause with `total` arguments. -/
def symbols (m : Membership) (total : Nat) : List Symbol :=
  let left := trim m.left
  let taken := Marker.count left
  Marker.read left ++ Symbol.ofText (keywordText m.negated) ++
    Marker.expandFrom taken (groupSize left) (total - taken) (trim m.right)

/-- The symbols of a membership clause with `total` arguments; without a keyword the first
marker takes them all. -/
def clauseSymbols (clause : List Char) (total : Nat) : List Symbol :=
  match ofClause? clause with
  | some m => m.symbols total
  | none => Marker.expandFrom 0 1 total clause

end Membership

end QueryBind
