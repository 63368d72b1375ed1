/-
# QueryBind.Marker — argument markers in clause texts

A clause is written with `?` where an argument goes, and with a backslash before a `?` that
belongs to the text. Reading a clause gives `Symbol`s: the characters of the text, and the
places of arguments, counted from the clause's own first argument. Numbering is left to the
end: `Symbol.render` writes place `k` as argument number `start + k`, so the same symbols give
the numbered and the unnumbered text.
-/
import QueryBind.Dialect

namespace QueryBind

set_option autoImplicit false

/-- A character of a statement's text, or the place of an argument. -/
inductive Symbol where
  | char (c : Char)
  | place (offset : Nat)
  deriving DecidableEq, Repr

namespace Symbol

def isPlace : Symbol → Bool
  | .char _ => false
  | .place _ => true

/-- The offset of an argument place. -/
def offset? : Symbol → Option Nat
  | .char _ => none
  | .place offset => some offset

/-- The symbol among arguments that follow `count` others. -/
def shift (count : Nat) : Symbol → Symbol
  | .char c => .char c
  | .place offset => .place (count + offset)

/-- The text of one symbol when the first argument has number `start`. -/
def text (numbered : Bool) (start : Nat) : Symbol → List Char
  | .char c => [c]
  | .place offset => Dialect.placeText numbered (start + offset)

/-- The text of a symbol list when the first argument has number `start`. -/
def render (numbered : Bool) (start : Nat) (symbols : List Symbol) : List Char :=
  symbols.flatMap (text numbered start)

/-- A text without argument places. -/
def ofText (s : List Char) : List Symbol := s.map .char

end Symbol

namespace Marker

/-- The symbols of a clause whose first marker is place `next`; a backslash before a `?` is
dropped and keeps that `?` a character. -/
def readFrom : (next : Nat) → List Char → List Symbol
  | _, [] => []
  | next, '\\' :: '?' :: rest => .char '?' :: readFrom next rest
  | next, '?' :: rest => .place next :: readFrom (next + 1) rest
  | next, c :: rest => .char c :: readFrom next rest

/-- The symbols of a clause. -/
def read (clause : List Char) : List Symbol := readFrom 0 clause

/-- How many arguments the markers of a clause take. -/
def count (clause : List Char) : Nat := (read clause).countP Symbol.isPlace

/-- The comma-separated places `first`, …, `first + count - 1`; a group size above one encloses
every run of that many places in parentheses. -/
def placeList (first count group : Nat) : List Symbol :=
  (List.range count).flatMap fun i =>
    (if i = 0 then [] else [.char ',']) ++
    (if 1 < group ∧ i % group = 0 then [.char '('] else []) ++
    [.place (first + i)] ++
    (if 1 < group ∧ (i + 1) % group = 0 then [.char ')'] else [])

/-- The symbols of a clause whose first marker stands for `total` places at once, written as a
parenthesised list; the text after that marker is taken as it is. -/
def expandFrom (first group total : Nat) : List Char → List Symbol
  | [] => []
  | '\\' :: '?' :: rest => .char '?' :: expandFrom first group total rest
  | '?' :: rest => .char '(' :: placeList first total group ++ .char ')' :: Symbol.ofText rest
  | c :: rest => .char c :: expandFrom first group total rest

/-- A clause with a marker outside escapes. -/
def hasMarker : List Char → Bool
  | [] => false
  | '\\' :: '?' :: rest => hasMarker rest
  | '?' :: _ => true
  | _ :: rest => hasMarker rest

/-- How many places `expandFrom` writes: all of them, or none without a marker. -/
def expandCount (total : Nat) (clause : List Char) : Nat := if hasMarker clause then total else 0

end Marker

end QueryBind
