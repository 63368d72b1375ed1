/-
# QueryBind.Text.Charset — sets of characters as runs of code points

A `Run` is an arithmetic progression of code points. Properties of characters are lists of
runs; the tables themselves are in the modules below this one.
-/

namespace QueryBind.Text

set_option autoImplicit false

/-- The code points `first`, `first + step`, … up to `last`. -/
structure Run where
  first : Nat
  last : Nat
  step : Nat := 1
  deriving DecidableEq, Repr

namespace Run

def holds (r : Run) (point : Nat) : Bool :=
  r.first ≤ point && point ≤ r.last && (point - r.first) % r.step == 0

end Run

/-- A set of characters, as runs of their code points. -/
abbrev Charset := List Run

namespace Charset

def holds (s : Charset) (c : Char) : Bool := s.any fun r => r.holds c.toNat

/-- Consecutive code points, by the first and the last of each run. -/
def ofSpans (spans : List (Nat × Nat)) : Charset := spans.map fun (first, last) => ⟨first, last, 1⟩

/-- Every second code point, by the first and the last of each run. -/
def ofPairs (spans : List (Nat × Nat)) : Charset := spans.map fun (first, last) => ⟨first, last, 2⟩

end Charset

end QueryBind.Text
