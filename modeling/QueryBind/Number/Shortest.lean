/-
# QueryBind.Number.Shortest — the fewest digits that read back

A finite double stands for all reals that round to it: an interval around it whose ends
belong to it exactly when its significand is even. `Shortest.digits` takes the fewest decimal
digits of a number in that interval, and of those the number nearest to the double; which of
two equally near ones is taken is the format's choice (`Tie`).
-/
import QueryBind.Number.Binary

namespace QueryBind

set_option autoImplicit false

/-- The decimal number `0.d₁d₂d₃… * 10 ^ point`, by its significant digits `d₁d₂d₃…`. -/
structure Decimal where
  digits : List Nat
  point : Int
  deriving DecidableEq, Repr

namespace Shortest

/-- Which of two equally near candidates is taken. -/
inductive Tie where
  | toEven
  | up
  deriving DecidableEq, Repr

/-- The least `j` up to `fuel` with `den ≤ num * 10 ^ j`. -/
def firstScale : (fuel : Nat) → (num den : Nat) → Nat
  | 0, _, _ => 0
  | fuel + 1, num, den => if den ≤ num then 0 else firstScale fuel (10 * num) den + 1

/-- The exponent of the leading decimal digit of a positive fraction; no double is below
`10 ^ -324`. -/
def leadingExponent (num den : Nat) : Int :=
  if den ≤ num then ((Nat.toDigits 10 (num / den)).length : Int) - 1
  else -(firstScale 400 num den : Int)

/-- The reals that read back as one double, all over one denominator. -/
structure Interval where
  value : Nat
  lowest : Nat
  highest : Nat
  den : Nat
  closed : Bool

/-- The interval of the number `significand * 2 ^ exponent`; below a power of two the next
double is half as far as above it. -/
def interval (significand : Nat) (exponent : Int) : Interval :=
  let scale := if 2 ≤ exponent then Nat.pow 2 (exponent - 2).toNat else 1
  let den := if 2 ≤ exponent then 1 else Nat.pow 2 (2 - exponent).toNat
  let below :=
    if significand = Nat.pow 2 52 ∧ Binary.Format.binary64.leastExponent < exponent then 1 else 2
  ⟨4 * significand * scale, (4 * significand - below) * scale, (4 * significand + 2) * scale, den,
    significand % 2 = 0⟩

/-- Whether the number `n / m` lies in the interval. -/
def Interval.holds (i : Interval) (n m : Nat) : Bool :=
  let low := i.lowest * m
  let high := i.highest * m
  let x := n * i.den
  if i.closed then low ≤ x && x ≤ high else low < x && x < high

/-- The candidate on the grid of `10 ^ grid` that reads back: of the value's two neighbours on
the grid, those in the interval, and of these the nearer. -/
def candidate? (tie : Tie) (i : Interval) (grid : Int) : Option Nat :=
  let up := if 0 ≤ grid then Nat.pow 10 grid.toNat else 1
  let down := if 0 ≤ grid then 1 else Nat.pow 10 (-grid).toNat
  let num := i.value * down
  let den := i.den * up
  let low := num / den
  let rest := num % den
  let lowHolds := i.holds (low * up) down
  let highHolds := i.holds ((low + 1) * up) down
  if lowHolds && highHolds then
    if 2 * rest < den then some low
    else if den < 2 * rest then some (low + 1)
    else
      match tie with
      | .toEven => some (low + low % 2)
      | .up => some (low + 1)
  else if lowHolds then some low
  else if highHolds then some (low + 1)
  else none

/-- The first candidate on grids of `count`, `count + 1`, … digits, with its grid. -/
def search (tie : Tie) (i : Interval) (lead : Int) : (fuel count : Nat) → Nat × Int
  | 0, _ => (0, 0)
  | fuel + 1, count =>
      let grid := lead - count + 1
      match candidate? tie i grid with
      | some n => (n, grid)
      | none => search tie i lead fuel (count + 1)

/-- A number without its trailing zeros, at most `fuel` of them, and how many they were. -/
def dropZeros : (fuel : Nat) → Nat → Nat × Nat
  | 0, n => (n, 0)
  | fuel + 1, n =>
      if n % 10 = 0 ∧ n ≠ 0 then
        let (m, k) := dropZeros fuel (n / 10)
        (m, k + 1)
      else (n, 0)

/-- The fewest digits that read back as the positive number `significand * 2 ^ exponent`; no
double needs more than 17. -/
def digits (tie : Tie) (significand : Nat) (exponent : Int) : Decimal :=
  let i := interval significand exponent
  let (n, grid) := search tie i (leadingExponent i.value i.den) 17 1
  let (m, zeros) := dropZeros 20 n
  let ds := (Nat.toDigits 10 m).map fun c => c.toNat - '0'.toNat
  ⟨ds, grid + zeros + ds.length⟩

end Shortest

/-- How a double is written. -/
structure FloatStyle where
  tie : Shortest.Tie
  /-- The decimal exponents, of the leading digit, that are written positionally. -/
  leastPositional : Int
  greatestPositional : Int
  /-- A plus sign before an exponent that is not negative. -/
  plusSign : Bool
  deriving DecidableEq, Repr

namespace FloatStyle

def digitChars (ds : List Nat) : List Char := ds.map Nat.digitChar

/-- A decimal number with its point in place and at least one digit after it. -/
def positional (d : Decimal) : List Char :=
  let chars := digitChars d.digits
  if d.point ≤ 0 then '0' :: '.' :: List.replicate (-d.point).toNat '0' ++ chars
  else
    let whole := d.point.toNat
    let front := chars.take whole ++ List.replicate (whole - chars.length) '0'
    let back := chars.drop whole
    front ++ '.' :: (if back.isEmpty then ['0'] else back)

/-- A decimal number with one digit before the point and an exponent of ten. -/
def scientific (plusSign : Bool) (d : Decimal) : List Char :=
  let exponent := d.point - 1
  let mantissa :=
    match digitChars d.digits with
    | [] => ['0']
    | [c] => [c]
    | c :: rest => c :: '.' :: rest
  let sign := if exponent < 0 then ['-'] else if plusSign then ['+'] else []
  mantissa ++ 'e' :: sign ++ Nat.toDigits 10 exponent.natAbs

/-- The text of a magnitude. -/
def magnitude (style : FloatStyle) (significand : Nat) (exponent : Int) : List Char :=
  if significand = 0 then ['0', '.', '0']
  else
    let d := Shortest.digits style.tie significand exponent
    if style.leastPositional ≤ d.point - 1 ∧ d.point - 1 ≤ style.greatestPositional then
      positional d
    else scientific style.plusSign d

/-- The text of a double. -/
def write (style : FloatStyle) (d : Double) : List Char :=
  match d.reading with
  | .notANumber => ['N', 'a', 'N']
  | .infinite negative => (if negative then ['-'] else []) ++ ['i', 'n', 'f']
  | .finite negative significand exponent =>
      (if negative then ['-'] else []) ++ style.magnitude significand exponent

end FloatStyle

end QueryBind
