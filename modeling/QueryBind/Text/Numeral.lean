/-
# QueryBind.Text.Numeral — decimal numerals
-/

namespace QueryBind.Text

set_option autoImplicit false

/-- The decimal digits of a natural number, without leading zeros. -/
def natural (n : Nat) : List Char := Nat.toDigits 10 n

/-- The decimal digits of an integer, a minus sign before a negative one. -/
def integer (n : Int) : List Char := (if n < 0 then ['-'] else []) ++ natural n.natAbs

/-- The decimal digits of `n`, with leading zeros up to `width`. -/
def padded (width n : Nat) : List Char :=
  List.replicate (width - (natural n).length) '0' ++ natural n

/-- The number that decimal digits spell, after those read so far. -/
def naturalFrom? : (acc : Nat) → List Char → Option Nat
  | acc, [] => some acc
  | acc, c :: rest =>
      if c.isDigit then naturalFrom? (10 * acc + (c.toNat - '0'.toNat)) rest else none

/-- The number that a non-empty run of decimal digits spells. -/
def natural? (digits : List Char) : Option Nat :=
  if digits.isEmpty then none else naturalFrom? 0 digits

/-- The integer that a numeral with an optional sign spells. -/
def integer? : List Char → Option Int
  | '-' :: digits => (natural? digits).map fun n => -(n : Int)
  | '+' :: digits => (natural? digits).map fun n => (n : Int)
  | digits => (natural? digits).map fun n => (n : Int)

end QueryBind.Text
