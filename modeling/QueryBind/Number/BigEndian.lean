/-
# QueryBind.Number.BigEndian — integers as bytes, the most significant first

`bytes width n` is the two's complement form of `n` on `width` bytes and `toInt` reads it
back as a signed number, `toNat` as an unsigned one.
-/

namespace QueryBind.BigEndian

set_option autoImplicit false

/-- The `width` lowest bytes of a natural number. -/
def natBytes : (width : Nat) → Nat → List UInt8
  | 0, _ => []
  | width + 1, n => natBytes width (n / 256) ++ [UInt8.ofNat n]

/-- The two's complement form of an integer on `width` bytes. -/
def bytes (width : Nat) (n : Int) : List UInt8 :=
  natBytes width (n % (Nat.pow 256 width : Nat)).toNat

/-- The unsigned number that bytes spell. -/
def toNat (s : List UInt8) : Nat := s.foldl (fun acc b => 256 * acc + b.toNat) 0

/-- The signed number that bytes spell in two's complement. -/
def toInt (s : List UInt8) : Int := Int.bmod (toNat s) (Nat.pow 256 s.length)

/-- Whether an integer has a two's complement form on `width` bytes. -/
def fits (width : Nat) (n : Int) : Bool :=
  let half : Int := Nat.pow 2 (8 * width - 1)
  n < half && -half ≤ n

end QueryBind.BigEndian
