/-
# QueryBind.Number.Binary — binary floating point, kept as bits

A `Double` is its 64 bits and a `Single` its 32 bits, so equality is equality of bits. The
arithmetic that the library needs is exact: a finite number is a fraction, and
`Format.round` gives the bits of the number of a format that is nearest to a fraction, the
even one of two equally near ones. Conversions and scaling are a decoding followed by one
rounding.
-/

namespace QueryBind

set_option autoImplicit false

/-- A binary interchange format: the widths of its fraction and exponent fields. -/
structure Binary.Format where
  fractionBits : Nat
  exponentBits : Nat
  deriving DecidableEq, Repr

namespace Binary.Format

def binary64 : Format := ⟨52, 11⟩
def binary32 : Format := ⟨23, 8⟩

def bias (f : Format) : Nat := Nat.pow 2 (f.exponentBits - 1) - 1

/-- The bits of positive infinity, which are also the number of finite magnitudes. -/
def infinity (f : Format) : Nat := (Nat.pow 2 f.exponentBits - 1) * Nat.pow 2 f.fractionBits

/-- The sign field alone. -/
def signBit (f : Format) : Nat := Nat.pow 2 (f.fractionBits + f.exponentBits)

/-- The canonical not-a-number. -/
def quietNaN (f : Format) : Nat := f.infinity + Nat.pow 2 (f.fractionBits - 1)

/-- The exponent of the smallest positive number, a power of two. -/
def leastExponent (f : Format) : Int := 1 - (f.bias : Int) - f.fractionBits

/-- The quotient rounded to nearest, an exact half to the even neighbour. -/
def divHalfEven (num den : Nat) : Nat :=
  let q := num / den
  let r := num % den
  if 2 * r < den then q else if den < 2 * r then q + 1 else q + q % 2

/-- The largest `l` with `2 ^ l ≤ num / den`, for positive `num` and `den`. -/
def log2Ratio (num den : Nat) : Int :=
  let guess : Int := (num.log2 : Int) - den.log2
  let fits :=
    if 0 ≤ guess then den * Nat.pow 2 guess.toNat ≤ num
    else den ≤ num * Nat.pow 2 (-guess).toNat
  if fits then guess else guess - 1

/-- The magnitude bits of the number nearest to the fraction `num / den`. -/
def roundMagnitude (f : Format) (num den : Nat) : Nat :=
  if num = 0 ∨ den = 0 then 0
  else
    let exponent := max f.leastExponent (log2Ratio num den - f.fractionBits)
    let quotient :=
      if 0 ≤ exponent then divHalfEven num (den * Nat.pow 2 exponent.toNat)
      else divHalfEven (num * Nat.pow 2 (-exponent).toNat) den
    min f.infinity ((exponent - f.leastExponent).toNat * Nat.pow 2 f.fractionBits + quotient)

/-- The bits of the number nearest to the fraction, with the given sign. -/
def round (f : Format) (negative : Bool) (num den : Nat) : Nat :=
  (if negative then f.signBit else 0) + f.roundMagnitude num den

end Binary.Format

/-- What the bits of a binary format stand for. -/
inductive Binary.Reading where
  /-- The number `significand * 2 ^ exponent`, with a sign. -/
  | finite (negative : Bool) (significand : Nat) (exponent : Int)
  | infinite (negative : Bool)
  | notANumber
  deriving DecidableEq, Repr

namespace Binary.Format

/-- The reading of the bits of a format. -/
def read (f : Format) (bits : Nat) : Reading :=
  let negative := f.signBit ≤ bits
  let magnitude := bits % f.signBit
  if f.infinity < magnitude then .notANumber
  else if magnitude = f.infinity then .infinite negative
  else
    let field := magnitude / Nat.pow 2 f.fractionBits
    let fraction := magnitude % Nat.pow 2 f.fractionBits
    if field = 0 then .finite negative fraction f.leastExponent
    else .finite negative (Nat.pow 2 f.fractionBits + fraction) (f.leastExponent + field - 1)

/-- The bits that a reading has after rounding to the format. -/
def ofReading (f : Format) : Reading → Nat
  | .notANumber => f.quietNaN
  | .infinite negative => (if negative then f.signBit else 0) + f.infinity
  | .finite negative significand exponent =>
      if 0 ≤ exponent then f.round negative (significand * Nat.pow 2 exponent.toNat) 1
      else f.round negative significand (Nat.pow 2 (-exponent).toNat)

end Binary.Format

open Binary

/-- A double-precision number, as its bits. -/
structure Double where
  bits : UInt64
  deriving DecidableEq, Repr

/-- A single-precision number, as its bits. -/
structure Single where
  bits : UInt32
  deriving DecidableEq, Repr

namespace Double

instance : Inhabited Double := ⟨⟨0⟩⟩

def nan : Double := ⟨UInt64.ofNat Format.binary64.quietNaN⟩

def reading (d : Double) : Reading := Format.binary64.read d.bits.toNat

def isNaN (d : Double) : Bool := d.reading == .notANumber

/-- The double nearest to a fraction. -/
def ofRatio (negative : Bool) (num den : Nat) : Double :=
  ⟨UInt64.ofNat (Format.binary64.round negative num den)⟩

/-- The double nearest to an integer. -/
def ofInt (n : Int) : Double := ofRatio (n < 0) n.natAbs 1

/-- The number with every not-a-number made the canonical one. -/
def canonical (d : Double) : Double := if d.isNaN then nan else d

/-- A finite magnitude as a fraction. -/
def ratio? (d : Double) : Option (Nat × Nat) :=
  match d.reading with
  | .finite _ significand exponent =>
      if 0 ≤ exponent then some (significand * Nat.pow 2 exponent.toNat, 1)
      else some (significand, Nat.pow 2 (-exponent).toNat)
  | _ => none

def isInfinite (d : Double) : Bool :=
  match d.reading with
  | .infinite _ => true
  | _ => false

def isZero (d : Double) : Bool :=
  match d.reading with
  | .finite _ significand _ => significand == 0
  | _ => false

/-- The double nearest to `10 ^ exponent`. -/
def tenPow (exponent : Nat) : Double := ofRatio false (Nat.pow 10 exponent) 1

/-- The double nearest to the product of two finite magnitudes. -/
def times (a b : Double) : Double :=
  match a.ratio?, b.ratio? with
  | some (n, m), some (p, q) => ofRatio false (n * p) (m * q)
  | _, _ => nan

/-- The double nearest to the quotient of two finite magnitudes, the second one positive. -/
def dividedBy (a b : Double) : Double :=
  match a.ratio?, b.ratio? with
  | some (n, m), some (p, q) => ofRatio false (n * q) (m * p)
  | _, _ => nan

/-- The number with its sign reversed. -/
def negate (d : Double) : Double := ⟨d.bits ^^^ UInt64.ofNat Format.binary64.signBit⟩

end Double

namespace Single

instance : Inhabited Single := ⟨⟨0⟩⟩

def reading (s : Single) : Reading := Format.binary32.read s.bits.toNat

/-- The single nearest to an integer. -/
def ofInt (n : Int) : Single := ⟨UInt32.ofNat (Format.binary32.round (n < 0) n.natAbs 1)⟩

/-- The single nearest to a double. -/
def ofDouble (d : Double) : Single := ⟨UInt32.ofNat (Format.binary32.ofReading d.reading)⟩

/-- The same number in double precision, which holds every single exactly. -/
def toDouble (s : Single) : Double := ⟨UInt64.ofNat (Format.binary64.ofReading s.reading)⟩

end Single

end QueryBind
