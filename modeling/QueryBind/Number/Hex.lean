/-
# QueryBind.Number.Hex — hexadecimal digits

Numbers and bytes written with the lower-case digits `0`–`9`, `a`–`f`; reading takes either
case.
-/

namespace QueryBind.Hex

set_option autoImplicit false

/-- The value of a hexadecimal digit of either case. -/
def digit? (c : Char) : Option Nat :=
  let n := c.toNat
  if 0x30 ≤ n ∧ n ≤ 0x39 then some (n - 0x30)
  else if 0x41 ≤ n ∧ n ≤ 0x46 then some (n - 0x41 + 10)
  else if 0x61 ≤ n ∧ n ≤ 0x66 then some (n - 0x61 + 10)
  else none

/-- The number that digits spell, most significant first, after the digits read so far. -/
def readFrom? : (acc : Nat) → List Char → Option Nat
  | acc, [] => some acc
  | acc, c :: rest =>
      match digit? c with
      | some d => readFrom? (16 * acc + d) rest
      | none => none

def read? (digits : List Char) : Option Nat := readFrom? 0 digits

/-- The shortest lower-case digits of a number. -/
def write (n : Nat) : List Char := Nat.toDigits 16 n

/-- The `width` lowest digits of a number, zeros included. -/
def writePadded : (width : Nat) → Nat → List Char
  | 0, _ => []
  | width + 1, n => writePadded width (n / 16) ++ [Nat.digitChar (n % 16)]

/-- Two digits for each byte. -/
def writeBytes (bytes : List UInt8) : List Char := bytes.flatMap fun b => writePadded 2 b.toNat

/-- The bytes that pairs of digits spell. -/
def readBytes? : List Char → Option (List UInt8)
  | [] => some []
  | [_] => none
  | high :: low :: rest =>
      match digit? high, digit? low, readBytes? rest with
      | some h, some l, some bytes => some (UInt8.ofNat (16 * h + l) :: bytes)
      | _, _, _ => none

end QueryBind.Hex
