/-
# QueryBind.Uuid — universally unique identifiers

A `Uuid` is a 128-bit number, written as 32 hexadecimal digits in groups of 8, 4, 4, 4
and 12. Reading also takes the digits without hyphens, and the hyphenated form in braces or
after `urn:uuid:`.
-/
import QueryBind.Number.Hex
import QueryBind.Number.BigEndian

namespace QueryBind

set_option autoImplicit false

structure Uuid where
  value : BitVec 128
  deriving DecidableEq, Repr

namespace Uuid

instance : Inhabited Uuid := ⟨⟨0⟩⟩

/-- The sixteen bytes, most significant first. -/
def bytes (u : Uuid) : List UInt8 := BigEndian.natBytes 16 u.value.toNat

def ofBytes? (s : List UInt8) : Option Uuid :=
  if s.length = 16 then some ⟨BitVec.ofNat 128 (BigEndian.toNat s)⟩ else none

/-- The hyphenated lower-case text. -/
def text (u : Uuid) : List Char :=
  let digits := Hex.writePadded 32 u.value.toNat
  digits.take 8 ++ '-' :: (digits.drop 8).take 4 ++ '-' :: (digits.drop 12).take 4 ++
    '-' :: (digits.drop 16).take 4 ++ '-' :: digits.drop 20

/-- The identifier that 32 digits spell. -/
def ofDigits? (digits : List Char) : Option Uuid :=
  if digits.length = 32 then (Hex.read? digits).map fun n => ⟨BitVec.ofNat 128 n⟩ else none

/-- The digits of a text of 36 characters with hyphens after 8, 12, 16 and 20 digits. -/
def hyphenated? (s : List Char) : Option Uuid :=
  if s.length = 36 ∧ s[8]? = some '-' ∧ s[13]? = some '-' ∧ s[18]? = some '-' ∧
      s[23]? = some '-' then
    ofDigits? (s.take 8 ++ (s.drop 9).take 4 ++ (s.drop 14).take 4 ++ (s.drop 19).take 4 ++
      s.drop 24)
  else none

/-- The text between braces. -/
def unbraced? : List Char → Option (List Char)
  | [] => none
  | c :: rest =>
      if c = '\x7b' ∧ rest.getLast? = some '\x7d' then some rest.dropLast else none

/-- The text after a URN scheme, written in lower or in upper case. -/
def unscheme? (s : List Char) : Option (List Char) :=
  let scheme := s.take 9
  if scheme = ['u', 'r', 'n', ':', 'u', 'u', 'i', 'd', ':'] ∨
      scheme = ['U', 'R', 'N', ':', 'U', 'U', 'I', 'D', ':'] then
    some (s.drop 9)
  else none

/-- An identifier from any of its four texts. -/
def parse? (s : List Char) : Option Uuid :=
  match ofDigits? s with
  | some u => some u
  | none =>
      match hyphenated? s with
      | some u => some u
      | none =>
          match unbraced? s with
          | some inner => hyphenated? inner
          | none => (unscheme? s).bind hyphenated?

end Uuid

end QueryBind
