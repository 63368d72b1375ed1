/-
# QueryBind.Dialect — the conventions of one database engine

A dialect fixes the quote pair, whether argument places are numbered (`$1`, `$2`, …) or all
written `?`, and whether the row window is written with TOP and FETCH instead of LIMIT.
-/
import QueryBind.Identifier
import QueryBind.Text.Numeral

namespace QueryBind

set_option autoImplicit false

structure Dialect where
  quotes : Quotes
  /-- Argument places are numbered. -/
  numbered : Bool
  /-- The row window is written with TOP and FETCH. -/
  topRows : Bool
  deriving DecidableEq, Repr

namespace Dialect

def postgres : Dialect := ⟨⟨'"', '"'⟩, true, false⟩
def mysql : Dialect := ⟨⟨'\x60', '\x60'⟩, false, false⟩
def sqlite : Dialect := ⟨⟨'"', '"'⟩, false, false⟩
def mssql : Dialect := ⟨⟨'[', ']'⟩, true, true⟩

instance : Inhabited Dialect := ⟨postgres⟩

/-- The text of argument place number `n`. -/
def placeText (numbered : Bool) (n : Nat) : List Char :=
  if numbered then '$' :: Text.natural n else ['?']

/-- The text of argument place number `n` in this dialect. -/
def placeholder (d : Dialect) (n : Nat) : List Char := placeText d.numbered n

def quote (d : Dialect) (s : List Char) : List Char := d.quotes.quote s

def quoteAll (d : Dialect) (names : List (List Char)) : List (List Char) := names.map d.quote

end Dialect

end QueryBind
