/-
# QueryBind.Text.Quoted — quoted texts for diagnostics

A text is shown in double quotes. The quote, the backslash and the four control characters
with a name are escaped with a backslash; a character that would not show, or that would join
with the one before it, is shown by its code point.
-/
import QueryBind.Number.Hex
import QueryBind.Text.Charset.Printable

namespace QueryBind.Text

set_option autoImplicit false

/-- A character by its code point. -/
def pointEscape (c : Char) : List Char := '\\' :: 'u' :: '\x7b' :: Hex.write c.toNat ++ ['\x7d']

/-- One character of a quoted text. -/
def quotedChar (c : Char) : List Char :=
  if c = '"' then ['\\', '"']
  else if c = '\\' then ['\\', '\\']
  else if c = '\n' then ['\\', 'n']
  else if c = '\r' then ['\\', 'r']
  else if c = '\t' then ['\\', 't']
  else if c.toNat = 0 then ['\\', '0']
  else if 0x20 ≤ c.toNat ∧ c.toNat < 0x7F then [c]
  else if Charset.extending.holds c || Charset.unprintable.holds c then pointEscape c
  else [c]

def quoted (s : List Char) : List Char := '"' :: s.flatMap quotedChar ++ ['"']

end QueryBind.Text
