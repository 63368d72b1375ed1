/-
# QueryBind.Text.Blank — blank characters, trimming and letter case

A blank is a character with the property White_Space, 25 characters in all. Trimming and cutting
into words use this set; comparisons that ignore case touch the ASCII letters only.
-/

namespace QueryBind.Text

set_option autoImplicit false

/-- The characters with the property White_Space, by code point. -/
def blankPoints : List Nat :=
  [9, 10, 11, 12, 13, 0x20, 0x85, 0xA0, 0x1680, 0x2000, 0x2001, 0x2002, 0x2003, 0x2004, 0x2005,
   0x2006, 0x2007, 0x2008, 0x2009, 0x200A, 0x2028, 0x2029, 0x202F, 0x205F, 0x3000]

def isBlank (c : Char) : Bool := blankPoints.contains c.toNat

/-- The text without its leading blanks. -/
def trimStart (s : List Char) : List Char := s.dropWhile isBlank

/-- The text without its trailing blanks. -/
def trimEnd (s : List Char) : List Char := (s.reverse.dropWhile isBlank).reverse

/-- The text without the blanks at its two ends. -/
def trim (s : List Char) : List Char := trimEnd (trimStart s)

/-- The text with its ASCII capitals in lower case. -/
def asciiLower (s : List Char) : List Char := s.map Char.toLower

/-- Equality up to the case of ASCII letters. -/
def sameIgnoringCase (s t : List Char) : Bool := asciiLower s == asciiLower t

end QueryBind.Text
