/-
# QueryBind.Json — JSON data and its compact text

An object is a list of members whose keys are in strictly ascending code-point order:
`Members.put` keeps the order and lets the last value given for a key win. Integers of the
signed and unsigned 64-bit ranges stay integers; every other number is a double.
-/
import QueryBind.Number.Hex
import QueryBind.Number.Shortest
import QueryBind.Text.Numeral

namespace QueryBind

set_option autoImplicit false

namespace Json

/-- A JSON number; a natural number and a negative integer have at most 64 bits. -/
inductive Number where
  | natural (n : Nat)
  | negative (n : Int)
  | double (d : Double)
  deriving DecidableEq, Repr

end Json

inductive Json where
  | null
  | bool (b : Bool)
  | number (n : Json.Number)
  | string (s : String)
  | array (items : List Json)
  | object (members : List (String × Json))

namespace Json

instance : Inhabited Json := ⟨.null⟩

namespace Members

/-- The members with the value of `key` set to `value`, in key order. -/
def put (key : String) (value : Json) : List (String × Json) → List (String × Json)
  | [] => [(key, value)]
  | (k, v) :: rest =>
      if key < k then (key, value) :: (k, v) :: rest
      else if key = k then (key, value) :: rest
      else (k, v) :: put key value rest

end Members

/-- Numbers are written positionally for decimal exponents from -5 to 15, and otherwise with a
signed exponent. -/
def doubleStyle : FloatStyle := ⟨.toEven, -5, 15, true⟩

def Number.text : Number → List Char
  | .natural n => Text.natural n
  | .negative n => Text.integer n
  | .double d => doubleStyle.write d

/-- A character inside a quoted text: the quote, the backslash and control characters are
escaped, and nothing else. -/
def escape (c : Char) : List Char :=
  if c = '"' then ['\\', '"']
  else if c = '\\' then ['\\', '\\']
  else if c = '\n' then ['\\', 'n']
  else if c = '\r' then ['\\', 'r']
  else if c = '\t' then ['\\', 't']
  else if c = '\x08' then ['\\', 'b']
  else if c = '\x0c' then ['\\', 'f']
  else if c.toNat < 0x20 then '\\' :: 'u' :: Hex.writePadded 4 c.toNat
  else [c]

def quoted (s : String) : List Char := '"' :: s.toList.flatMap escape ++ ['"']

mutual

/-- The compact text, without blanks. -/
def text : Json → List Char
  | .null => ['n', 'u', 'l', 'l']
  | .bool true => ['t', 'r', 'u', 'e']
  | .bool false => ['f', 'a', 'l', 's', 'e']
  | .number n => n.text
  | .string s => quoted s
  | .array items => '[' :: itemsText items ++ [']']
  | .object members => '\x7b' :: membersText members ++ ['\x7d']

def itemsText : List Json → List Char
  | [] => []
  | [item] => item.text
  | item :: rest => item.text ++ ',' :: itemsText rest

def membersText : List (String × Json) → List Char
  | [] => []
  | [(key, value)] => quoted key ++ ':' :: value.text
  | (key, value) :: rest => quoted key ++ ':' :: value.text ++ ',' :: membersText rest

end

end Json

end QueryBind
