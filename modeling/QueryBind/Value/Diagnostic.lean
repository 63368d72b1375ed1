/-
# QueryBind.Value.Diagnostic — values as they appear in logs

The diagnostic text of a value names its kind and shows its content: texts quoted, floats with
the fewest digits that read back, JSON by its structure.
-/
import QueryBind.Value
import QueryBind.Text.Quoted

namespace QueryBind

set_option autoImplicit false

/-- Items between two delimiters, separated by a comma and a blank. -/
def Text.listed (opening closing : List Char) (items : List (List Char)) : List Char :=
  opening ++ [',', ' '].intercalate items ++ closing

/-- A constructor applied to one shown argument. -/
def Text.applied (name : String) (argument : List Char) : List Char :=
  name.toList ++ '(' :: argument ++ [')']

open Text

/-- A truth value. -/
def Text.truth (b : Bool) : List Char := if b then "true".toList else "false".toList

namespace Json

mutual

/-- The structure of JSON data. -/
def diagnostic : Json → List Char
  | .null => "Null".toList
  | .bool b => applied "Bool" (truth b)
  | .number n => applied "Number" n.text
  | .string s => applied "String" (Text.quoted s.toList)
  | .array items => "Array ".toList ++ listed ['['] [']'] (itemDiagnostics items)
  | .object members =>
      "Object ".toList ++ listed ['\x7b'] ['\x7d'] (memberDiagnostics members)

def itemDiagnostics : List Json → List (List Char)
  | [] => []
  | item :: rest => item.diagnostic :: itemDiagnostics rest

def memberDiagnostics : List (String × Json) → List (List Char)
  | [] => []
  | (key, value) :: rest =>
      (Text.quoted key.toList ++ ':' :: ' ' :: value.diagnostic) :: memberDiagnostics rest

end

end Json

namespace Value

/-- Floats are written positionally from `0.0001` to below `10 ^ 16`, and otherwise with an
exponent. -/
def floatStyle : FloatStyle := ⟨.up, -4, 15, false⟩

def diagnostic : Value → List Char
  | .null => "Null".toList
  | .bool b => applied "Bool" (truth b)
  | .int n => applied "Int" (integer n.toInt)
  | .float d => applied "Float" (floatStyle.write d)
  | .text s => applied "Text" (Text.quoted s.toList)
  | .bytes b => applied "Bytes" (listed ['['] [']'] (b.map fun x => natural x.toNat))
  | .json j => applied "Json" j.diagnostic
  | .date d => applied "Date" d.text
  | .timestamp t => applied "Timestamp" t.shortText
  | .timestamptz t => applied "TimestampTz" (t.utc.shortText ++ ['Z'])
  | .uuid u => applied "Uuid" u.text

/-- The diagnostic text of an argument list. -/
def listDiagnostic (args : List Value) : List Char := listed ['['] [']'] (args.map diagnostic)

end Value

end QueryBind
