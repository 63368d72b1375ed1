/-
# QueryBind.Json.Reader — JSON text to data

`Json.parse?` reads a whole text: one value, at most 127 levels of arrays and objects, blanks
around tokens, nothing after it. A number without fraction and exponent that has 64 bits is an
integer; any other number is scaled in double precision: the leading digits that fit 64 bits
make the significand, rounded to a double, and one multiplication or division by a rounded
power of ten gives the result. A number past the largest double is no number.
-/
import QueryBind.Json.Token

namespace QueryBind.Json

set_option autoImplicit false

namespace NumberText

/-- The digits appended to `acc` as long as the number has 64 bits, and the digits left. -/
def accumulate : (acc : Nat) → List Char → Nat × List Char
  | acc, [] => (acc, [])
  | acc, c :: rest =>
      let next := 10 * acc + (c.toNat - '0'.toNat)
      if next < UInt64.size then accumulate next rest else (acc, c :: rest)

/-- The magnitude `d * 10 ^ exponent`. A power of ten beyond the largest double is divided out
in steps; a 64-bit significand is zero after three of them. -/
def scale? : (fuel : Nat) → Double → Int → Option Double
  | 0, d, _ => some d
  | fuel + 1, d, exponent =>
      if exponent.natAbs ≤ 308 then
        if 0 ≤ exponent then
          let scaled := d.times (Double.tenPow exponent.toNat)
          if scaled.isInfinite then none else some scaled
        else some (d.dividedBy (Double.tenPow exponent.natAbs))
      else if d.isZero then some d
      else if 0 ≤ exponent then none
      else scale? fuel (d.dividedBy (Double.tenPow 308)) (exponent + 308)

/-- The exponent as a number. -/
def exponentValue (n : NumberText) : Int :=
  match n.exponent? with
  | none => 0
  | some (negative, digits) =>
      let e := (Text.natural? digits).getD 0
      if negative then -(e : Int) else e

/-- The double that the text stands for. -/
def toDouble? (n : NumberText) : Option Double :=
  let (whole, dropped) := accumulate 0 n.whole
  let (significand, left) := accumulate whole n.fraction
  let exponent := (dropped.length : Int) - (n.fraction.length - left.length : Nat) + n.exponentValue
  (scale? 5 (Double.ofRatio false significand 1) exponent).map fun d =>
    if n.negative then d.negate else d

/-- The number that the text stands for, if it is within the range of doubles. -/
def toNumber? (n : NumberText) : Option Number :=
  let (whole, dropped) := accumulate 0 n.whole
  if dropped.isEmpty ∧ n.fraction.isEmpty ∧ n.exponent?.isNone then
    if !n.negative then some (.natural whole)
    else if whole = 0 ∨ UInt64.size / 2 < whole then some (.double (Double.ofRatio true whole 1))
    else some (.negative (-(whole : Int)))
  else n.toDouble?.map .double

end NumberText

namespace Reader

mutual

/-- A value with at most `levels` levels at the head of a token list, and the tokens after
it. -/
def value? : (fuel levels : Nat) → List Token → Option (Json × List Token)
  | 0, _, _ => none
  | fuel + 1, levels, tokens =>
      match tokens with
      | .null :: rest => some (.null, rest)
      | .true :: rest => some (.bool true, rest)
      | .false :: rest => some (.bool false, rest)
      | .number n :: rest => n.toNumber?.map fun number => (.number number, rest)
      | .string body :: rest =>
          (Token.unescape? body).map fun s => (.string (String.ofList s), rest)
      | .openBracket :: .closeBracket :: rest => if levels = 0 then none else some (.array [], rest)
      | .openBracket :: rest =>
          if levels = 0 then none
          else (items? fuel (levels - 1) rest).map fun (items, after) => (.array items, after)
      | .openBrace :: .closeBrace :: rest => if levels = 0 then none else some (.object [], rest)
      | .openBrace :: rest =>
          if levels = 0 then none
          else
            (members? fuel (levels - 1) [] rest).map fun (members, after) =>
              (.object members, after)
      | _ => none

/-- The items up to a closing bracket. -/
def items? : (fuel levels : Nat) → List Token → Option (List Json × List Token)
  | 0, _, _ => none
  | fuel + 1, levels, tokens =>
      match value? fuel levels tokens with
      | some (item, .closeBracket :: rest) => some ([item], rest)
      | some (item, .comma :: rest) =>
          (items? fuel levels rest).map fun (items, after) => (item :: items, after)
      | _ => none

/-- The members up to a closing brace, added to those read so far. -/
def members? : (fuel levels : Nat) → List (String × Json) → List Token →
    Option (List (String × Json) × List Token)
  | 0, _, _, _ => none
  | fuel + 1, levels, sofar, tokens =>
      match tokens with
      | .string body :: .colon :: rest =>
          match Token.unescape? body, value? fuel levels rest with
          | some key, some (value, .closeBrace :: after) =>
              some (Members.put (String.ofList key) value sofar, after)
          | some key, some (value, .comma :: after) =>
              members? fuel levels (Members.put (String.ofList key) value sofar) after
          | _, _ => none
      | _ => none

end

mutual

/-- The tokens after a value of any depth whose content is not looked at. -/
def skip? : (fuel : Nat) → List Token → Option (List Token)
  | 0, _ => none
  | fuel + 1, tokens =>
      match tokens with
      | .null :: rest | .true :: rest | .false :: rest | .number _ :: rest | .string _ :: rest =>
          some rest
      | .openBracket :: .closeBracket :: rest => some rest
      | .openBracket :: rest => skipItems? fuel rest
      | .openBrace :: .closeBrace :: rest => some rest
      | .openBrace :: rest => skipMembers? fuel rest
      | _ => none

def skipItems? : (fuel : Nat) → List Token → Option (List Token)
  | 0, _ => none
  | fuel + 1, tokens =>
      match skip? fuel tokens with
      | some (.closeBracket :: rest) => some rest
      | some (.comma :: rest) => skipItems? fuel rest
      | _ => none

def skipMembers? : (fuel : Nat) → List Token → Option (List Token)
  | 0, _ => none
  | fuel + 1, tokens =>
      match tokens with
      | .string _ :: .colon :: rest =>
          match skip? fuel rest with
          | some (.closeBrace :: after) => some after
          | some (.comma :: after) => skipMembers? fuel after
          | _ => none
      | _ => none

end

end Reader

/-- The deepest nesting of arrays and objects that is read. -/
def maxLevels : Nat := 127

/-- The value that a whole text stands for. Every token costs at most two steps of fuel. -/
def parse? (s : List Char) : Option Json :=
  match Token.scan? s with
  | none => none
  | some tokens =>
      match Reader.value? (2 * tokens.length + 2) maxLevels tokens with
      | some (value, []) => some value
      | _ => none

end QueryBind.Json
