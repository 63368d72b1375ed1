/-
# QueryBind.Json.Token — the tokens of JSON text

A number token keeps its written parts and a string token the text between its quotes, with
escapes checked for form only: what they stand for is decided where the value is used, so a
value that is skipped need not be representable.
-/
import QueryBind.Json

namespace QueryBind.Json

set_option autoImplicit false

/-- The written parts of a number. -/
structure NumberText where
  negative : Bool
  whole : List Char
  fraction : List Char
  /-- The sign and digits of the exponent. -/
  exponent? : Option (Bool × List Char)
  deriving DecidableEq, Repr

inductive Token where
  | openBrace | closeBrace | openBracket | closeBracket | colon | comma
  | null | true | false
  | number (n : NumberText)
  | string (body : List Char)
  deriving DecidableEq, Repr

namespace Token

def isSpace (c : Char) : Bool := c == ' ' || c == '\n' || c == '\t' || c == '\r'

/-- The body of a string whose opening quote has been read, and the text after its closing
quote. -/
def stringBody? : List Char → Option (List Char × List Char)
  | [] => none
  | '"' :: rest => some ([], rest)
  | '\\' :: 'u' :: a :: b :: c :: d :: rest =>
      if (Hex.digit? a).isSome && (Hex.digit? b).isSome && (Hex.digit? c).isSome &&
          (Hex.digit? d).isSome then
        (stringBody? rest).map fun (body, after) => ('\\' :: 'u' :: a :: b :: c :: d :: body, after)
      else none
  | '\\' :: c :: rest =>
      if ['"', '\\', '/', 'b', 'f', 'n', 'r', 't'].contains c then
        (stringBody? rest).map fun (body, after) => ('\\' :: c :: body, after)
      else none
  | c :: rest =>
      if c = '\\' ∨ c.toNat < 0x20 then none
      else (stringBody? rest).map fun (body, after) => (c :: body, after)

/-- The exponent part of a number, if any; an `e` needs digits after it. -/
def exponentPart? (s : List Char) : Option (Option (Bool × List Char) × List Char) :=
  match s with
  | [] => some (none, [])
  | c :: rest =>
      if c = 'e' ∨ c = 'E' then
        let (negative, digits) :=
          match rest with
          | '+' :: r => (Bool.false, r)
          | '-' :: r => (Bool.true, r)
          | _ => (Bool.false, rest)
        let exponent := digits.takeWhile Char.isDigit
        if exponent.isEmpty then none
        else some (some (negative, exponent), digits.dropWhile Char.isDigit)
      else some (none, s)

/-- A number at the head of a text, and the rest; a zero is the only digit before the point. -/
def number? (s : List Char) : Option (NumberText × List Char) :=
  let (negative, unsigned) :=
    match s with
    | '-' :: rest => (Bool.true, rest)
    | _ => (Bool.false, s)
  let whole := unsigned.takeWhile Char.isDigit
  let rest := unsigned.dropWhile Char.isDigit
  if whole.isEmpty || (whole.head? == some '0' && whole.length != 1) then none
  else
    match rest with
    | '.' :: decimals =>
        let fraction := decimals.takeWhile Char.isDigit
        if fraction.isEmpty then none
        else
          (exponentPart? (decimals.dropWhile Char.isDigit)).map fun (exponent?, after) =>
            (⟨negative, whole, fraction, exponent?⟩, after)
    | _ =>
        (exponentPart? rest).map fun (exponent?, after) => (⟨negative, whole, [], exponent?⟩, after)

/-- The next token of a text that does not start with a blank, and the rest. -/
def next? : List Char → Option (Token × List Char)
  | '\x7b' :: rest => some (.openBrace, rest)
  | '\x7d' :: rest => some (.closeBrace, rest)
  | '[' :: rest => some (.openBracket, rest)
  | ']' :: rest => some (.closeBracket, rest)
  | ':' :: rest => some (.colon, rest)
  | ',' :: rest => some (.comma, rest)
  | 'n' :: 'u' :: 'l' :: 'l' :: rest => some (.null, rest)
  | 't' :: 'r' :: 'u' :: 'e' :: rest => some (.true, rest)
  | 'f' :: 'a' :: 'l' :: 's' :: 'e' :: rest => some (.false, rest)
  | '"' :: rest => (stringBody? rest).map fun (body, after) => (.string body, after)
  | s => (number? s).map fun (n, after) => (.number n, after)

/-- All tokens of a text; every token takes at least one character, so the length of the text
is fuel enough. -/
def scanFrom? : (fuel : Nat) → List Char → Option (List Token)
  | _, [] => some []
  | 0, _ :: _ => none
  | fuel + 1, c :: rest =>
      if isSpace c then scanFrom? fuel rest
      else
        match next? (c :: rest) with
        | none => none
        | some (token, after) => (scanFrom? fuel after).map (token :: ·)

def scan? (s : List Char) : Option (List Token) := scanFrom? s.length s

/-- The character of a code unit pair. -/
def ofSurrogates (high low : Nat) : Char :=
  Char.ofNat (0x10000 + (high - 0xD800) * 0x400 + (low - 0xDC00))

def unit? (a b c d : Char) : Option Nat := Hex.read? [a, b, c, d]

/-- The text that the body of a string stands for; a surrogate must be half of a pair. -/
def unescape? : List Char → Option (List Char)
  | [] => some []
  | '\\' :: 'u' :: a :: b :: c :: d :: rest =>
      match unit? a b c d with
      | none => none
      | some high =>
          if 0xD800 ≤ high ∧ high < 0xDC00 then
            match rest with
            | '\\' :: 'u' :: a' :: b' :: c' :: d' :: rest' =>
                match unit? a' b' c' d' with
                | none => none
                | some low =>
                    if 0xDC00 ≤ low ∧ low < 0xE000 then
                      (unescape? rest').map (ofSurrogates high low :: ·)
                    else none
            | _ => none
          else if 0xDC00 ≤ high ∧ high < 0xE000 then none
          else (unescape? rest).map (Char.ofNat high :: ·)
  | '\\' :: c :: rest =>
      let plain :=
        if c = 'b' then '\x08' else if c = 'f' then '\x0c' else if c = 'n' then '\n'
        else if c = 'r' then '\r' else if c = 't' then '\t' else c
      (unescape? rest).map (plain :: ·)
  | c :: rest => (unescape? rest).map (c :: ·)

end Token

end QueryBind.Json
