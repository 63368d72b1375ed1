/-
# QueryBind.Declaration.Lexer — declaration text to tokens

`Token.scan?` gives the tokens of a text, if it has any token sequence with matching delimiters.
Blanks and comments stand between tokens; a documentation comment is an attribute named `doc`.
A string literal is read for the text it stands for.
-/
import QueryBind.Declaration.Token
import QueryBind.Number.Hex
import QueryBind.Text.Blank

namespace QueryBind.Declaration

set_option autoImplicit false

namespace Escape

/-- What has been read of an escape. -/
inductive State where
  | outside
  /-- A backslash. -/
  | begun
  /-- `\x`, and its first digit if it has been read. -/
  | byte (high : Option Nat)
  /-- `\u`. -/
  | scalar
  /-- `\u` and a brace, with the number and count of the digits read. -/
  | digits (number count : Nat)
  /-- A line end after a backslash, with the blanks that follow. -/
  | lineEnd
  deriving DecidableEq, Repr

/-- The character of an escape of one letter. -/
def simple? (c : Char) : Option Char :=
  if c = 'n' then some '\n'
  else if c = 'r' then some '\r'
  else if c = 't' then some '\t'
  else if c = '0' then some '\x00'
  else if c = '\\' ∨ c = '"' ∨ c = '\x27' then some c
  else none

/-- The character of a code point. -/
def scalar? (point : Nat) : Option Char :=
  if h : point.isValidChar then some (Char.ofNatAux point h) else none

/-- The text that the body of a string literal stands for. A carriage return counts only before
a line feed, and is dropped there. -/
def readFrom? : State → List Char → Option (List Char)
  | .outside, [] => some []
  | .lineEnd, [] => some []
  | _, [] => none
  | .outside, c :: rest =>
      if c = '\\' then readFrom? .begun rest
      else if c = '\r' then
        if rest.head? = some '\n' then readFrom? .outside rest else none
      else (readFrom? .outside rest).map (c :: ·)
  | .begun, c :: rest =>
      if c = 'x' then readFrom? (.byte none) rest
      else if c = 'u' then readFrom? .scalar rest
      else if c = '\n' then readFrom? .lineEnd rest
      else if c = '\r' ∧ rest.head? = some '\n' then readFrom? .lineEnd rest
      else
        match simple? c with
        | some d => (readFrom? .outside rest).map (d :: ·)
        | none => none
  | .byte none, c :: rest => (Hex.digit? c).bind fun high => readFrom? (.byte (some high)) rest
  | .byte (some high), c :: rest =>
      match Hex.digit? c with
      | some low =>
          if high < 8 then
            (readFrom? .outside rest).map (Char.ofNat (16 * high + low) :: ·)
          else none
      | none => none
  | .scalar, c :: rest => if c = '\x7b' then readFrom? (.digits 0 0) rest else none
  | .digits number count, c :: rest =>
      if c = '\x7d' then
        if count = 0 then none
        else (scalar? number).bind fun d => (readFrom? .outside rest).map (d :: ·)
      else if c = '_' ∧ count ≠ 0 then readFrom? (.digits number count) rest
      else
        match Hex.digit? c with
        | some d =>
            if count < 6 then readFrom? (.digits (16 * number + d) (count + 1)) rest else none
        | none => none
  | .lineEnd, c :: rest =>
      if c = ' ' ∨ c = '\t' ∨ c = '\n' ∨ c = '\r' then readFrom? .lineEnd rest
      else if c = '\\' then readFrom? .begun rest
      else (readFrom? .outside rest).map (c :: ·)

def read? (body : List Char) : Option (List Char) := readFrom? .outside body

end Escape

namespace Token

/-- The characters that may stand between tokens. -/
def isSpace (c : Char) : Bool :=
  [9, 10, 11, 12, 13, 0x20, 0x85, 0x200E, 0x200F, 0x2028, 0x2029].contains c.toNat

/-- A character of a word. Outside ASCII these are all characters that are no space. -/
def isWordChar (c : Char) : Bool :=
  c.isAlphanum || c == '_' || (0x80 ≤ c.toNat && !isSpace c)

def isWordStart (c : Char) : Bool := isWordChar c && !c.isDigit

def isMark (c : Char) : Bool := "~!@#$%^&*-=+|;:,<.>/?".toList.contains c

/-- The body of a literal up to the quote that ends it, and the text after that quote. -/
def quotedBody? (quote : Char) : List Char → Option (List Char × List Char)
  | [] => none
  | [c] => if c = quote then some ([], []) else none
  | c :: next :: rest =>
      if c = quote then some ([], next :: rest)
      else if c = '\\' then
        (quotedBody? quote rest).map fun (body, after) => (c :: next :: body, after)
      else (quotedBody? quote (next :: rest)).map fun (body, after) => (c :: body, after)

/-- The number signs and the quote that start a raw literal. -/
def rawStart? (s : List Char) : Option (Nat × List Char) :=
  match s.dropWhile (· == '#') with
  | '"' :: rest => some ((s.takeWhile (· == '#')).length, rest)
  | _ => none

/-- The body of a raw literal up to a quote that is followed by as many number signs. -/
def rawBody? (hashes : Nat) : List Char → Option (List Char × List Char)
  | [] => none
  | c :: rest =>
      if c = '"' ∧ rest.take hashes = List.replicate hashes '#' then some ([], rest.drop hashes)
      else (rawBody? hashes rest).map fun (body, after) => (c :: body, after)

/-- A raw text without the carriage returns of its line ends. -/
def rawText? : List Char → Option (List Char)
  | [] => some []
  | c :: rest =>
      if c = '\r' then if rest.head? = some '\n' then rawText? rest else none
      else (rawText? rest).map (c :: ·)

/-- The text after a block comment; comments nest. -/
def afterComment? : (depth : Nat) → List Char → Option (List Char)
  | _, [] => none
  | _, [_] => none
  | depth, '*' :: '/' :: rest =>
      match depth with
      | 0 => some rest
      | depth + 1 => afterComment? depth rest
  | depth, '/' :: '*' :: rest => afterComment? (depth + 1) rest
  | depth, _ :: rest => afterComment? depth rest

/-- The tokens of a documentation comment; one on what encloses it has a `!`. -/
def docTokens (inner : Bool) : List Token :=
  .mark '#' inner :: (if inner then [.mark '!' false] else []) ++
    [.opening .bracket, .word "doc".toList, .mark '=' false, .literal ['"', '"'],
      .closing .bracket]

/-- The first token of a text, or what stands between tokens, and the rest of the text. -/
abbrev Step := Option (List Token × List Char)

def lineComment (body : List Char) : Step :=
  let rest := body.dropWhile (· != '\n')
  match body with
  | '/' :: '/' :: _ => some ([], rest)
  | '/' :: _ => some (docTokens false, rest)
  | '!' :: _ => some (docTokens true, rest)
  | _ => some ([], rest)

def blockComment (body : List Char) : Step :=
  (afterComment? 0 body).map fun rest =>
    match body with
    | '*' :: '/' :: _ => ([], rest)
    | '*' :: '*' :: _ => ([], rest)
    | '*' :: _ => (docTokens false, rest)
    | '!' :: _ => (docTokens true, rest)
    | _ => ([], rest)

/-- A literal that is no string, with the suffix that may follow its closing quote. -/
def quotedLiteral (start : List Char) (quote : Char) (s : List Char) : Step :=
  (quotedBody? quote s).map fun (body, after) =>
    ([.literal (start ++ body ++ [quote] ++ after.takeWhile isWordChar)],
      after.dropWhile isWordChar)

def stringLiteral (s : List Char) : Step :=
  match quotedBody? '"' s with
  | none => none
  | some (body, after) =>
      (Escape.read? body).map fun value =>
        ([.string value ('"' :: body ++ '"' :: after.takeWhile isWordChar)],
          after.dropWhile isWordChar)

/-- A raw literal; a string one after `r`. -/
def rawLiteral (start : List Char) (hashes : Nat) (s : List Char) : Step :=
  match rawBody? hashes s with
  | none => none
  | some (body, after) =>
      let fence := List.replicate hashes '#'
      let written := start ++ fence ++ '"' :: body ++ '"' :: fence ++ after.takeWhile isWordChar
      let rest := after.dropWhile isWordChar
      if start = ['r'] then (rawText? body).map fun value => ([.string value written], rest)
      else some ([.literal written], rest)

/-- A word, or the literal whose kind it announces. -/
def wordStep (s : List Char) : Step :=
  let name := s.takeWhile isWordChar
  let rest := s.dropWhile isWordChar
  let plain : Step := some ([.word name], rest)
  if name = ['r'] ∨ name = ['b', 'r'] ∨ name = ['c', 'r'] then
    match rawStart? rest with
    | some (hashes, body) => rawLiteral name hashes body
    | none =>
        match rest with
        | '#' :: c :: _ =>
            if name = ['r'] ∧ isWordStart c then
              some ([.word (name ++ '#' :: (rest.drop 1).takeWhile isWordChar)],
                (rest.drop 1).dropWhile isWordChar)
            else plain
        | _ => plain
  else if name = ['b'] ∨ name = ['c'] then
    match rest with
    | '"' :: body => quotedLiteral (name ++ ['"']) '"' body
    | '\x27' :: body =>
        if name = ['b'] then quotedLiteral (name ++ ['\x27']) '\x27' body else plain
    | _ => plain
  else plain

/-- The digits, letters and underscores of a number, with its decimals and the sign of its
exponent. -/
def numberStep (s : List Char) : Step :=
  let isDecimal (digits : List Char) : Bool := digits.all fun c => c.isDigit || c == '_'
  let isExponent (part : List Char) : Bool :=
    match part.getLast? with
    | some c => (c == 'e' || c == 'E') && isDecimal (part.dropLast.filter (· != '.'))
    | none => false
  let whole := s.takeWhile isWordChar
  let afterWhole := s.dropWhile isWordChar
  let (mantissa, rest) :=
    match afterWhole with
    | '.' :: next =>
        match next with
        | [] => if isDecimal whole then (whole ++ ['.'], next) else (whole, afterWhole)
        | c :: _ =>
            if isDecimal whole ∧ c.isDigit then
              (whole ++ '.' :: next.takeWhile isWordChar, next.dropWhile isWordChar)
            else if isDecimal whole ∧ c ≠ '.' ∧ !isWordStart c then (whole ++ ['.'], next)
            else (whole, afterWhole)
    | _ => (whole, afterWhole)
  match rest with
  | sign :: d :: more =>
      if isExponent mantissa ∧ (sign = '+' ∨ sign = '-') ∧ d.isDigit then
        some ([.literal (mantissa ++ sign :: (d :: more).takeWhile isWordChar)],
          (d :: more).dropWhile isWordChar)
      else some ([.literal mantissa], rest)
  | _ => some ([.literal mantissa], rest)

/-- What starts with an apostrophe: a character, or a lifetime. -/
def apostropheStep (s : List Char) : Step :=
  match s with
  | c :: next :: _ =>
      if c = '\\' ∨ next = '\x27' then quotedLiteral ['\x27'] '\x27' s
      else if isWordStart c then
        some ([.lifetime (s.takeWhile isWordChar)], s.dropWhile isWordChar)
      else none
  | [c] => if isWordStart c then some ([.lifetime s], []) else none
  | [] => none

/-- The first token of a non-empty text. -/
def step (c : Char) (rest : List Char) : Step :=
  if isSpace c then some ([], rest)
  else if c = '/' ∧ rest.head? = some '/' then lineComment (rest.drop 1)
  else if c = '/' ∧ rest.head? = some '*' then blockComment (rest.drop 1)
  else if c = '"' then stringLiteral rest
  else if c = '\x27' then apostropheStep rest
  else if c = '(' then some ([.opening .paren], rest)
  else if c = '[' then some ([.opening .bracket], rest)
  else if c = '\x7b' then some ([.opening .brace], rest)
  else if c = ')' then some ([.closing .paren], rest)
  else if c = ']' then some ([.closing .bracket], rest)
  else if c = '\x7d' then some ([.closing .brace], rest)
  else if isMark c then some ([.mark c ((rest.head?.map isMark).getD false)], rest)
  else if isWordStart c then wordStep (c :: rest)
  else if c.isDigit then numberStep (c :: rest)
  else none

/-- The tokens of a text, for any `fuel` not below the length of the text: each step takes at
least one character. -/
def scanWith? : (fuel : Nat) → List Char → Option (List Token)
  | _, [] => some []
  | 0, _ :: _ => none
  | fuel + 1, c :: rest =>
      match step c rest with
      | none => none
      | some (tokens, after) => (scanWith? fuel after).map (tokens ++ ·)

/-- The tokens of a text whose delimiters match. -/
def scan? (s : List Char) : Option (List Token) :=
  (scanWith? s.length s).bind fun tokens => if isBalanced tokens then some tokens else none

end Token

end QueryBind.Declaration
