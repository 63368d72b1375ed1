/-
# QueryBind.Text.SnakeCase — names in lower case with underscores

A name is cut at characters that are neither letters nor digits, and inside a piece at the
humps: before a capital that follows lower-case letters, and before the last capital of a run
that lower-case letters follow. A digit belongs with the letter before it. The words are
written in lower case and joined with underscores.
-/
import QueryBind.Text.Charset.Letter

namespace QueryBind.Text.SnakeCase

set_option autoImplicit false

/-- The case of the letters read last within a word. -/
inductive Mode where
  | start
  | lower
  | upper
  deriving DecidableEq, Repr

def isUpper (c : Char) : Bool := Charset.uppercase.holds c
def isLower (c : Char) : Bool := Charset.lowercase.holds c

/-- The mode after a character. -/
def Mode.after (mode : Mode) (c : Char) : Mode :=
  if isLower c then .lower else if isUpper c then .upper else mode

/-- The words of a piece, given the part of the current word that has been read. -/
def humps : Mode → (word : List Char) → List Char → List (List Char)
  | _, _, [] => []
  | _, word, [c] => [word ++ [c]]
  | mode, word, c :: next :: rest =>
      if mode.after c = .lower ∧ isUpper next then
        (word ++ [c]) :: humps .start [] (next :: rest)
      else if mode = .upper ∧ isUpper c ∧ isLower next then
        word :: humps .start [c] (next :: rest)
      else humps (mode.after c) (word ++ [c]) (next :: rest)

def words (s : List Char) : List (List Char) :=
  (s.splitOnP fun c => !Charset.alphanumeric.holds c).flatMap (humps .start [])

/-- A word in lower case; a capital sigma at its end takes the final form. -/
def lowerWord : List Char → List Char
  | [] => []
  | [c] => if c = 'Σ' then ['ς'] else lowerChar c
  | c :: rest => lowerChar c ++ lowerWord rest

/-- The name with underscores between its words. -/
def ofName (s : List Char) : List Char := ['_'].intercalate ((words s).map lowerWord)

end QueryBind.Text.SnakeCase
