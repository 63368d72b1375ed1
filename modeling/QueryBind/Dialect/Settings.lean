/-
# QueryBind.Dialect.Settings — dialects and bind modes from configuration text

A dialect is written as a JSON object or as an array of its settings in order. The two quote
characters are required, as strings of one character; the two flags may be missing. An object
may have other members, which are skipped unread, but none of the four settings twice. A bind
mode is its name as a string, or as the only member of an object, with the value null.
-/
import QueryBind.Json.Reader
import QueryBind.Query

namespace QueryBind

set_option autoImplicit false

open Json

namespace Dialect

/-- The settings read so far. -/
structure Settings where
  opening? : Option Char
  closing? : Option Char
  numbered? : Option Bool
  topRows? : Option Bool

namespace Settings

def none : Settings := ⟨.none, .none, .none, .none⟩

/-- The dialect of the settings; a flag that is not given is off. -/
def dialect? (s : Settings) : Option Dialect :=
  match s.opening?, s.closing? with
  | some opening, some closing =>
      some ⟨⟨opening, closing⟩, s.numbered?.getD false, s.topRows?.getD false⟩
  | _, _ => .none

def character? : Token → Option Char
  | .string body =>
      match Token.unescape? body with
      | some [c] => some c
      | _ => .none
  | _ => .none

def flag? : Token → Option Bool
  | .true => some true
  | .false => some false
  | _ => .none

/-- The value of a setting that may be given once. -/
def once? {α : Type} (earlier : Option α) (value : Option α) : Option (Option α) :=
  match earlier, value with
  | .none, some x => some (some x)
  | _, _ => .none

/-- The settings after one member of an object, and the tokens after its value. -/
def member? (fuel : Nat) (s : Settings) (key : List Char) (tokens : List Token) :
    Option (Settings × List Token) :=
  match tokens with
  | [] => .none
  | token :: rest =>
      if key = "lq".toList then
        (once? s.opening? (character? token)).map fun opening? => ({ s with opening? }, rest)
      else if key = "rq".toList then
        (once? s.closing? (character? token)).map fun closing? => ({ s with closing? }, rest)
      else if key = "use_index_placeholders".toList then
        (once? s.numbered? (flag? token)).map fun numbered? => ({ s with numbered? }, rest)
      else if key = "use_top_clause".toList then
        (once? s.topRows? (flag? token)).map fun topRows? => ({ s with topRows? }, rest)
      else (Reader.skip? fuel tokens).map fun after => (s, after)

/-- The settings after the members up to the closing brace. -/
def members? : (fuel : Nat) → Settings → List Token → Option (Settings × List Token)
  | 0, _, _ => .none
  | fuel + 1, s, .string body :: .colon :: rest =>
      match (Token.unescape? body).bind fun key => member? (2 * rest.length + 2) s key rest with
      | some (s', .closeBrace :: after) => some (s', after)
      | some (s', .comma :: after) => members? fuel s' after
      | _ => .none
  | _ + 1, _, _ => .none

/-- The settings of an array, in order. -/
def items? : List Token → Option Settings
  | [a, .comma, b] =>
      match character? a, character? b with
      | some opening, some closing => some ⟨some opening, some closing, .none, .none⟩
      | _, _ => .none
  | [a, .comma, b, .comma, c] =>
      match character? a, character? b, flag? c with
      | some opening, some closing, some numbered =>
          some ⟨some opening, some closing, some numbered, .none⟩
      | _, _, _ => .none
  | [a, .comma, b, .comma, c, .comma, d] =>
      match character? a, character? b, flag? c, flag? d with
      | some opening, some closing, some numbered, some topRows =>
          some ⟨some opening, some closing, some numbered, some topRows⟩
      | _, _, _, _ => .none
  | _ => .none

/-- The settings of a whole text. -/
def ofTokens? : List Token → Option Settings
  | [.openBrace, .closeBrace] => some none
  | .openBrace :: rest =>
      match members? rest.length none rest with
      | some (s, []) => some s
      | _ => .none
  | .openBracket :: rest =>
      if rest.getLast? = some .closeBracket then items? rest.dropLast else .none
  | _ => .none

end Settings

/-- The dialect that a configuration text describes. -/
def parse? (s : List Char) : Option Dialect :=
  ((Token.scan? s).bind Settings.ofTokens?).bind Settings.dialect?

end Dialect

namespace BindMode

def name : BindMode → String
  | .lastRowWins => "last_row_wins"
  | .strict => "strict"

def ofBody? (body : List Char) : Option BindMode :=
  (Token.unescape? body).bind fun s =>
    [BindMode.lastRowWins, .strict].find? fun mode => mode.name.toList = s

def ofTokens? : List Token → Option BindMode
  | [.string body] => ofBody? body
  | [.openBrace, .string body, .colon, .null, .closeBrace] => ofBody? body
  | _ => none

/-- The bind mode that a configuration text names. -/
def parse? (s : List Char) : Option BindMode := (Token.scan? s).bind ofTokens?

end BindMode

end QueryBind
