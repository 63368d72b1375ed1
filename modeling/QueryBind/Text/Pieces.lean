/-
# QueryBind.Text.Pieces — words and lines

Two ways to cut a text, both of which lose the separators. `words` are the runs of characters
between blanks, so that no word is empty; `lines` are ended by a line feed, or by a carriage return
and a line feed, and a line feed at the end of the text starts no further line.
-/
import QueryBind.Text.Blank

namespace QueryBind.Text

set_option autoImplicit false

/-- The non-empty runs between blanks. -/
def words (s : List Char) : List (List Char) :=
  (s.splitOnP isBlank).filter fun piece => !piece.isEmpty

/-- A line without the carriage return that precedes its line feed. -/
def dropReturn (line : List Char) : List Char :=
  if line.getLast? = some '\r' then line.dropLast else line

/-- The lines of pieces cut at line feeds: every piece but the last one was ended by a line
feed, and an empty last piece is no line. -/
def linesOfPieces : List (List Char) → List (List Char)
  | [] => []
  | [last] => if last.isEmpty then [] else [last]
  | line :: rest => dropReturn line :: linesOfPieces rest

/-- The lines of a text, ended by a line feed or by a carriage return and a line feed. -/
def lines (s : List Char) : List (List Char) := linesOfPieces (s.splitOn '\n')

end QueryBind.Text
