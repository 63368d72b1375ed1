/-
# QueryBind.Query.Fragment — pieces of a statement with their arguments

A `Fragment` is a piece of statement text together with the arguments it brings; its places are
counted from its own first argument. Appending shifts the places of the second fragment past
the arguments of the first, so fragments form a monoid (`append_assoc`) and a statement is the
append of its parts.
-/
import QueryBind.Marker
import QueryBind.Query

namespace QueryBind

set_option autoImplicit false

structure Fragment where
  symbols : List Symbol
  args : List Value

/-- A statement's text and its arguments in order. -/
structure Rendered where
  sql : String
  args : List Value

namespace Fragment

def empty : Fragment := ⟨[], []⟩

def append (a b : Fragment) : Fragment :=
  ⟨a.symbols ++ b.symbols.map (Symbol.shift a.args.length), a.args ++ b.args⟩

instance : Append Fragment := ⟨append⟩

/-- A text without argument places. -/
def ofText (s : List Char) : Fragment := ⟨Symbol.ofText s, []⟩

/-- A clause, its markers read as places, with its arguments. -/
def ofClause (clause : List Char) (args : List Value) : Fragment := ⟨Marker.read clause, args⟩

/-- One argument place. -/
def ofValue (v : Value) : Fragment := ⟨[.place 0], [v]⟩

def concat (fragments : List Fragment) : Fragment := fragments.foldr append empty

/-- Fragments with a text between every two of them. -/
def joinWith (separator : List Char) : List Fragment → Fragment
  | [] => empty
  | [f] => f
  | f :: rest => f ++ ofText separator ++ joinWith separator rest

/-- Clauses joined by a text and read as one clause, with all their arguments. -/
def ofClauses (separator : List Char) (clauses : List Clause) : Fragment :=
  ofClause (separator.intercalate (clauses.map (·.clause.toList))) (clauses.flatMap (·.args))

/-- The text, arguments numbered from 1, and the arguments. -/
def render (numbered : Bool) (f : Fragment) : Rendered :=
  ⟨String.ofList (Symbol.render numbered 1 f.symbols), f.args⟩

@[simp] theorem append_symbols (a b : Fragment) :
    (a ++ b).symbols = a.symbols ++ b.symbols.map (Symbol.shift a.args.length) := rfl

@[simp] theorem append_args (a b : Fragment) : (a ++ b).args = a.args ++ b.args := rfl

end Fragment

@[simp] theorem Symbol.shift_shift (m n : Nat) (s : Symbol) :
    (s.shift n).shift m = s.shift (m + n) := by
  cases s <;> simp [Symbol.shift, Nat.add_assoc]

namespace Fragment

theorem append_assoc (a b c : Fragment) : a ++ b ++ c = a ++ (b ++ c) := by
  show append (append a b) c = append a (append b c)
  simp [append, List.append_assoc, Function.comp_def]

end Fragment

end QueryBind
