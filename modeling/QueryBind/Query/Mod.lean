/-
# QueryBind.Query.Mod — composable query modifiers

A `Mod` is a piece of a query that can be passed around before there is a query: one appended
clause, a group of modifiers, or a modifier taken as an alternative. Its meaning is the list of
edits it makes (`Mod.edits`).
-/
import QueryBind.Query.Edit

namespace QueryBind

set_option autoImplicit false

inductive Mod where
  | select (columns : List String)
  | table (entry : String)
  | join (kind : JoinKind) (clause : String) (args : List Value)
  | distinct (expression : String)
  | cte (clause : String) (args : List Value)
  | leaf (test : Test) (clause : String) (args : List Value)
  /-- The modifier, its last predicate joined by OR. -/
  | either (mod : Mod)
  /-- The modifiers between parentheses. -/
  | group (mods : List Mod)
  | groupBy (clause : String)
  | orderBy (clause : String) (args : List Value)
  | having (clause : String) (args : List Value)
  | limit (n : Nat)
  | offset (n : Nat)
  | lock (text : String)
  | comment (text : String)
  | sql (text : String) (args : List Value)
  | load (path : String)

namespace Mod

/-- A predicate joined by AND. -/
def all (test : Test) (clause : String) (args : List Value) : Mod := .leaf test clause args

/-- A predicate joined by OR. -/
def any (test : Test) (clause : String) (args : List Value) : Mod :=
  .either (.leaf test clause args)

mutual

/-- The edits that a modifier makes. -/
def edits : Mod → List Query.Edit
  | .select columns => [.appendSelect columns]
  | .table entry => [.appendFrom entry]
  | .join kind clause args => [.appendJoin kind clause args]
  | .distinct expression => [.setDistinct expression]
  | .cte clause args => [.appendWith clause args]
  | .leaf test clause args => [.appendLeaf test clause args]
  | .either mod => mod.edits ++ [.orLast]
  | .group mods => .openGroup :: editsOfAll mods ++ [.closeGroup]
  | .groupBy clause => [.appendGroupBy clause]
  | .orderBy clause args => [.appendOrderBy clause args]
  | .having clause args => [.appendHaving clause args]
  | .limit n => [.setLimit n]
  | .offset n => [.setOffset n]
  | .lock text => [.setLock text]
  | .comment text => [.setComment text]
  | .sql text args => [.setSql text args]
  | .load path => [.appendLoad path]

/-- The edits of modifiers in turn. -/
def editsOfAll : List Mod → List Query.Edit
  | [] => []
  | mod :: rest => mod.edits ++ editsOfAll rest

end

end Mod

/-- The query after a list of modifiers. -/
def Query.modify (q : Query) (mods : List Mod) : Query := q.applyAll (Mod.editsOfAll mods)

end QueryBind
