/-
# QueryBind.Query.Edit — the changes that a query takes

Every way to change a query is an `Edit`, so a history of a query is a list of edits and
`Query.applyAll` replays it. Edits append or replace; the only one that removes is
`dropSoftDelete`.
-/
import QueryBind.Query

namespace QueryBind

set_option autoImplicit false

open Text

inductive Query.Edit where
  | setDialect (dialect : Dialect)
  | setSql (sql : String) (args : List Value)
  | setArgs (args : List Value)
  | setDelete
  | setUpdate (columns : List (String × Value))
  | setCount
  | setSelect (columns : List String)
  | appendSelect (columns : List String)
  | setFrom (tables : List String)
  | appendFrom (table : String)
  | setDistinct (expression : String)
  | appendJoin (kind : JoinKind) (clause : String) (args : List Value)
  | appendWith (clause : String) (args : List Value)
  | appendLeaf (test : Test) (clause : String) (args : List Value)
  | openGroup
  | closeGroup
  | orLast
  | dropSoftDelete
  | appendGroupBy (clause : String)
  | appendOrderBy (clause : String) (args : List Value)
  | appendHaving (clause : String) (args : List Value)
  | setLimit (n : Nat)
  | setOffset (n : Nat)
  | setLock (lock : String)
  | setComment (comment : String)
  | setLoads (paths : List String)
  | appendLoad (path : String)
  | setBindMode (mode : BindMode)

namespace Statement

/-- The statement with new arguments, when it is raw SQL. -/
def withArgs (args : List Value) : Statement → Statement
  | .raw sql _ => .raw sql args
  | s => s

/-- A DELETE, unless the statement is raw SQL. -/
def toDelete : Statement → Statement
  | .raw sql args => .raw sql args
  | _ => .delete

/-- An UPDATE of the columns together with those set before, unless the statement is a DELETE
or raw SQL. -/
def toUpdate (columns : List (String × Value)) : Statement → Statement
  | .select => .update (Assignments.putAll columns [])
  | .update earlier => .update (Assignments.putAll columns earlier)
  | s => s

end Statement

namespace Predicate

/-- The predicates, last one first, with the start of the group that is left open after
`depth` closed ones marked as an alternative. -/
def markOpening : (depth : Nat) → List Predicate → List Predicate
  | _, [] => []
  | depth, .groupEnd :: rest => .groupEnd :: markOpening (depth + 1) rest
  | 0, .groupStart byOr :: rest => .groupStart byOr :: rest
  | 1, .groupStart _ :: rest => .groupStart true :: rest
  | depth + 2, .groupStart byOr :: rest => .groupStart byOr :: markOpening (depth + 1) rest
  | depth, .leaf test clause args byOr :: rest =>
      .leaf test clause args byOr :: markOpening depth rest

/-- The predicates, last one first, with the last one joined by OR to what stands before it; for
the end of a group, that is the group's start. -/
def markLast : List Predicate → List Predicate
  | .groupEnd :: rest => markOpening 0 (.groupEnd :: rest)
  | .groupStart _ :: rest => .groupStart true :: rest
  | .leaf test clause args _ :: rest => .leaf test clause args true :: rest
  | [] => []

/-- The condition that a soft-deleted row does not meet: `deleted_at is null`, the column quoted or
qualified at will, in any letter case. -/
def isSoftDelete (q : Quotes) : Predicate → Bool
  | .leaf .plain clause _ _ =>
      let text := asciiLower (trim clause.toList)
      let suffix := "is null".toList
      if suffix.isSuffixOf text then
        let column := q.unquote (trimEnd (text.take (text.length - suffix.length)))
        column == "deleted_at".toList || ".deleted_at".toList.isSuffixOf column
      else false
  | _ => false

end Predicate

namespace Query

def append (q : Query) (p : Predicate) : Query := { q with conditions := q.conditions ++ [p] }

/-- The query after one edit. -/
def apply (q : Query) : Edit → Query
  | .setDialect dialect => { q with dialect }
  | .setSql sql args => { q with statement := .raw sql args }
  | .setArgs args => { q with statement := q.statement.withArgs args }
  | .setDelete => { q with statement := q.statement.toDelete }
  | .setUpdate columns => { q with statement := q.statement.toUpdate columns }
  | .setCount => { q with counting := true }
  | .setSelect columns => { q with columns }
  | .appendSelect columns => { q with columns := q.columns ++ columns }
  | .setFrom tables => { q with tables }
  | .appendFrom table => { q with tables := q.tables ++ [table] }
  | .setDistinct expression => { q with distinct := some expression }
  | .appendJoin kind clause args => { q with joins := q.joins ++ [⟨kind, clause, args⟩] }
  | .appendWith clause args => { q with ctes := q.ctes ++ [⟨clause, args⟩] }
  | .appendLeaf test clause args => q.append (.leaf test clause args false)
  | .openGroup => q.append (.groupStart false)
  | .closeGroup => q.append .groupEnd
  | .orLast => { q with conditions := (Predicate.markLast q.conditions.reverse).reverse }
  | .dropSoftDelete =>
      { q with conditions := q.conditions.filter fun p => !p.isSoftDelete q.dialect.quotes }
  | .appendGroupBy clause => { q with grouping := q.grouping ++ [clause] }
  | .appendOrderBy clause args => { q with ordering := q.ordering ++ [⟨clause, args⟩] }
  | .appendHaving clause args => { q with having := q.having ++ [⟨clause, args⟩] }
  | .setLimit n => { q with limit := some n }
  | .setOffset n => { q with offset := n }
  | .setLock lock => { q with lock := some lock }
  | .setComment comment => { q with comment := some comment }
  | .setLoads paths => { q with loads := paths }
  | .appendLoad path => { q with loads := q.loads ++ [path] }
  | .setBindMode mode => { q with bindMode := mode }

/-- The query after a list of edits. -/
def applyAll (q : Query) (edits : List Edit) : Query := edits.foldl apply q

/-- A query that runs `sql` as it is. -/
def ofSql (dialect : Dialect) (sql : String) (args : List Value) : Query :=
  (empty dialect).apply (.setSql sql args)

end Query

end QueryBind
