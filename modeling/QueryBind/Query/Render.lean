/-
# QueryBind.Query.Render — the statement that a query stands for

A query is laid out as a list of `Section`s, which depends on the kind of statement and on the
dialect's way to write the row window; each section is a `Fragment`, and the statement is their
append. `Query.render` is a function of the query alone.
-/
import QueryBind.Query.Membership

namespace QueryBind

set_option autoImplicit false

open Text

/-! ## The WHERE list -/

namespace Predicate

def isGroupEdge : Predicate → Bool
  | .leaf .. => false
  | _ => true

/-- The text that joins a predicate to what stands before it. -/
def joiner : (byOr : Bool) → List Char
  | true => " OR ".toList
  | false => " AND ".toList

/-- The condition of a leaf. Membership in an empty list never holds, and has a text of its own
that needs no parentheses. -/
def leafFragment (enclose : Bool) (test : Test) (clause : String) (args : List Value) : Fragment :=
  let body : Fragment :=
    match test with
    | .plain => .ofClause clause.toList args
    | .among | .notAmong => ⟨Membership.clauseSymbols clause.toList args.length, args⟩
  match test, args with
  | .among, [] => .ofText "(1=0)".toList
  | .notAmong, [] => .ofText "(1=1)".toList
  | _, _ => if enclose then .ofText ['('] ++ body ++ .ofText [')'] else body

/-- The predicates in one pass; `joined` tells whether the next one needs a joiner. -/
def fragmentFrom (enclose : Bool) : (joined : Bool) → List Predicate → Fragment
  | _, [] => .empty
  | _, .groupEnd :: rest => .ofText [')'] ++ fragmentFrom enclose true rest
  | joined, .groupStart byOr :: rest =>
      .ofText ((if joined then joiner byOr else []) ++ ['(']) ++ fragmentFrom enclose false rest
  | joined, .leaf test clause args byOr :: rest =>
      .ofText (if joined then joiner byOr else []) ++ leafFragment enclose test clause args ++
        fragmentFrom enclose true rest

/-- The WHERE list; leaves are enclosed in parentheses unless the list has groups. -/
def listFragment (predicates : List Predicate) : Fragment :=
  fragmentFrom (!predicates.any isGroupEdge) false predicates

end Predicate

/-! ## Sections -/

/-- One part of a statement's layout. -/
inductive Query.Section where
  | comment (text : String)
  | ctes (clauses : List Clause)
  /-- A keyword, with the blanks around it. -/
  | keyword (text : String)
  /-- The first `n` rows, as the head of a SELECT. -/
  | top (n : Nat)
  | projection (text : List Char)
  | tables (entries : List String)
  | joins (list : List Join)
  | assignments (columns : Assignments)
  | conditions (predicates : List Predicate)
  | grouping (clauses : List String)
  | having (clauses : List Clause)
  | ordering (clauses : List Clause)
  /-- An order that leaves the rows as they come. -/
  | anyOrder
  | limit (n : Nat)
  | offset (n : Nat)
  /-- The rows to skip, where the row window is written with FETCH. -/
  | skipRows (n : Nat)
  | fetchRows (n : Nat)
  | lock (text : String)

namespace Query

/-- The comment as lines of SQL comment. -/
def commentText (comment : String) : List Char :=
  (lines comment.toList).flatMap fun line => "-- ".toList ++ line ++ ['\n']

/-- The join clauses, read as one clause. -/
def joinText (joins : List Join) : List Char :=
  joins.flatMap fun j => ' ' :: j.kind.keyword.toList ++ ' ' :: j.clause.toList

/-- The number with a text before and one after it. -/
def numeral (before : String) (n : Nat) (after : String) : Fragment :=
  .ofText (before.toList ++ natural n ++ after.toList)

/-- A text between two commas' worth of entries. -/
def listed (entries : List (List Char)) : List Char := [',', ' '].intercalate entries

/-- One assignment of an UPDATE. -/
def assignment (d : Dialect) (column : String × Value) : Fragment :=
  .ofText (d.quote column.1.toList ++ " = ".toList) ++ .ofValue column.2

/-- The piece of statement that a section stands for. -/
def Section.fragment (d : Dialect) : Section → Fragment
  | .comment text => .ofText (commentText text)
  | .ctes clauses =>
      .ofText "WITH ".toList ++ .ofClauses [',', ' '] clauses ++ .ofText [' ']
  | .keyword text => .ofText text.toList
  | .top n => numeral "TOP (" n ") "
  | .projection text => .ofText text
  | .tables entries => .ofText (listed (d.quoteAll (entries.map String.toList)))
  | .joins list => .ofClause (joinText list) (list.flatMap (·.args))
  | .assignments columns => .joinWith [',', ' '] (columns.map (assignment d))
  | .conditions predicates => .ofText " WHERE ".toList ++ Predicate.listFragment predicates
  | .grouping clauses => .ofText (" GROUP BY ".toList ++ listed (clauses.map String.toList))
  | .having clauses => .ofText " HAVING ".toList ++ .ofClauses " AND ".toList clauses
  | .ordering clauses => .ofText " ORDER BY ".toList ++ .ofClauses [',', ' '] clauses
  | .anyOrder => .ofText " ORDER BY (SELECT NULL)".toList
  | .limit n => numeral " LIMIT " n ""
  | .offset n => numeral " OFFSET " n ""
  | .skipRows n => numeral " OFFSET " n " ROWS"
  | .fetchRows n => numeral " FETCH NEXT " n " ROWS ONLY"
  | .lock text => .ofText (" FOR ".toList ++ text.toList)

/-! ## Projections -/

/-- A selected column of a joined SELECT: a qualified one is given its full name as alias. -/
def aliased (d : Dialect) (column : List Char) : List Char :=
  if !d.quotes.isIdentifier column || !column.contains '.' || column.getLast? == some '*' then
    d.quote column
  else d.quote column ++ " AS ".toList ++ d.quotes.enclose (d.quotes.unquote column)

/-- Every column of each table, by the table's name or alias; none if an entry is not a
table. -/
def stars? (d : Dialect) (tables : List (List Char)) : Option (List (List Char)) :=
  tables.mapM fun entry =>
    (TableSource.parse? d.quotes entry).map fun t => d.quote t.qualifier ++ ['.', '*']

/-- What is selected, without the count around it. -/
def selection (q : Query) : List Char :=
  let columns := q.columns.map String.toList
  match q.distinct with
  | some expression =>
      "DISTINCT ".toList ++
        (if q.counting then q.dialect.quote expression.toList else expression.toList)
  | none =>
      if !columns.isEmpty then
        if !q.joins.isEmpty && !q.counting then listed (columns.map (aliased q.dialect))
        else listed (q.dialect.quoteAll columns)
      else if !q.joins.isEmpty && !q.counting then
        match stars? q.dialect (q.tables.map String.toList) with
        | some stars => listed stars
        | none => ['*']
      else ['*']

/-- What is selected, or the count of it. -/
def projection (q : Query) : List Char :=
  if q.counting then "COUNT(".toList ++ q.selection ++ [')'] else q.selection

/-! ## Layout -/

/-- A section that is left out when its list is empty. -/
def unlessEmpty {α : Type} (list : List α) (make : List α → Section) : List Section :=
  if list.isEmpty then [] else [make list]

/-- What stands before the statement's keyword. -/
def preamble (q : Query) : List Section :=
  (q.comment.map Section.comment).toList ++ unlessEmpty q.ctes .ctes

/-- The row window after the order of rows. -/
def window (q : Query) : List Section :=
  if q.dialect.topRows then
    if q.offset = 0 then []
    else
      (if q.ordering.isEmpty then [.anyOrder] else []) ++ [.skipRows q.offset] ++
        (q.limit.map Section.fetchRows).toList
  else
    (q.limit.map Section.limit).toList ++ (if q.offset = 0 then [] else [.offset q.offset])

/-- What follows the WHERE list. -/
def modifiers (q : Query) : List Section :=
  unlessEmpty q.grouping .grouping ++ unlessEmpty q.having .having ++
    unlessEmpty q.ordering .ordering ++ q.window ++ (q.lock.map Section.lock).toList

/-- What follows the keyword and the tables in every kind of statement. -/
def tail (q : Query) : List Section := unlessEmpty q.conditions .conditions ++ q.modifiers

/-- The limit at the head of a SELECT, when the row window is not written after it. -/
def head (q : Query) : List Section :=
  if q.dialect.topRows && q.offset == 0 then (q.limit.map Section.top).toList else []

def selectLayout (q : Query) : List Section :=
  q.preamble ++ [.keyword "SELECT "] ++ q.head ++
    [.projection q.projection, .keyword " FROM ", .tables q.tables] ++
    unlessEmpty q.joins .joins ++ q.tail

def updateLayout (q : Query) (columns : Assignments) : List Section :=
  q.preamble ++ [.keyword "UPDATE ", .tables q.tables, .keyword " SET ", .assignments columns] ++
    q.tail

def deleteLayout (q : Query) : List Section :=
  q.preamble ++ [.keyword "DELETE FROM ", .tables q.tables] ++ q.tail

/-- The text of the laid-out sections, closed by a semicolon, and their arguments. -/
def renderLayout (d : Dialect) (sections : List Section) : Rendered :=
  (Fragment.concat (sections.map (Section.fragment d)) ++ .ofText [';']).render d.numbered

/-- The statement text and its arguments. An UPDATE that sets nothing is a SELECT, and raw SQL
is taken as it is. -/
def render (q : Query) : Rendered :=
  match q.statement with
  | .raw sql args => ⟨sql, args⟩
  | .delete => renderLayout q.dialect q.deleteLayout
  | .update (column :: columns) => renderLayout q.dialect (q.updateLayout (column :: columns))
  | .update [] | .select => renderLayout q.dialect q.selectLayout

end Query

end QueryBind
