/-
# QueryBind.Query — a statement under construction

A `Query` describes one SELECT, UPDATE or DELETE statement, or a raw SQL text. The WHERE list is
flat: leaves and the two ends of groups in the order they were appended, each leaf and each group
start carrying how it joins what stands before it. A statement's kind only ever moves up, from
SELECT over UPDATE and DELETE to raw SQL.
-/
import QueryBind.Dialect
import QueryBind.Value

namespace QueryBind

set_option autoImplicit false

/-- How the arguments of a leaf predicate are used. -/
inductive Test where
  /-- One argument for each marker. -/
  | plain
  /-- All arguments are the list after IN. -/
  | among
  /-- All arguments are the list after NOT IN. -/
  | notAmong
  deriving DecidableEq, Repr

/-- One element of a WHERE list. -/
inductive Predicate where
  | leaf (test : Test) (clause : String) (args : List Value) (joinsByOr : Bool)
  | groupStart (joinsByOr : Bool)
  | groupEnd

inductive JoinKind where
  | inner
  | leftOuter
  | rightOuter
  | fullOuter
  deriving DecidableEq, Repr

def JoinKind.keyword : JoinKind → String
  | .inner => "INNER JOIN"
  | .leftOuter => "LEFT JOIN"
  | .rightOuter => "RIGHT JOIN"
  | .fullOuter => "FULL JOIN"

structure Join where
  kind : JoinKind
  clause : String
  args : List Value

/-- A clause with its own arguments. -/
structure Clause where
  clause : String
  args : List Value

/-- The columns that an UPDATE sets, in strictly ascending order of their names. -/
abbrev Assignments := List (String × Value)

namespace Assignments

/-- The assignments with `column` set to `value`; a column is set once. -/
def put (column : String) (value : Value) : Assignments → Assignments
  | [] => [(column, value)]
  | (c, v) :: rest =>
      if column < c then (column, value) :: (c, v) :: rest
      else if column = c then (column, value) :: rest
      else (c, v) :: put column value rest

/-- The assignments with all columns put in turn, so that the last value given counts. -/
def putAll (columns : List (String × Value)) (start : Assignments) : Assignments :=
  columns.foldl (fun acc c => put c.1 c.2 acc) start

end Assignments

inductive Statement where
  | select
  | update (columns : Assignments)
  | delete
  | raw (sql : String) (args : List Value)

/-- What binding one object does with more than one row. -/
inductive BindMode where
  /-- Every row is stored onto the same object, so the last one counts. -/
  | lastRowWins
  /-- More than one row is an error. -/
  | strict
  deriving DecidableEq, Repr

structure Query where
  dialect : Dialect
  statement : Statement
  /-- The selected columns; none means all. -/
  columns : List String
  /-- Rows are counted instead of selected. -/
  counting : Bool
  tables : List String
  joins : List Join
  conditions : List Predicate
  grouping : List String
  ordering : List Clause
  having : List Clause
  ctes : List Clause
  limit : Option Nat
  offset : Nat
  lock : Option String
  distinct : Option String
  comment : Option String
  /-- The paths of the relationships to load with the result. -/
  loads : List String
  bindMode : BindMode

namespace Query

/-- An empty SELECT. -/
def empty (dialect : Dialect) : Query :=
  { dialect, statement := .select, columns := [], counting := false, tables := [], joins := [],
    conditions := [], grouping := [], ordering := [], having := [], ctes := [], limit := none,
    offset := 0, lock := none, distinct := none, comment := none, loads := [],
    bindMode := .lastRowWins }

end Query

end QueryBind
