/-
# QueryBind.Executor.Log — statements logged, with an optional deadline

`LogConfig.wrap` puts a log in front of an executor: one event for each statement, after it ended.
A long statement text is cut to a number of bytes, never inside a character. With a deadline, a
statement whose answer would take longer fails with a timeout, and what the executor behind would
have logged at its end is never logged.
-/
import QueryBind.Executor
import QueryBind.Value.Diagnostic

namespace QueryBind

set_option autoImplicit false

namespace Text.Utf8

/-- The last boundary up to byte `limit`, looked for from there backwards. -/
def boundaryUpTo (bytes : List UInt8) : (limit : Nat) → Nat
  | 0 => 0
  | limit + 1 => if isBoundary bytes (limit + 1) then limit + 1 else boundaryUpTo bytes limit

/-- The text, or as much of it as its bytes up to `limit` spell without cutting a character. -/
def truncate (limit : Nat) (s : List Char) : List Char :=
  if size s ≤ limit then s
  else (decode? ((encode s).take (boundaryUpTo (encode s) limit))).getD []

end Text.Utf8

structure LogConfig where
  /-- The level of statements that succeed in time. -/
  level : Level
  /-- The most bytes of a statement text that are shown. -/
  maxLength : Option Nat
  showArgs : Bool
  timeout : Option Duration
  /-- A statement that keeps the caller busy for longer is slow. -/
  slowAfter : Option Duration
  deriving DecidableEq, Repr

namespace LogConfig

open Text

def default : LogConfig := ⟨.debug, some 200, false, none, none⟩

/-- The statement text as it is shown. -/
def shown (c : LogConfig) (sql : String) : String :=
  match c.maxLength with
  | some limit =>
      if limit < Utf8.size sql.toList then
        String.ofList (Utf8.truncate limit sql.toList ++ ['.', '.', '.'])
      else sql
  | none => sql

def isSlow (c : LogConfig) (busy : Duration) : Bool :=
  match c.slowAfter with
  | some threshold => threshold.nanos < busy.nanos
  | none => false

/-- The event of a statement that ended. -/
def event {α : Type} (c : LogConfig) (operation sql : String) (args : List Value) (t : Timed α) :
    Event :=
  match t.outcome with
  | .error cause => .statementFailed operation args.length (c.shown sql) cause
  | .ok _ =>
      let slow := c.isSlow t.busy
      .statement (if slow then .warn else c.level) operation slow args.length (c.shown sql)
        (if c.showArgs then some (String.ofList (Value.listDiagnostic args)) else none)

/-- Run a statement under the deadline, if there is one. -/
def underDeadline {σ α : Type} (c : LogConfig) (run : Action σ (Timed α)) : Action σ (Timed α) := do
  let before := (← get).events
  let answer ← run
  match c.timeout with
  | some limit =>
      if limit.nanos < answer.delay.nanos then
        modify fun t => { t with events := before }
        return { answer with outcome := .error (.timeout limit), delay := limit }
      else return answer
  | none => return answer

/-- Run a statement and log it. -/
def logged {σ α : Type} (c : LogConfig) (operation sql : String) (args : List Value)
    (run : Action σ (Timed α)) : Action σ (Timed α) := do
  let answer ← c.underDeadline run
  Action.emit (c.event operation sql args answer)
  return answer

/-- The executor with a log in front of it. -/
def wrap {σ : Type} (c : LogConfig) (inner : Executor σ) : Executor σ where
  exec sql args := c.logged "exec" sql args (inner.exec sql args)
  query sql args := c.logged "query" sql args (inner.query sql args)
  queryRow sql args := c.logged "query_row" sql args (inner.queryRow sql args)

end LogConfig

end QueryBind
