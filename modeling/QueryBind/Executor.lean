/-
# QueryBind.Executor — the boundary to a database

An `Executor` runs statements. It may change a world of type `σ` and append to the event log, and
each of its answers is `Timed`: it says how long the statement waited for the database and how
long it kept the caller busy. Whoever stands in front of an executor sees these times, so that it
can impose a deadline.
-/
import QueryBind.Row

namespace QueryBind

set_option autoImplicit false

inductive Level where
  | error | warn | info | debug | trace
  deriving DecidableEq, Repr

def Level.name : Level → String
  | .error => "ERROR"
  | .warn => "WARN"
  | .info => "INFO"
  | .debug => "DEBUG"
  | .trace => "TRACE"

/-- An entry of the event log. -/
inductive Event where
  | statement (level : Level) (operation : String) (slow : Bool) (argCount : Nat) (sql : String)
      (args : Option String)
  | statementFailed (operation : String) (argCount : Nat) (sql : String) (cause : Error)
  | loadingRelationship (path : String) (targets : Nat) (singular : Bool)
  | alreadyLoaded (path : String)

def Event.level : Event → Level
  | .statement level .. => level
  | .statementFailed .. => .warn
  | .loadingRelationship .. => .trace
  | .alreadyLoaded _ => .trace

/-- The world that executors act on, and the event log, oldest entry first. -/
structure Trace (σ : Type) where
  world : σ
  events : List Event

abbrev Action (σ : Type) := StateM (Trace σ)

namespace Action

/-- Append an event to the log. -/
def emit {σ : Type} (e : Event) : Action σ Unit :=
  modify fun t => { t with events := t.events ++ [e] }

/-- Run an action on the world alone. -/
def onWorld {σ α : Type} (f : σ → α × σ) : Action σ α := fun t =>
  let (x, world) := f t.world
  (x, { t with world })

end Action

/-- An answer with the time it took. -/
structure Timed (α : Type) where
  outcome : Except Error α
  /-- How long the database took to answer. -/
  delay : Duration
  /-- How long the caller was kept busy besides. -/
  busy : Duration

structure Executor (σ : Type) where
  /-- Run a statement for its number of affected rows. -/
  exec : (sql : String) → (args : List Value) → Action σ (Timed Nat)
  /-- Run a statement for all its rows. -/
  query : (sql : String) → (args : List Value) → Action σ (Timed (List Row))
  /-- Run a statement for its first row. -/
  queryRow : (sql : String) → (args : List Value) → Action σ (Timed Row)

namespace Executor

/-- The first of several rows. -/
def firstRow : List Row → Except Error Row
  | [] => .error (.notFound .noRow)
  | row :: _ => .ok row

/-- An executor that takes the first row of all rows. -/
def ofExecQuery {σ : Type} (exec : String → List Value → Action σ (Timed Nat))
    (query : String → List Value → Action σ (Timed (List Row))) : Executor σ where
  exec := exec
  query := query
  queryRow sql args := do
    let answer ← query sql args
    return { answer with outcome := answer.outcome.bind firstRow }

end Executor

end QueryBind
