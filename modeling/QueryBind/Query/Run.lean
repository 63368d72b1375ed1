/-
# QueryBind.Query.Run — queries executed and their results bound

A query is rendered and handed to an executor; a failure is told with the operation it happened
in. Binding turns the rows into objects of a model and then loads the query's relationship paths
onto them, as one batch.
-/
import QueryBind.Query.Render
import QueryBind.Record.Scan
import QueryBind.Relation.Load

namespace QueryBind

set_option autoImplicit false

namespace Query

variable {σ α : Type}

/-- The outcome as that of a named operation. -/
def asOperation {β : Type} (name : String) (x : Except Error β) : Except Error β :=
  x.mapError (Error.inOperation name)

/-- The number of affected rows. -/
def exec (q : Query) (executor : Executor σ) : Action σ (Except Error Nat) := do
  let answer ← executor.exec q.render.sql q.render.args
  return asOperation "exec" answer.outcome

/-- All rows. -/
def rows (q : Query) (executor : Executor σ) : Action σ (Except Error (List Row)) := do
  let answer ← executor.query q.render.sql q.render.args
  return asOperation "query" answer.outcome

/-- The first row. -/
def row (q : Query) (executor : Executor σ) : Action σ (Except Error Row) := do
  let answer ← executor.queryRow q.render.sql q.render.args
  return asOperation "query_row" answer.outcome

/-- A new record for each row. -/
def records (q : Query) (executor : Executor σ) (s : Schema) (type : Nat) :
    Action σ (Except Error (List Record)) := do
  match ← q.rows executor with
  | .error e => return .error e
  | .ok rows => return asOperation "bind" (Record.bindRows s type rows)

/-- One record for all rows. -/
def record (q : Query) (executor : Executor σ) (s : Schema) (type : Nat) :
    Action σ (Except Error Record) := do
  match ← q.rows executor with
  | .error e => return .error e
  | .ok rows => return asOperation "bind" (Record.bindOne s type q.bindMode rows)

/-- Objects with the query's relationship paths loaded onto them. -/
def withLoads (q : Query) (executor : Executor σ) (m : Model σ α) (type : Nat) (singular : Bool)
    (objects : List α) : Action σ (Except Error (List α)) := do
  let p ← m.load executor type singular q.loads objects []
  return p.outcome.map fun () => p.targets

/-- All rows as objects, in order, with the query's relationships. -/
def bindAll (q : Query) (executor : Executor σ) (m : Model σ α) (type : Nat) :
    Action σ (Except Error (List α)) := do
  match ← q.records executor m.schema type with
  | .error e => return .error e
  | .ok records => q.withLoads executor m type false (records.map m.ofRecord)

/-- All rows as one object, with the query's relationships. -/
def bindOne (q : Query) (executor : Executor σ) (m : Model σ α) (type : Nat) :
    Action σ (Except Error α) := do
  match ← q.record executor m.schema type with
  | .error e => return .error e
  | .ok record =>
      let objects ← q.withLoads executor m type true [m.ofRecord record]
      return objects.map fun loaded => loaded.headD (m.ofRecord record)

end Query

end QueryBind
