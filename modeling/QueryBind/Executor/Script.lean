/-
# QueryBind.Executor.Script — an executor that answers from a script

The executor takes its answers from a queue, one for each call, and keeps a record of the calls.
When the queue is empty, it answers with no rows and one affected row.
-/
import QueryBind.Executor

namespace QueryBind

set_option autoImplicit false

namespace Script

/-- What a statement answers. -/
structure Answer where
  rows : List Row
  affected : Nat

/-- One answer of the queue. -/
structure Reply where
  outcome : Except Error Answer
  delay : Duration
  busy : Duration

def Reply.default : Reply := ⟨.ok ⟨[], 1⟩, ⟨0⟩, ⟨0⟩⟩

inductive Method where
  | exec
  | query
  deriving DecidableEq, Repr

def Method.name : Method → String
  | .exec => "exec"
  | .query => "query"

structure Call where
  method : Method
  sql : String
  args : List Value

end Script

open Script

/-- The answers left and the calls made, oldest first. -/
structure Script where
  replies : List Reply
  calls : List Call

namespace Script

/-- Take the next answer and record the call. -/
def answer (method : Method) (sql : String) (args : List Value) (s : Script) : Reply × Script :=
  let calls := s.calls ++ [⟨method, sql, args⟩]
  match s.replies with
  | [] => (.default, ⟨[], calls⟩)
  | reply :: rest => (reply, ⟨rest, calls⟩)

def timed {α : Type} (f : Answer → α) (r : Reply) : Timed α := ⟨r.outcome.map f, r.delay, r.busy⟩

def executor : Executor Script :=
  .ofExecQuery
    (fun sql args => timed Answer.affected <$> Action.onWorld (answer .exec sql args))
    (fun sql args => timed Answer.rows <$> Action.onWorld (answer .query sql args))

end Script

end QueryBind
