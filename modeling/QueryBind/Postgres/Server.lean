/-
# QueryBind.Postgres.Server — running statements on a server

A `Server` stands for a database that answers one statement: the types it expects, the columns
and rows it has, the stage at which it fails. A statement passes the stages in order. The server
prepares it; the arguments are counted and put into binary form; the server binds and executes
it; the cells are decoded. The first stage that fails decides the error. The parameters that
reached the server are kept in `received`.
-/
import QueryBind.Executor
import QueryBind.Postgres.Cell

namespace QueryBind.Postgres

set_option autoImplicit false

structure Column where
  name : String
  type : DataType

/-- Where a server fails. -/
inductive Stage where
  | prepare | bind | execute
  deriving DecidableEq, Repr

structure Server where
  /-- The types of the statement's parameters. -/
  parameters : List DataType
  columns : List Column
  /-- Rows of cells in binary form, a NULL cell without bytes. -/
  rows : List (List (Option (List UInt8)))
  /-- The tag that says which command was completed. -/
  tag : String
  failsAt : Option Stage
  /-- The parameters that arrived. -/
  received : List (Option (List UInt8))

namespace Server

/-- The binary forms of arguments, counted from `index`. -/
def parametersFrom (index : Nat) :
    List (DataType × Value) → Except ConnectionError (List (Option (List UInt8)))
  | [] => .ok []
  | (type, value) :: rest =>
      match Parameter.encode value type with
      | .error _ => .error (.unencodable index)
      | .ok parameter => (parametersFrom (index + 1) rest).map (parameter :: ·)

/-- The binary forms of all arguments of a statement. -/
def encodeArgs (types : List DataType) (args : List Value) :
    Except ConnectionError (List (Option (List UInt8))) :=
  if types.length = args.length then parametersFrom 0 (types.zip args)
  else .error (.wrongArgumentCount types.length args.length)

/-- Send a statement with its arguments through all stages on the server. -/
def send (server : Server) (args : List Value) : Except ConnectionError Unit × Server :=
  let idle := { server with received := [] }
  if server.failsAt = some .prepare then (.error .statementFailed, idle)
  else
    match encodeArgs server.parameters args with
    | .error cause => (.error cause, idle)
    | .ok received =>
        let reached := { server with received }
        if server.failsAt = none then (.ok (), reached) else (.error .statementFailed, reached)

/-- The cells of one row, columns counted from `index`. -/
def cellsFrom (index : Nat) :
    List (Column × Option (List UInt8)) → Except Error (List Value)
  | [] => .ok []
  | (column, cell) :: rest =>
      match Cell.decode? column.type cell with
      | none => .error (.decode column.name (.unreadable index))
      | some value => (cellsFrom (index + 1) rest).map (value :: ·)

/-- A row in the order of the columns. -/
def decodeRow (columns : List Column) (cells : List (Option (List UInt8))) : Except Error Row :=
  (cellsFrom 0 (columns.zip cells)).map fun values => ⟨columns.map Column.name, values⟩

/-- The number at the end of a command tag, and 0 if there is none. A number that 64 bits do not
hold counts as none. -/
def affected (tag : String) : Nat :=
  let word := (tag.toList.splitOn ' ').getLast?.getD []
  let digits :=
    match word with
    | '+' :: digits => digits
    | _ => word
  match Text.natural? digits with
  | some n => if n < UInt64.size then n else 0
  | none => 0

/-- Send a statement and take an answer from the server. -/
def answer {α : Type} (args : List Value) (read : Server → Except Error α) :
    Action Server (Timed α) :=
  Action.onWorld fun server =>
    match server.send args with
    | (.ok (), reached) => (⟨read reached, ⟨0⟩, ⟨0⟩⟩, reached)
    | (.error cause, reached) => (⟨.error (.connection cause), ⟨0⟩, ⟨0⟩⟩, reached)

/-- The executor of a server's connection. A transaction on it executes in the same way. -/
def executor : Executor Server :=
  .ofExecQuery (fun _ args => answer args fun server => .ok (affected server.tag))
    (fun _ args => answer args fun server => server.rows.mapM (decodeRow server.columns))

end Server

end QueryBind.Postgres
