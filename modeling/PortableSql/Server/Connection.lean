import PortableSql.Dialect.Transaction
import PortableSql.Server.Basic

/-!
# Connections

A connection is opened when it is first needed and stays open until it is closed. What a server
raises is wrapped into a report of this library, with the statement as it was before its markers
were replaced; other faults pass unchanged.
-/

namespace PortableSql

/-- The access to one server through one connection. -/
structure Connection where
  settings : EngineSettings
  dialect : Dialect
  route : String := "primary"
  engine? : Option Nat := none
  isOpen : Bool := false

/-- The fault comes from the toolkit that drives databases. -/
def Failure.isDatabase : Failure → Bool
  | .fault .database _ => true
  | _ => false

namespace Connection

variable {σ : Type}

/-- The engine of the connection, which is created when there is none. -/
def engine : Acting σ Connection Nat := do
  let connection ← Acting.this
  match connection.engine? with
  | some engine => pure engine
  | none => do
    let created := (← get).2.engines
    Acting.changeWorld fun world => { world with engines := created + 1 }
    Acting.note (.created created connection.settings)
    Acting.change fun connection => { connection with engine? := some created }
    pure created

/-- Reports that a server cannot be reached. -/
def unreachable (connection : Connection) (cause : Failure) : Failure :=
  .connection ("Failed to connect to " ++ connection.dialect.name) connection.dialect.name
    connection.route [] (some cause)

/-- Opens the connection if it is not open. -/
def connect (server : Server σ) : Acting σ Connection Unit := do
  let connection ← Acting.this
  if connection.isOpen then pure ()
  else
    let number ← engine
    Acting.note (.connected number)
    match ← Acting.call (server.connect number) with
    | .ok () => Acting.change fun connection => { connection with isOpen := true }
    | .error failure =>
      if failure.isDatabase then Acting.raise (connection.unreachable failure)
      else Acting.raise failure

/-- The statement and its values as the server takes them. Without values no engine is needed. -/
def prepare (server : Server σ) (statement : Statement) :
    Acting σ Connection (String × BoundValues) := do
  let values ← Acting.report (Reporting.ofExcept (statement.parameters.mapM boundValue))
  if values.isEmpty then pure (statement.sql, .none)
  else
    let connection ← Acting.this
    let style := server.style (← engine) (← get).2.memory
    Acting.report (Reporting.ofExcept
      (bindStatement style connection.dialect.table.quotedSpans statement.sql values))

/-- A failure of the database toolkit while it ran a statement becomes a report. -/
def wrapped (sql : String) (failure : Failure) : Failure :=
  if failure.isDatabase then .queryExecution sql failure else failure

/-- A result whose rows fail by reports; one that returns no rows has none. -/
def ownResult (sql : String) (result : ResultSet) : ResultSet :=
  if result.returnsRows then
    { result with rows := result.rows.map (·.mapError (wrapped sql)) }
  else { result with rows := [], columns? := some [] }

/-- Runs a statement. -/
def execute (server : Server σ) (statement : Statement) (stream : Bool := false) :
    Acting σ Connection ResultSet := do
  let (sql, values) ← prepare server statement
  connect server
  let number ← engine
  let request : Request := { sql, values, stream }
  Acting.note (.executed number request)
  match ← Acting.call (server.execute number request) with
  | .ok result => pure (ownResult statement.sql result)
  | .error failure => Acting.raise (wrapped statement.sql failure)

/-- Runs a statement whose result does not matter. -/
def run (server : Server σ) (statement : Statement) : Acting σ Connection Unit := do
  Acting.closeResult (← execute server statement)

/-- Begins a transaction. -/
def begin (server : Server σ) : Acting σ Connection Unit := do
  run server (← Acting.this).dialect.beginTransaction

/-- Ends a transaction and keeps its changes. -/
def commit (server : Server σ) : Acting σ Connection Unit := do
  run server (← Acting.this).dialect.commitTransaction

/-- Ends a transaction and drops its changes. -/
def rollback (server : Server σ) : Acting σ Connection Unit := do
  run server (← Acting.this).dialect.rollbackTransaction

/-- Closes an open connection. -/
def closeOpen (server : Server σ) : Acting σ Connection Unit := do
  let connection ← Acting.this
  match connection.isOpen, connection.engine? with
  | true, some number => do
    Acting.note (.closed number)
    Acting.settle (← Acting.call (server.close number))
  | _, _ => pure ()

/-- Closes the connection and gives up its engine, also when closing fails. -/
def close (server : Server σ) : Acting σ Connection Unit := do
  let outcome ← Acting.outcome (closeOpen server)
  let connection ← Acting.this
  match connection.engine? with
  | some number => Acting.note (.disposed number)
  | none => pure ()
  Acting.change fun connection => { connection with isOpen := false, engine? := none }
  Acting.settle outcome

/-- The rows of a result, read to the end. -/
def readRows : List (Except Failure Row) → Except Failure (List Row)
  | [] => .ok []
  | .error failure :: _ => .error failure
  | .ok row :: rest => (readRows rest).map (row :: ·)

/-- Runs a statement, reads its rows to the end and closes its result in any case. -/
def fetch (server : Server σ) (statement : Statement) : Acting σ Connection (List Row) := do
  let result ← execute server statement
  let rows ← Acting.outcome (Acting.report (Reporting.ofExcept (readRows result.rows)))
  Acting.closeResult result
  Acting.settle rows

end Connection

end PortableSql
