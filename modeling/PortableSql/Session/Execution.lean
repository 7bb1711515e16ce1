import PortableSql.Payload.Command
import PortableSql.Session.Cursor
import PortableSql.Session.Routing

/-!
# Executing commands

A command is read, routed, compiled and run, and only then remembered. The statements of its plan
run in order on one connection; every result but the last is closed before the next statement.
When a statement fails, the report says how many were completed, for they are not undone.
-/

namespace PortableSql

/-- Reads from a cursor; each closing of its result is an event. -/
def Acting.reading {σ α : Type} (action : Reading α) : Acting σ Cursor α :=
  fun (cursor, world) =>
    let (outcome, next) := action cursor
    let closings := List.replicate (next.closings - cursor.closings) Event.resultClosed
    (outcome, next, { world with events := world.events ++ closings })

namespace Session

variable {σ : Type}

/-- How far the statements of a plan came. -/
structure Progress where
  /-- The statements that were run. -/
  completed : Nat
  /-- The last result, if there was a statement. -/
  outcome : Except Failure (Option ResultSet)

/-- Runs statements in order, after some that are completed. Only the last one may be
streamed. -/
def runStatements (server : Server σ) (stream : Bool) (completed : Nat) :
    List Statement → Acting σ Connection Progress
  | [] => pure ⟨completed, .ok none⟩
  | [last] => do
    match ← Acting.outcome (Connection.execute server last stream) with
    | .ok result => pure ⟨completed + 1, .ok (some result)⟩
    | .error failure => pure ⟨completed, .error failure⟩
  | statement :: rest => do
    match ← Acting.outcome (Connection.execute server statement) with
    | .error failure => pure ⟨completed, .error failure⟩
    | .ok result =>
      match ← Acting.outcome (Acting.closeResult result) with
      | .ok () => runStatements server stream (completed + 1) rest
      | .error failure => pure ⟨completed + 1, .error failure⟩

/-- The operation of a plan, as reports name it. -/
def operationOf (plan : Plan) : String := (plan.tag.map Tag.spelling).getD "UNKNOWN"

/-- What is raised when a plan fails after some completed statements. -/
def planFailure (plan : Plan) (completed : Nat) (failure : Failure) : Failure :=
  let query := ((plan.texts)[completed]?).getD ""
  let own := if failure.isReport then failure else .queryExecution query failure
  if completed = 0 then own
  else
    let counted := toString completed
    .execution (operationOf plan ++ " failed at statement " ++ toString (completed + 1) ++
        " of " ++ toString plan.statements.length ++ "; the " ++ counted ++
        " completed statement(s) were not rolled back")
      (operationOf plan) query .partialPlan
      [("completed", .list ((plan.texts.take completed).map .text))] (some own)

/-- Counts the statements that were run. -/
def account (plan : Plan) (progress : Progress) : Acting σ Session Unit :=
  Acting.change fun session =>
    let success := match progress.outcome with
      | .ok _ => true
      | .error _ => false
    let metrics : QueryMetrics := {
      command := operationOf plan
      dialect := session.dialect.name
      route := session.active.name
      statements := progress.completed
      success }
    { session with statistics := session.statistics.record metrics }

/-- Runs a plan on the active connection and puts a cursor on its last result. -/
def runPlan (server : Server σ) (plan : Plan) : Acting σ Session Cursor := do
  let stream := (← Acting.this).state.largeResults
  let progress ← onActive (Slot.onConnection (runStatements server stream 0 plan.statements))
  account plan progress
  match progress.outcome with
  | .error failure =>
    if progress.completed = 0 && failure.isReport then throw failure
    else Acting.raise (planFailure plan progress.completed failure)
  | .ok result? => do
    let (outcome, cursor) ← Acting.apart { plan, result? } (Acting.reading Cursor.prepare)
    Acting.settle outcome
    pure cursor

/-- What is remembered after a command that succeeded. -/
def remembered (command : Command) (state : SessionState) : SessionState :=
  match command with
  | .use command => { state with database := some command.database }
  | .insert command =>
    { state with
      lastInsertTable := some command.table
      lastInsertColumn := command.autoIncrement }
  | .bulkImportMode command => { state with bulkImport := command.enabled }
  | .dropDatabase command =>
    if state.database = some command.name then { state with database := none } else state
  | _ => state

/-- Compiles a command for the active connection, which may be asked about a table. -/
def compileLive (server : Server σ) (command : Command) : Acting σ Session Plan := do
  let session ← Acting.this
  let context : Context := { master := session.master?.isSome, live := true }
  match ← Acting.report (compile session.dialect context command) with
  | .done plan => pure plan
  | .reading statement resume => do
    let rows ← onActive (Slot.onConnection (Connection.fetch server statement))
    Acting.report (resume rows)

/-- Routes, compiles and runs a command, and remembers it. -/
def perform (server : Server σ) (command : Command) : Acting σ Session Cursor := do
  route server command
  let cursor ← runPlan server (← compileLive server command)
  Acting.change fun session => { session with state := remembered command session.state }
  pure cursor

/-- Runs an execution inside a span that names its operation. -/
def spanned {α : Type} (operation : String) (action : Acting σ Session α) :
    Acting σ Session α := do
  let session ← Acting.this
  Acting.traced "sqlcommand.execute"
    [("db.system", .text session.dialect.name), ("db.operation", .text operation),
     ("sqlcommand.route", .text session.active.name)] action

/-- Executes a command that is given by its tag and payload, with the arguments for its
placeholders. -/
def execute (server : Server σ) (tag : Tag.Source) (payload : Payload.Source)
    (args : List Value) : Acting σ Session Cursor :=
  spanned tag.text do
    perform server (← Acting.report (Payload.parse tag payload args))

/-- The arguments that follow a command: a null before all others stands for none. -/
def givenArgs : List Value → List Value
  | .null :: rest => rest
  | args => args

/-- Executes a command; arguments that are given replace its own. -/
def executeCommand (server : Server σ) (command : Command) (args : List Value) :
    Acting σ Session Cursor :=
  spanned command.tag.spelling do
    let given := givenArgs args
    perform server (if given.isEmpty then command else command.withArgs given)

/-- The value that the last insert generated, or null when the server has none. -/
def insertId (server : Server σ) : Acting σ Session Value := do
  let session ← Acting.this
  match session.state.lastInsertTable with
  | none => Acting.raise (.validation "No INSERT has been executed in this session")
  | some table => do
    let statement ← Acting.report
      (session.dialect.insertIdStatement (some table) session.state.lastInsertColumn)
    let rows ← onActive (Slot.onConnection (Connection.fetch server statement))
    pure (match rows with
      | [] => .null
      | row :: _ => columnOrNull row "id")

/-- Chooses whether rows are sent one by one. -/
def setLargeResults (enabled : Bool) : Acting σ Session Unit :=
  Acting.change fun session =>
    { session with state := { session.state with largeResults := enabled } }

end Session

end PortableSql
