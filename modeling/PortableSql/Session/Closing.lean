import PortableSql.Session.Basic
import PortableSql.Settings

/-!
# Opening and closing sessions

A session is opened on its primary. When it is closed, open transactions are committed and every
connection is closed, the master first, whatever failed before; the first failure is raised at
the end. A session that is left by an error is rolled back first.
-/

namespace PortableSql.Session

variable {σ τ : Type}

/-- How a server at an address is reached. -/
def engineSettings (settings : Settings) (url : String) : EngineSettings where
  url
  echo := settings.echo
  prePing := settings.prePing

/-- A session whose primary is not connected yet. -/
def ofSettings (settings : Settings) (dialect : Dialect) : Session where
  dialect
  primary := {
    name := "primary"
    connection := { settings := engineSettings settings settings.dsn, dialect } }
  masterSettings? := settings.masterDsn.map (engineSettings settings)
  state := { largeResults := settings.largeResults }

/-- Opens a session. -/
def connect (server : Server σ) (settings : Settings) : Acting σ τ Session := do
  let dialect ← Acting.report (Dialect.named settings.dialectSource)
  let (outcome, session) ← Acting.apart (ofSettings settings dialect)
    (onPrimary (Slot.onConnection (Connection.connect server)))
  Acting.settle outcome
  pure session

/-- Closes every open connection, the master first, also when one fails. -/
def closeSlots (server : Server σ) : Acting σ Session Unit := do
  let close := Slot.onConnection (Connection.close server)
  let first ← Acting.outcome (onMaster close)
  let second ← Acting.outcome (onPrimary close)
  Acting.change fun session => { session with master? := none }
  Acting.settle (firstFailure [first, second])

/-- What is raised when a session could not be closed properly. -/
def disconnectFailure (failure : Failure) : Failure :=
  if failure.class? = some .execution then failure
  else .execution ("Disconnect failed: " ++ failure.text) "disconnect" "" .disconnect []
    (some failure)

/-- Commits what is open and closes every connection, whatever fails on the way. -/
def disconnect (server : Server σ) : Acting σ Session Unit := do
  if (← Acting.this).isClosed then pure ()
  else
    Acting.change fun session => { session with isClosed := true }
    let first ← Acting.outcome (onPrimary (Slot.commitAll server))
    let second ← Acting.outcome (onMaster (Slot.commitAll server))
    let third ← Acting.outcome (closeSlots server)
    match firstFailure [first, second, third] with
    | .ok () => pure ()
    | .error failure =>
      if failure.class? = some .execution then throw failure
      else Acting.raise (disconnectFailure failure)

/-- The warning about a rollback that failed. -/
def rollbackFailed : Log.Record where
  level := .warning
  speaker := "sqlcommand.engine.session"
  message := "Rollback on error failed"

/-- Leaves a session, by an error or without one. A report about the rollback becomes a
warning. -/
def leave (server : Server σ) (byError : Bool) : Acting σ Session Unit := do
  if byError && (← Acting.this).active.depth ≠ 0 then
    match ← Acting.outcome (rollback server) with
    | .ok () => pure ()
    | .error failure => if failure.isReport then Acting.log rollbackFailed else throw failure
  disconnect server

end PortableSql.Session
