import PortableSql.Session.Slot
import PortableSql.Session.Statistics

/-!
# Sessions

A session has a primary connection and, once a write asked for it, a connection to the master.
It remembers what a new connection has to be told and what the last insert was.
-/

namespace PortableSql

/-- What a session remembers of the commands that succeeded. -/
structure SessionState where
  /-- The database that is in use. -/
  database : Option String := none
  /-- Rows are sent one by one. -/
  largeResults : Bool := false
  /-- Integrity checks are off. -/
  bulkImport : Bool := false
  lastInsertTable : Option String := none
  /-- The column that the last insert named for its generated value. -/
  lastInsertColumn : Option String := none

/-- A session on one server, or on a primary and a master. -/
structure Session where
  dialect : Dialect
  primary : Slot
  master? : Option Slot := none
  /-- How the master is reached, if one is configured. -/
  masterSettings? : Option EngineSettings := none
  state : SessionState := {}
  statistics : Statistics := {}
  isClosed : Bool := false

namespace Session

variable {σ α : Type}

/-- The slot that commands run on. -/
def active (session : Session) : Slot := session.master?.getD session.primary

/-- The open slots, the primary first. -/
def slots (session : Session) : List Slot := session.primary :: session.master?.toList

/-- Acts on the primary slot. -/
def onPrimary (action : Acting σ Slot α) : Acting σ Session α :=
  Acting.within Session.primary (fun primary session => { session with primary }) action

/-- Acts on the slot that commands run on. -/
def onActive (action : Acting σ Slot α) : Acting σ Session α :=
  Acting.within active (fun slot session =>
    match session.master? with
    | some _ => { session with master? := some slot }
    | none => { session with primary := slot }) action

/-- Acts on the master, if it is open. -/
def onMaster (action : Acting σ Slot Unit) : Acting σ Session Unit := do
  match (← Acting.this).master? with
  | some _ => onActive action
  | none => pure ()

/-- Acts on every open slot, the primary first; the first failure ends it. -/
def onAll (action : Acting σ Slot Unit) : Acting σ Session Unit := do
  onPrimary action
  onMaster action

/-- The first failure among outcomes. -/
def firstFailure : List (Except Failure Unit) → Except Failure Unit
  | [] => .ok ()
  | .ok () :: rest => firstFailure rest
  | .error failure :: _ => .error failure

/-- Begins a transaction, possibly inside of another one, on every open connection. -/
def begin (server : Server σ) : Acting σ Session Unit := onAll (Slot.begin server)

/-- Commits a level on every open connection. -/
def commit (server : Server σ) : Acting σ Session Unit := onAll (Slot.commit server)

/-- Rolls back every open connection, also when one fails. -/
def rollback (server : Server σ) : Acting σ Session Unit := do
  let first ← Acting.outcome (onPrimary (Slot.rollback server))
  let second ← Acting.outcome (onMaster (Slot.rollback server))
  Acting.settle (firstFailure [first, second])

end Session

end PortableSql
