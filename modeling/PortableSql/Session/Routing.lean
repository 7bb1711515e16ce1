import PortableSql.Compile.Command
import PortableSql.Session.Basic

/-!
# Routing

Commands run on the primary until a command writes. Then the master is opened, if one is
configured, and is told what the primary knows: the database in use, the integrity checks, and an
open transaction. From then on every command runs on the master. When any of this fails, the
session stays as it was.
-/

namespace PortableSql.Session

variable {σ : Type}

/-- The commands that tell a new connection what a session remembers. -/
def replayed (state : SessionState) : List Command :=
  (match state.database with
    | some name => if name.isEmpty then [] else [.use { database := name }]
    | none => []) ++
  (if state.bulkImport then [.bulkImportMode { enabled := true }] else [])

/-- Runs the statements of a command whose results do not matter. -/
def replay (server : Server σ) (dialect : Dialect) (command : Command) :
    Acting σ Connection Unit := do
  let plan ← Acting.report (compilePlan dialect command)
  plan.statements.forM (Connection.run server)

/-- Tells a new slot what a session remembers, and begins one transaction if the session has one
at any depth. -/
def prepareSlot (server : Server σ) (dialect : Dialect) (state : SessionState) (depth : Nat) :
    Acting σ Slot Unit := do
  (replayed state).forM fun command => Slot.onConnection (replay server dialect command)
  if depth ≠ 0 then
    Slot.begin server
    Acting.change fun slot => { slot with depth }

/-- Opens a new slot and prepares it; a slot that cannot be prepared is closed again. -/
def openSlot (server : Server σ) (dialect : Dialect) (state : SessionState) (depth : Nat) :
    Acting σ Slot Unit := do
  Slot.onConnection (Connection.connect server)
  match ← Acting.outcome (prepareSlot server dialect state depth) with
  | .ok () => pure ()
  | .error failure => do
    Slot.onConnection (Connection.close server)
    throw failure

/-- The master before it is opened. -/
def newMaster (dialect : Dialect) (settings : EngineSettings) : Slot where
  name := "master"
  connection := { settings, dialect, route := "master" }

/-- Opens the master if one is configured and it is not open. -/
def useMaster (server : Server σ) : Acting σ Session Unit := do
  let session ← Acting.this
  match session.master?, session.masterSettings? with
  | none, some settings => do
    let (outcome, slot) ← Acting.apart (newMaster session.dialect settings)
      (openSlot server session.dialect session.state session.primary.depth)
    Acting.settle outcome
    Acting.change fun session => { session with master? := some slot }
  | _, _ => pure ()

/-- Makes the slot active that a command runs on. -/
def route (server : Server σ) (command : Command) : Acting σ Session Unit :=
  if command.tag.isWrite then useMaster server else pure ()

end PortableSql.Session
