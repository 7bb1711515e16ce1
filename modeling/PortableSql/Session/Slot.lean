import PortableSql.Server.Connection

/-!
# Slots

A slot is a named connection with the depth of its transactions. Transactions may be nested, but
only the outermost one reaches the server: beginning and committing inside of it moves the depth
alone, and a rollback ends all levels at once.
-/

namespace PortableSql

/-- A named connection and the depth of its transactions. -/
structure Slot where
  name : String
  connection : Connection
  depth : Nat := 0

namespace Slot

variable {σ α : Type}

/-- Acts on the connection. -/
def onConnection (action : Acting σ Connection α) : Acting σ Slot α :=
  Acting.within Slot.connection (fun connection slot => { slot with connection }) action

/-- The warning about a commit without a transaction. -/
def nothingToCommit (slot : Slot) : Log.Record where
  level := .warning
  speaker := "sqlcommand.engine.transactions"
  message := "Commit without an open transaction ignored"
  fields := [("db.route", .text slot.name)]

/-- Opens a level; the first one begins a transaction. -/
def begin (server : Server σ) : Acting σ Slot Unit := do
  if (← Acting.this).depth = 0 then onConnection (Connection.begin server)
  Acting.change fun slot => { slot with depth := slot.depth + 1 }

/-- Closes a level; the last one commits, and stays open when that fails. -/
def commit (server : Server σ) : Acting σ Slot Unit := do
  let slot ← Acting.this
  if slot.depth = 0 then Acting.log slot.nothingToCommit
  else
    if slot.depth = 1 then onConnection (Connection.commit server)
    Acting.change fun slot => { slot with depth := slot.depth - 1 }

/-- Rolls the whole transaction back; no level remains, also when that fails. -/
def rollback (server : Server σ) : Acting σ Slot Unit := do
  let outcome ← Acting.outcome (onConnection (Connection.rollback server))
  Acting.change fun slot => { slot with depth := 0 }
  Acting.settle outcome

/-- Commits all levels at once. -/
def commitAll (server : Server σ) : Acting σ Slot Unit := do
  if (← Acting.this).depth = 0 then pure ()
  else
    Acting.change fun slot => { slot with depth := 1 }
    commit server

end Slot

end PortableSql
