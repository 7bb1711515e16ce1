import PortableSql.Reporting
import PortableSql.Server.Marker
import PortableSql.Trace

/-!
# Servers and what happens to them

A server answers calls; it may remember what it was asked before and answer or fail in any way.
Everything that is done to servers is an event, in the order in which it happens. An engine is
the access to one server; engines are numbered in the order of their creation.
-/

namespace PortableSql

/-- The result of a statement: rows that can be read one by one, each of which may fail. -/
structure ResultSet where
  rows : List (Except Failure Row) := []
  returnsRows : Bool := false
  rowCount : Int := -1
  /-- The names of the columns, if the server says them. -/
  columns? : Option (List String) := none
  /-- What happens when the result is closed. -/
  closeFault? : Option Failure := none

/-- The names of the columns: those of the server, or those of the next row. -/
def ResultSet.columns (result : ResultSet) : List String :=
  match result.columns?, result.rows with
  | some names, _ => names
  | none, .ok row :: _ => row.map Prod.fst
  | none, _ => []

/-- A statement as a server is asked to run it. -/
structure Request where
  sql : String
  values : BoundValues
  /-- Rows are sent one by one. -/
  stream : Bool

/-- How servers answer; `σ` is what they remember. -/
structure Server (σ : Type) where
  style : (engine : Nat) → σ → MarkerStyle
  connect : (engine : Nat) → σ → Except Failure Unit × σ
  execute : (engine : Nat) → Request → σ → Except Failure ResultSet × σ
  close : (engine : Nat) → σ → Except Failure Unit × σ

/-- How an engine is created. -/
structure EngineSettings where
  url : String
  echo : Bool := false
  prePing : Bool := true

/-- What is done to servers. -/
inductive Event where
  | created (engine : Nat) (settings : EngineSettings)
  /-- A connection was asked for. -/
  | connected (engine : Nat)
  | executed (engine : Nat) (request : Request)
  /-- A result was closed. -/
  | resultClosed
  /-- A connection was closed. -/
  | closed (engine : Nat)
  | disposed (engine : Nat)

/-- The servers' memory and what happened so far. -/
structure World (σ : Type) where
  memory : σ
  engines : Nat := 0
  events : List Event := []
  records : List Log.Record := []
  spans : List Trace.Span := []

/-- An effect on something of type `τ` in a world; it may fail, and what it did remains. -/
abbrev Acting (σ τ α : Type) := ExceptT Failure (StateM (τ × World σ)) α

namespace Acting

variable {σ τ υ α : Type}

/-- The thing that is acted on. -/
def this : Acting σ τ τ := do pure (← get).1

/-- Changes the thing that is acted on. -/
def change (update : τ → τ) : Acting σ τ Unit :=
  modify fun (whole, world) => (update whole, world)

/-- Changes the world. -/
def changeWorld (update : World σ → World σ) : Acting σ τ Unit :=
  modify fun (whole, world) => (whole, update world)

/-- Notes an event. -/
def note (event : Event) : Acting σ τ Unit :=
  changeWorld fun world => { world with events := world.events ++ [event] }

/-- Runs a computation that reports. -/
def report (computation : Reporting α) : Acting σ τ α := do
  let (outcome, records) := computation.run.run (← get).2.records
  changeWorld fun world => { world with records }
  match outcome with
  | .ok value => pure value
  | .error failure => throw failure

/-- Adds one record. -/
def log (record : Log.Record) : Acting σ τ Unit := report (Reporting.log record)

/-- Fails, and records the failure when it is a report. -/
def raise (failure : Failure) : Acting σ τ α := report (Reporting.raise failure)

/-- Calls a server. -/
def call (ask : σ → Except Failure α × σ) : Acting σ τ (Except Failure α) := do
  let (answer, memory) := ask (← get).2.memory
  changeWorld fun world => { world with memory }
  pure answer

/-- Acts on a part. -/
def within (read : τ → υ) (write : υ → τ → τ) (action : Acting σ υ α) : Acting σ τ α :=
  fun (whole, world) =>
    let (outcome, part, after) := action (read whole, world)
    (outcome, write part whole, after)

/-- Acts on something else in the same world: the outcome and what became of it. -/
def apart (other : υ) (action : Acting σ υ α) : Acting σ τ (Except Failure α × υ) :=
  fun (whole, world) =>
    let (outcome, part, after) := action (other, world)
    (.ok (outcome, part), whole, after)

/-- The outcome of an effect, as a value. -/
def outcome (action : Acting σ τ α) : Acting σ τ (Except Failure α) := fun state =>
  let (result, after) := action state
  (.ok result, after)

/-- Ends with an outcome that is known already; nothing is recorded again. -/
def settle : Except Failure α → Acting σ τ α
  | .ok value => pure value
  | .error failure => throw failure

/-- Runs an effect inside a span. -/
def traced (name : String) (attributes : List (String × Value)) (action : Acting σ τ α) :
    Acting σ τ α := do
  let result ← outcome action
  changeWorld fun world =>
    { world with spans := world.spans ++ [Trace.spanOf name .client attributes result] }
  settle result

/-- Closes a result. -/
def closeResult (result : ResultSet) : Acting σ τ Unit := do
  note .resultClosed
  match result.closeFault? with
  | none => pure ()
  | some failure => raise failure

end Acting

end PortableSql
