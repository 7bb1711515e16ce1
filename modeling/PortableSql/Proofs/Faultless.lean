import PortableSql.Proofs.Journal

/-!
# Servers that never fail

Where no call of a driver fails, transactions can always be begun, committed and rolled back.
-/

namespace PortableSql

/-- The server accepts every connection and statement, and its results can be closed. -/
structure Server.Faultless {σ : Type} (server : Server σ) : Prop where
  connects : ∀ engine memory, (server.connect engine memory).1 = .ok ()
  executes : ∀ engine request memory, ∃ result,
    (server.execute engine request memory).1 = .ok result ∧ result.closeFault? = none

namespace Acting

variable {σ τ υ α β : Type} {before : τ} {engines : Nat}

/-- The action ends well. -/
abbrev Succeeds (action : Acting σ τ α) (before : τ) (engines : Nat) : Prop :=
  action.Tells before engines fun outcome _ _ _ => ∃ value, outcome = .ok value

/-- Acting well on a part is acting well. -/
theorem Succeeds.within {read : τ → υ} {write : υ → τ → τ} {action : Acting σ υ α}
    (succeeds : action.Succeeds (read before) engines) :
    (Acting.within read write action).Succeeds before engines :=
  Tells.within succeeds fun _ _ _ _ told => told

end Acting

namespace Connection

open Acting

variable {σ : Type} {connection : Connection} {number engines : Nat}

/-- A statement without parameters runs well on an open connection. -/
theorem On.run_succeeds (isOn : connection.On number) {server : Server σ}
    (faultless : server.Faultless) {statement : Statement} (bare : statement.parameters = []) :
    (Connection.run server statement).Succeeds connection engines := by
  have executed : (Connection.execute server statement).Tells connection engines
      fun outcome _ _ _ => ∃ result, outcome = .ok result ∧ result.closeFault? = none := by
    refine tells_passing (prepare_bare server bare) ?_
    refine tells_passing (isOn.connect_apply server) (tells_passing isOn.engine_apply ?_)
    refine tells_note_bind (tells_call_bind fun memory => ?_)
    obtain ⟨result, answered, closes⟩ := faultless.executes number
      { sql := statement.sql, values := .none, stream := false } memory
    rw [answered]
    refine tells_pure ⟨_, rfl, ?_⟩
    unfold ownResult
    split <;> exact closes
  refine executed.bind (fun _ _ _ _ told => nomatch told) ?_
  rintro result after later added ⟨_, ⟨⟩, closes⟩
  refine tells_note_bind ?_
  rw [closes]
  exact tells_pure ⟨(), rfl⟩

end Connection

namespace Control

open Acting

variable {σ : Type} {server : Server σ} {slot : Slot} {session : Session} {number engines : Nat}

/-- The statements of a control run well on an open connection. -/
theorem onSlot_succeeds (faultless : server.Faultless) (isOn : slot.connection.On number)
    (control : Control) : (control.onSlot server).Succeeds slot engines := by
  refine onSlot_follows server (fun _ => ⟨(), rfl⟩) fun statement sends => ?_
  exact isOn.run_succeeds faultless
    (statements_bare (sends ▸ List.mem_singleton_self statement)).1

/-- A control on the master ends well, also when that is not open. -/
theorem onMaster_succeeds (faultless : server.Faultless) (reaches : session.Reaches)
    (control : Control) : (Session.onMaster (control.onSlot server)).Succeeds session engines := by
  refine tells_this_bind ?_
  cases known : session.master? with
  | none => exact tells_pure ⟨(), rfl⟩
  | some slot =>
    obtain ⟨number, isOn⟩ := reaches slot known
    have active := Session.active_of_master known
    exact Succeeds.within (active ▸ control.onSlot_succeeds faultless isOn)

/-- Where no call fails, transactions can be begun, committed and rolled back. -/
theorem onSession_succeeds (faultless : server.Faultless) {primary : Nat}
    (standing : session.Standing primary engines) (control : Control) :
    (control.onSession server).Succeeds session engines := by
  have reaches : ∀ moved, Session.Reaches { session with primary := moved } :=
    fun _ => standing.reaches
  have onPrimary : ∀ control : Control, (Session.onPrimary (control.onSlot server)).Tells session
      engines fun outcome after _ _ => outcome = .ok () ∧
        ∃ moved, after = { session with primary := moved } := by
    intro control
    refine Tells.within (control.onSlot_succeeds faultless standing.opened) ?_
    rintro outcome moved later added ⟨value, rfl⟩
    exact ⟨rfl, moved, rfl⟩
  have all : ∀ control : Control,
      (Session.onAll (control.onSlot server)).Succeeds session engines := by
    intro control
    refine (onPrimary control).bind (fun _ _ _ _ told => nomatch told.1) ?_
    rintro value after later added ⟨-, moved, rfl⟩
    exact onMaster_succeeds faultless (reaches moved) control
  cases control with
  | begin => exact all .begin
  | commit => exact all .commit
  | rollback =>
    refine (onPrimary .rollback).outcomeBind ?_
    rintro first after later added ⟨rfl, moved, rfl⟩
    refine Tells.outcomeBind
      (onMaster_succeeds faultless (reaches moved) .rollback) ?_
    rintro second last final others ⟨value, rfl⟩
    exact tells_pure ⟨(), rfl⟩

end Control

/-- In a run where no call fails, every beginning, commit and rollback ends well. -/
theorem controls_succeed {σ : Type} {server : Server σ} (faultless : server.Faultless)
    {session : Session} {world : World σ} {primary : Nat}
    (standing : session.Standing primary world.engines) (operations : List Operation) :
    ∀ entry ∈ journal server operations (session, world), ∀ control,
      entry.operation = .control control → entry.outcome = .ok () := by
  induction operations generalizing session world with
  | nil => exact fun _ member => nomatch member
  | cons operation rest inductionHypothesis =>
    obtain ⟨outcome, after, added, later, ran, same, -, stands, -⟩ :=
      journal_cons server standing operation rest
    rw [same]
    intro entry member control asked
    rcases List.mem_cons.mp member with rfl | following
    · obtain rfl : operation = .control control := asked
      obtain ⟨_, _, _, _, ended, -, value, rfl⟩ :=
        control.onSession_succeeds faultless standing world rfl
      cases ran.symm.trans ended
      rfl
    · exact inductionHypothesis stands entry following control asked

/-- A server that accepts everything and answers nothing. -/
def Server.silent : Server Unit where
  style _ _ := .question
  connect _ memory := (.ok (), memory)
  execute _ _ memory := (.ok {}, memory)
  close _ memory := (.ok (), memory)

/-- A server that answers every statement with the same rows. -/
def Server.listing (rows : List Row) : Server Unit where
  style _ _ := .question
  connect _ memory := (.ok (), memory)
  execute _ _ memory := (.ok { rows := rows.map .ok, returnsRows := true }, memory)
  close _ memory := (.ok (), memory)

/-- A server that accepts every connection and refuses every other statement, the first one too. -/
def Server.fickle : Server Nat where
  style _ _ := .question
  connect _ memory := (.ok (), memory)
  execute _ _ asked :=
    (if asked % 2 = 0 then .error (.fault .database "lost") else .ok {}, asked + 1)
  close _ memory := (.ok (), memory)

theorem Server.silent_faultless : Server.silent.Faultless where
  connects _ _ := rfl
  executes _ _ _ := ⟨_, rfl, rfl⟩

/-- A server to read from and one to write to. -/
def twoServers : Settings where
  dsn := "mysql://reads/"
  masterDsn := some "mysql://writes/"

/-- A world in which nothing happened yet, after a session was opened in it. -/
def begunWorld : World Unit where
  memory := ()
  engines := 1
  events := [.created 0 (Session.engineSettings twoServers "mysql://reads/"), .connected 0]

theorem twoServers_connected :
    (Session.connect Server.silent twoServers : Acting Unit Unit Session) ((), { memory := () }) =
      (.ok (Session.connectedOn twoServers Family.mysql.dialect 0), (), begunWorld) := rfl

end PortableSql
