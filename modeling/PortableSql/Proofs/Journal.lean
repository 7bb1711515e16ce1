import PortableSql.Proofs.Operation
import PortableSql.Session.Closing

/-!
# Runs of a session

A run is a journal of operations, each of which begins with what the one before it left. What every
step keeps is kept by a run, from the opening of the session on.
-/

namespace PortableSql

/-- One operation of a run: how it ended, the session before and after it, what happened before it
and what happened then. -/
structure Entry where
  operation : Operation
  outcome : Except Failure Unit
  before : Session
  after : Session
  earlier : List Event
  events : List Event

/-- A run: what is asked of a session, one operation after the other, whatever fails. -/
def journal {σ : Type} (server : Server σ) : List Operation → Session × World σ → List Entry
  | [], _ => []
  | operation :: rest, (before, world) =>
    let (outcome, after, later) := operation.act server (before, world)
    let earlier := world.events
    let events := later.events.drop earlier.length
    { operation, outcome, before, after, earlier, events } :: journal server rest (after, later)

section

variable {σ : Type} {primary : Nat}

/-- A run begins with a step, which is its first entry, and goes on from what the step left. -/
theorem journal_cons (server : Server σ) {session : Session} {world : World σ}
    (standing : session.Standing primary world.engines) (operation : Operation)
    (rest : List Operation) : ∃ outcome after added later,
      operation.act server (session, world) = (outcome, after, later) ∧
      journal server (operation :: rest) (session, world) =
        { operation, outcome, before := session, after, earlier := world.events,
          events := added } :: journal server rest (after, later) ∧
      later.events = world.events ++ added ∧ after.Standing primary later.engines ∧
      operation.Step primary session world.engines outcome after later.engines added := by
  obtain ⟨outcome, after, added, later, ran, events, step⟩ :=
    Operation.act_tells standing server operation world rfl
  refine ⟨outcome, after, added, later, ran, ?_, events, step.standing standing, step⟩
  rw [journal, ran]
  dsimp only
  rw [events, List.drop_left]

/-- What each step keeps is kept by a run, and what it tells is told of every entry, as long as the
entries are as they may be. -/
theorem journal_induction (Holds : Session → Nat → List Event → Prop) (May : Entry → Prop)
    {Told : Entry → Prop}
    (step : ∀ {operation outcome session after engines later earlier events},
      session.Standing primary engines → Holds session engines earlier →
      operation.Step primary session engines outcome after later events →
      May { operation, outcome, before := session, after, earlier, events } →
      Holds after later (earlier ++ events) ∧
        Told { operation, outcome, before := session, after, earlier, events })
    (server : Server σ) (operations : List Operation) {session : Session} {world : World σ}
    (standing : session.Standing primary world.engines)
    (holds : Holds session world.engines world.events)
    (may : ∀ entry ∈ journal server operations (session, world), May entry) :
    ∀ entry ∈ journal server operations (session, world), Told entry := by
  -- From the session and the world that the first operation leaves, the rest is a run as well.
  induction operations generalizing session world with
  | nil => exact fun _ member => nomatch member
  | cons operation rest inductionHypothesis =>
    obtain ⟨outcome, after, added, later, -, same, events, stands, taken⟩ :=
      journal_cons server standing operation rest
    rw [same] at may ⊢
    obtain ⟨still, told⟩ := step standing holds taken (may _ List.mem_cons_self)
    rw [← events] at still
    intro entry member
    rcases List.mem_cons.mp member with rfl | following
    · exact told
    · exact inductionHypothesis stands still
        (fun other belongs => may other (List.mem_cons_of_mem _ belongs)) entry following

end

namespace Session

open Acting

variable {σ : Type} {engines : Nat}

/-- A session whose primary is connected. -/
def connectedOn (settings : Settings) (dialect : Dialect) (number : Nat) : Session :=
  { ofSettings settings dialect with
    primary := {
      name := "primary"
      connection := {
        settings := engineSettings settings settings.dsn
        dialect
        engine? := some number
        isOpen := true } } }

/-- Opening a session creates one engine and connects to it. -/
theorem connect_tells (server : Server σ) (settings : Settings) :
    (Session.connect server settings : Acting σ Unit Session).Tells () engines
      fun outcome _ later added => ∀ session, outcome = .ok session → later = engines + 1 ∧
        added = [.created engines (engineSettings settings settings.dsn), .connected engines] ∧
        ∃ dialect, (Dialect.named settings.dialectSource).Yields dialect ∧
          session = connectedOn settings dialect engines := by
  refine tells_report_bind (fun _ _ wrong => nomatch wrong) fun dialect yields => ?_
  have connecting : (onPrimary (Slot.onConnection (Connection.connect server))).Tells
      (ofSettings settings dialect) engines fun outcome after final added => final = engines + 1 ∧
        added = [.created engines (engineSettings settings settings.dsn), .connected engines] ∧
        (outcome = .ok () → after = connectedOn settings dialect engines) := by
    refine Tells.within (Connection.connect_onSlot_tells server "primary"
      (engineSettings settings settings.dsn) dialect "primary") ?_
    rintro outcome part final added ⟨count, events, known⟩
    refine ⟨count, events, fun ended => ?_⟩
    rw [known ended]
    rfl
  refine connecting.apartBind ?_
  rintro outcome session final added ⟨rfl, rfl, known⟩
  refine tells_settle_bind (fun failure _ _ wrong => nomatch wrong) ?_
  rintro ⟨⟩ rfl
  refine tells_pure ?_
  rintro _ ⟨⟩
  exact ⟨rfl, rfl, dialect, yields, known rfl⟩

/-- The session that was just opened stands on the engine of its primary. -/
theorem connectedOn_standing (settings : Settings) (dialect : Dialect) (number : Nat) :
    (connectedOn settings dialect number).Standing number (number + 1) where
  opened := ⟨rfl, rfl⟩
  known := Nat.lt_succ_self number
  spoken := rfl
  master _ wrong := nomatch wrong

/-- A session that was just opened has its primary connected to a new engine, and no master. -/
theorem connected_eq {server : Server σ} {settings : Settings} {world started : World σ}
    {session : Session}
    (connected : (Session.connect server settings : Acting σ Unit Session) ((), world) =
      (.ok session, (), started)) :
    ∃ dialect, (Dialect.named settings.dialectSource).Yields dialect ∧
      session = connectedOn settings dialect world.engines ∧
      session.Standing world.engines started.engines ∧
      started.events = world.events ++
        [.created world.engines (engineSettings settings settings.dsn),
          .connected world.engines] := by
  obtain ⟨outcome, _, added, later, ran, events, told⟩ := connect_tells server settings world rfl
  rw [connected] at ran
  cases ran
  obtain ⟨count, rfl, dialect, named, rfl⟩ := told session rfl
  exact ⟨dialect, named, rfl, count ▸ connectedOn_standing settings dialect world.engines, events⟩

end Session

end PortableSql
