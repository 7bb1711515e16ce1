import PortableSql.Proofs.Leaving

/-!
# Closing a session

Closing a session asks its connections one thing after the other: a commit wherever a transaction
is open, on the primary first, and then the closing of every connection, the master first. Each of
them is attempted whatever came of those before it, and the first failure is raised at the end.

What is asked is a list that can be read off the session. The run of this list, in which nothing
depends on failures, is the run of closing the session.
-/

namespace PortableSql

/-- What a connection is asked when its session is closed. -/
inductive Ending where
  | commit (connection : Connection)
  | close (connection : Connection)

namespace Ending

variable {σ : Type}

/-- What is done for an ending. -/
def action (server : Server σ) : Ending → Acting σ Connection Unit
  | commit _ => Connection.commit server
  | close _ => Connection.close server

/-- The connection that is asked. -/
def connection : Ending → Connection
  | commit connection | close connection => connection

/-- The events of an ending on an engine: a commit is sent, or the connection is closed and its
engine is given up. -/
def Told (number : Nat) : Ending → List Event → Prop
  | commit connection, events =>
    Served number connection.dialect [connection.dialect.commitTransaction] events
  | close _, events => events = [.closed number, .disposed number]

/-- How an ending ends, and the world after it. -/
def attempt (server : Server σ) (ending : Ending) (world : World σ) :
    Except Failure Unit × World σ :=
  let (outcome, _, later) := ending.action server (ending.connection, world)
  (outcome, later)

end Ending

/-- How endings end that are attempted one after the other, whatever fails, and the world after
them. -/
def attempts {σ : Type} (server : Server σ) :
    List Ending → World σ → List (Except Failure Unit) × World σ
  | [], world => ([], world)
  | ending :: rest, world =>
    let (outcome, later) := ending.attempt server world
    let (outcomes, last) := attempts server rest later
    (outcome :: outcomes, last)

/-- The commit that a slot is asked when its session is closed, if it has something open. -/
def Slot.commits (slot : Slot) : List Ending :=
  if slot.depth = 0 then [] else [.commit slot.connection]

/-- What is asked when the session is closed. -/
def Session.endings (session : Session) : List Ending :=
  (session.slots.filter (·.depth ≠ 0)).map (fun slot => .commit slot.connection) ++
    session.slots.reverse.map fun slot => .close slot.connection

namespace Acting

variable {σ τ α β : Type}

/-- What follows an outcome follows it in the world that the action left. -/
theorem outcome_bind_apply (action : Acting σ τ α) (next : Except Failure α → Acting σ τ β)
    (state : τ × World σ) :
    (outcome action >>= next) state = next (action state).1 (action state).2 := by
  rw [bind_apply]
  rfl

/-- What follows a change follows what it leaves. -/
theorem change_bind_apply (update : τ → τ) (next : Unit → Acting σ τ α) (before : τ)
    (world : World σ) :
    (change update >>= next) (before, world) = next () (update before, world) := by
  rw [bind_apply]
  rfl

end Acting

/-- Committing on an open connection leaves it, whatever the server answers. -/
theorem Connection.On.commit_tells {σ : Type} {connection : Connection} {number engines : Nat}
    (isOn : connection.On number) (server : Server σ) :
    (Connection.commit server).Tells connection engines fun _ after later added =>
      after = connection ∧ later = engines ∧
        Served number connection.dialect [connection.dialect.commitTransaction] added :=
  Acting.tells_this_bind (isOn.run_bare server rfl)

section Attempts

variable {σ : Type} (server : Server σ)

/-- Endings that follow each other are attempted one after the other. -/
theorem attempts_append (endings others : List Ending) (world : World σ) :
    attempts server (endings ++ others) world =
      ((attempts server endings world).1 ++
          (attempts server others (attempts server endings world).2).1,
        (attempts server others (attempts server endings world).2).2) := by
  induction endings generalizing world with
  | nil => rfl
  | cons ending rest inductionHypothesis =>
    simp only [List.cons_append, attempts, inductionHypothesis]

/-- The first failure of two rows of outcomes is that of the first row, if it has one. -/
theorem firstFailure_append (outcomes others : List (Except Failure Unit)) :
    Session.firstFailure (outcomes ++ others) =
      Session.firstFailure [Session.firstFailure outcomes, Session.firstFailure others] := by
  induction outcomes with
  | nil =>
    rw [List.nil_append]
    cases Session.firstFailure others <;> rfl
  | cons outcome rest inductionHypothesis =>
    cases outcome with
    | ok value => exact inductionHypothesis
    | error failure => rfl

/-- There is no first failure exactly where everything ended well. -/
theorem firstFailure_ok {outcomes : List (Except Failure Unit)} :
    Session.firstFailure outcomes = .ok () ↔ ∀ outcome ∈ outcomes, outcome = .ok () := by
  induction outcomes with
  | nil => exact iff_of_true rfl fun _ member => nomatch member
  | cons outcome rest inductionHypothesis =>
    rw [List.forall_mem_cons, ← inductionHypothesis]
    cases outcome with
    | ok value => exact (and_iff_right rfl).symm
    | error failure =>
      constructor
      · intro wrong
        cases wrong
      · rintro ⟨wrong, -⟩
        cases wrong

/-- The first failure comes after outcomes that are all good. -/
theorem firstFailure_error {outcomes : List (Except Failure Unit)} {failure : Failure} :
    Session.firstFailure outcomes = .error failure ↔ ∃ earlier later,
      outcomes = earlier ++ .error failure :: later ∧ ∀ outcome ∈ earlier, outcome = .ok () := by
  induction outcomes with
  | nil =>
    constructor
    · intro wrong
      cases wrong
    · rintro ⟨earlier, later, wrong, -⟩
      cases earlier <;> cases wrong
  | cons outcome rest inductionHypothesis =>
    cases outcome with
    | ok value =>
      refine inductionHypothesis.trans ⟨?_, ?_⟩
      · rintro ⟨earlier, later, rfl, good⟩
        exact ⟨.ok value :: earlier, later, rfl, List.forall_mem_cons.mpr ⟨rfl, good⟩⟩
      · rintro ⟨earlier, later, same, good⟩
        cases earlier with
        | nil => cases same
        | cons first others =>
          obtain ⟨rfl, rfl⟩ := List.cons.inj same
          exact ⟨others, later, rfl, (List.forall_mem_cons.mp good).2⟩
    | error other =>
      constructor
      · rintro ⟨⟩
        exact ⟨[], rest, rfl, fun _ member => nomatch member⟩
      · rintro ⟨earlier, later, same, good⟩
        cases earlier with
        | nil =>
          cases same
          rfl
        | cons first others =>
          obtain ⟨rfl, -⟩ := List.cons.inj same
          cases (List.forall_mem_cons.mp good).1

/-- An ending on an open connection adds its events, however it ends. -/
theorem Ending.attempt_events {ending : Ending} {number : Nat}
    (isOn : ending.connection.On number) (world : World σ) :
    ∃ added, (ending.attempt server world).2.events = world.events ++ added ∧
      ending.Told number added := by
  have told : (ending.action server).Tells ending.connection world.engines
      fun _ _ _ added => ending.Told number added := by
    cases ending with
    | commit connection =>
      exact (isOn.commit_tells server).imp fun _ _ _ _ known => known.2.2
    | close connection =>
      exact (isOn.close_tells server).imp fun _ _ _ _ known => known.2
  obtain ⟨outcome, after, added, later, ran, events, known⟩ := told world rfl
  refine ⟨added, ?_, known⟩
  unfold attempt
  rw [ran]
  exact events

/-- Endings on open connections add their events, one after the other. -/
theorem attempts_events {endings : List Ending}
    (isOn : ∀ ending ∈ endings, ∃ number, ending.connection.On number) (world : World σ) :
    ∃ pieces, List.Forall₂ (fun ending events => ∃ number, ending.connection.On number ∧
        ending.Told number events) endings pieces ∧
      (attempts server endings world).2.events = world.events ++ pieces.flatten := by
  induction endings generalizing world with
  | nil => exact ⟨[], .nil, (List.append_nil _).symm⟩
  | cons ending rest inductionHypothesis =>
    obtain ⟨⟨number, here⟩, others⟩ := List.forall_mem_cons.mp isOn
    obtain ⟨added, events, told⟩ := ending.attempt_events server here world
    obtain ⟨pieces, each, more⟩ := inductionHypothesis others (ending.attempt server world).2
    refine ⟨added :: pieces, .cons ⟨number, here, told⟩ each, ?_⟩
    change (attempts server rest (ending.attempt server world).2).2.events = _
    rw [more, events, List.flatten_cons, List.append_assoc]

end Attempts

/-- An action attempts some endings, fails by their first failure, and leaves what it acts on as it
may be left. -/
def Acting.Attempts {σ τ : Type} (action : Acting σ τ Unit) (server : Server σ) (before : τ)
    (endings : List Ending) (Left : τ → Prop) : Prop :=
  ∀ world, ∃ after, action (before, world) =
    (Session.firstFailure (attempts server endings world).1, after,
      (attempts server endings world).2) ∧ Left after

namespace Slot

variable {σ : Type} {slot : Slot} {number : Nat}

/-- Committing all levels attempts what the slot is asked, and leaves its connection. -/
theorem commitAll_attempts (server : Server σ) (isOn : slot.connection.On number) :
    (commitAll server).Attempts server slot slot.commits
      fun moved => moved.connection = slot.connection := by
  intro world
  unfold commits commitAll
  rw [Acting.this_bind_apply]
  split
  case isTrue flat => exact ⟨slot, rfl, rfl⟩
  case isFalse deep =>
    obtain ⟨outcome, _, added, later, committed, -, rfl, -⟩ := isOn.commit_tells server world rfl
    have attempted : attempts server [.commit slot.connection] world = ([outcome], later) := by
      simp only [attempts, Ending.attempt, Ending.action, Ending.connection, committed]
    have onSlot : onConnection (Connection.commit server) ({ slot with depth := 1 }, world) =
        (outcome, { slot with depth := 1 }, later) := by
      unfold onConnection Acting.within
      dsimp only
      rw [committed]
    rw [Acting.change_bind_apply, attempted]
    change ∃ moved, (onConnection (Connection.commit server) >>= fun _ =>
      Acting.change fun slot => { slot with depth := slot.depth - 1 } : Acting σ Slot Unit)
        ({ slot with depth := 1 }, world) = _ ∧ _
    rw [Acting.bind_apply, onSlot]
    cases outcome with
    | ok value => exact ⟨_, rfl, rfl⟩
    | error failure => exact ⟨_, rfl, rfl⟩

/-- Closing the connection of a slot attempts its closing. -/
theorem close_attempts (server : Server σ) (slot : Slot) :
    (onConnection (Connection.close server)).Attempts server slot [.close slot.connection]
      fun _ => True := by
  intro world
  refine ⟨{ slot with connection := (Connection.close server (slot.connection, world)).2.1 },
    ?_, trivial⟩
  change ((Connection.close server (slot.connection, world)).1, _) =
    (Session.firstFailure [(Connection.close server (slot.connection, world)).1], _)
  cases (Connection.close server (slot.connection, world)).1 <;> rfl

end Slot

namespace Session

variable {σ : Type} {session : Session} {primary engines : Nat}

/-- What an action attempts on the primary. -/
theorem onPrimary_attempts {server : Server σ} (session : Session) {action : Acting σ Slot Unit}
    {endings : List Ending} {Moved : Slot → Prop}
    (acts : action.Attempts server session.primary endings Moved) :
    (onPrimary action).Attempts server session endings fun after =>
      ∃ moved, after = { session with primary := moved } ∧ Moved moved := by
  intro world
  obtain ⟨moved, ran, known⟩ := acts world
  refine ⟨{ session with primary := moved }, ?_, moved, rfl, known⟩
  unfold onPrimary Acting.within
  dsimp only
  rw [ran]

/-- What an action attempts on the master, if it is open. -/
theorem onMaster_attempts {server : Server σ} (session : Session) {action : Acting σ Slot Unit}
    {asked : Slot → List Ending} {Moved : Slot → Slot → Prop}
    (acts : ∀ slot, session.master? = some slot →
      action.Attempts server slot (asked slot) (Moved slot)) :
    (onMaster action).Attempts server session (session.master?.toList.flatMap asked) fun after =>
      ∃ master?, after = { session with master? } ∧
        Option.Rel Moved session.master? master? := by
  intro world
  unfold onMaster
  rw [Acting.this_bind_apply]
  cases opened : session.master? with
  | none =>
    refine ⟨session, rfl, none, ?_, .none⟩
    rw [← opened]
  | some slot =>
    obtain ⟨moved, ran, known⟩ := acts slot opened world
    refine ⟨{ session with master? := some moved }, ?_, some moved, rfl, .some known⟩
    simp only [Option.toList_some, List.flatMap_cons, List.flatMap_nil, List.append_nil]
    unfold onActive Acting.within
    dsimp only
    rw [active_of_master opened, ran, opened]

/-- Closing the connections attempts the closing of each, the master first. -/
theorem closeSlots_attempts (server : Server σ) (session : Session) :
    (closeSlots server).Attempts server session
      (session.slots.reverse.map fun slot => .close slot.connection)
      fun after => after.isClosed = session.isClosed := by
  intro world
  obtain ⟨between, ran, master?, rfl, -⟩ :=
    onMaster_attempts session (fun slot _ => slot.close_attempts server) world
  obtain ⟨after, continued, moved, rfl, -⟩ :=
    onPrimary_attempts { session with master? } (session.primary.close_attempts server) _
  have asked : (session.slots.reverse.map fun slot => Ending.close slot.connection) =
      (session.master?.toList.flatMap fun slot => [.close slot.connection]) ++
        [.close session.primary.connection] := by
    unfold slots
    cases session.master? <;> rfl
  refine ⟨{ session with primary := moved, master? := none }, ?_, rfl⟩
  unfold closeSlots
  rw [Acting.outcome_bind_apply, ran, Acting.outcome_bind_apply, continued, asked,
    attempts_append, firstFailure_append]
  change (Acting.settle _ : Acting σ Session Unit) (_, _) = _
  cases firstFailure [_, _] <;> rfl

/-- What is asked when a session is closed, in the order of the code: the commits slot by slot and
then the closings. -/
theorem endings_eq (session : Session) : session.endings =
    session.primary.commits ++ (session.master?.toList.flatMap Slot.commits ++
      session.slots.reverse.map fun slot => .close slot.connection) := by
  have commits : ∀ slots : List Slot,
      (slots.filter (·.depth ≠ 0)).map (fun slot => Ending.commit slot.connection) =
        slots.flatMap Slot.commits := by
    intro slots
    induction slots with
    | nil => rfl
    | cons slot rest inductionHypothesis =>
      rw [List.flatMap_cons, ← inductionHypothesis, Slot.commits]
      by_cases flat : slot.depth = 0 <;> simp [flat]
  rw [endings, commits, slots, List.flatMap_cons, List.append_assoc]

/-- The first failure of three outcomes does not depend on how they are taken together. -/
theorem firstFailure_nested (first second third : Except Failure Unit) :
    firstFailure [first, firstFailure [second, third]] = firstFailure [first, second, third] := by
  cases first <;> cases second <;> cases third <;> rfl

/-- What is raised at the end is a report about the closing. -/
theorem finish_apply (outcome : Except Failure Unit) (state : Session × World σ) :
    ∃ records, (match outcome with
      | .ok () => pure ()
      | .error failure =>
        if failure.class? = some .execution then throw failure
        else Acting.raise (disconnectFailure failure) : Acting σ Session Unit) state =
      (outcome.mapError disconnectFailure, state.1, { state.2 with records }) := by
  cases outcome with
  | ok done => exact ⟨state.2.records, rfl⟩
  | error failure =>
    by_cases execution : failure.class? = some .execution
    case pos =>
      refine ⟨state.2.records, ?_⟩
      simp only [execution, if_true, disconnectFailure, Except.mapError]
      rfl
    case neg =>
      let raised : Reporting Unit := Reporting.raise (disconnectFailure failure)
      refine ⟨(raised.run.run state.2.records).2, ?_⟩
      simp only [execution, if_false]
      refine (Acting.report_apply raised state.1 state.2).trans ?_
      rw [Reporting.gives_raise (disconnectFailure failure) state.2.records]
      rfl

/-- Closing an open session attempts all its endings, and raises the first failure among them.

Proof: what is done slot by slot is what is attempted ending by ending. Committing leaves the
connections, so those that are closed then are the ones that were open before. -/
theorem disconnect_attempts (server : Server σ) (world : World σ)
    (standing : session.Standing primary engines) (isOpen : session.isClosed = false) :
    ∃ after records, disconnect server (session, world) =
      ((firstFailure (attempts server session.endings world).1).mapError disconnectFailure, after,
        { (attempts server session.endings world).2 with records }) ∧ after.isClosed = true := by
  obtain ⟨first, ranFirst, moved, rfl, same⟩ :=
    onPrimary_attempts { session with isClosed := true }
      (Slot.commitAll_attempts server standing.opened) world
  have masters : ∀ slot, session.master? = some slot →
      (Slot.commitAll server).Attempts server slot slot.commits
        fun moved => moved.connection = slot.connection := by
    intro slot opened
    obtain ⟨number, isOn, -⟩ := standing.master slot opened
    exact Slot.commitAll_attempts server isOn
  obtain ⟨second, ranSecond, master?, rfl, sameMaster⟩ :=
    onMaster_attempts { session with isClosed := true, primary := moved } masters
      (attempts server session.primary.commits world).2
  obtain ⟨third, ranThird, closed⟩ := closeSlots_attempts server
    { session with isClosed := true, primary := moved, master? }
    (attempts server (session.master?.toList.flatMap Slot.commits)
      (attempts server session.primary.commits world).2).2
  have closings : ({ session with isClosed := true, primary := moved, master? } :
      Session).slots.reverse.map (fun slot => Ending.close slot.connection) =
        session.slots.reverse.map fun slot => Ending.close slot.connection := by
    unfold slots
    generalize session.master? = before? at sameMaster ⊢
    cases sameMaster with
    | none => simp [same]
    | some kept => simp [same, kept]
  rw [closings] at ranThird
  obtain ⟨records, ended⟩ := finish_apply (σ := σ) _ (third, _)
  refine ⟨third, records, ?_, closed⟩
  unfold disconnect
  rw [Acting.this_bind_apply, isOpen, if_neg Bool.false_ne_true]
  rw [Acting.change_bind_apply, Acting.outcome_bind_apply, ranFirst, Acting.outcome_bind_apply,
    ranSecond, Acting.outcome_bind_apply, ranThird, endings_eq]
  rw [attempts_append, firstFailure_append, attempts_append, firstFailure_append,
    firstFailure_nested]
  exact ended

end Session

/-! ## Closed for good -/

namespace Acting

variable {σ τ υ α β : Type} {Holds : τ → Prop}

/-- An action leaves a property of what it acts on, however it ends. -/
def Keeps (Holds : τ → Prop) (action : Acting σ τ α) : Prop :=
  ∀ state : τ × World σ, Holds state.1 → Holds (action state).2.1

theorem keeps_pure (value : α) : (pure value : Acting σ τ α).Keeps Holds := fun _ holds => holds

theorem keeps_throw (failure : Failure) : (throw failure : Acting σ τ α).Keeps Holds :=
  fun _ holds => holds

theorem keeps_this : (this : Acting σ τ τ).Keeps Holds := fun _ holds => holds

theorem keeps_change {update : τ → τ} (keeps : ∀ before, Holds before → Holds (update before)) :
    (change update : Acting σ τ Unit).Keeps Holds := fun state holds => keeps state.1 holds

theorem keeps_report (computation : Reporting α) :
    (report computation : Acting σ τ α).Keeps Holds := by
  intro state holds
  rw [report_apply computation state.1 state.2]
  exact holds

theorem keeps_settle (ending : Except Failure α) : (settle ending : Acting σ τ α).Keeps Holds := by
  cases ending with
  | ok value => exact keeps_pure value
  | error failure => exact keeps_throw failure

theorem Keeps.bind {action : Acting σ τ α} {next : α → Acting σ τ β} (first : action.Keeps Holds)
    (second : ∀ value, (next value).Keeps Holds) : (action >>= next).Keeps Holds := by
  intro state holds
  have kept := first state holds
  rw [bind_apply]
  generalize action state = ended at kept ⊢
  obtain ⟨outcome, later⟩ := ended
  cases outcome with
  | ok value => exact second value later kept
  | error failure => exact kept

theorem Keeps.outcome {action : Acting σ τ α} (keeps : action.Keeps Holds) :
    (Acting.outcome action).Keeps Holds := keeps

theorem keeps_apart (other : υ) (action : Acting σ υ α) :
    (Acting.apart other action : Acting σ τ _).Keeps Holds := fun _ holds => holds

/-- An action on a part keeps what putting back the part keeps. -/
theorem keeps_within {read : τ → υ} {write : υ → τ → τ} {action : Acting σ υ α}
    (keeps : ∀ part before, Holds before → Holds (write part before)) :
    (Acting.within read write action).Keeps Holds := fun _ holds => keeps _ _ holds

theorem Keeps.traced {name : String} {attributes : List (String × Value)} {action : Acting σ τ α}
    (keeps : action.Keeps Holds) : (Acting.traced name attributes action).Keeps Holds := by
  intro state holds
  obtain ⟨spans, same⟩ := traced_apply name attributes action state
  rw [same]
  exact keeps state holds

end Acting

namespace Session

open Acting

variable {σ α : Type}

/-- Closing a session is never undone by an action. -/
abbrev StaysClosed (action : Acting σ Session α) : Prop :=
  action.Keeps fun session => session.isClosed = true

section

variable (server : Server σ)

theorem onPrimary_staysClosed (action : Acting σ Slot α) : StaysClosed (onPrimary action) :=
  keeps_within fun _ _ closed => closed

theorem onActive_staysClosed (action : Acting σ Slot α) : StaysClosed (onActive action) := by
  refine keeps_within fun slot session closed => ?_
  cases session.master? <;> exact closed

theorem onMaster_staysClosed (action : Acting σ Slot Unit) : StaysClosed (onMaster action) := by
  refine keeps_this.bind fun session => ?_
  cases session.master? with
  | some slot => exact onActive_staysClosed action
  | none => exact keeps_pure ()

theorem onAll_staysClosed (action : Acting σ Slot Unit) : StaysClosed (onAll action) :=
  (onPrimary_staysClosed action).bind fun _ => onMaster_staysClosed action

theorem rollback_staysClosed : StaysClosed (rollback server) :=
  (onPrimary_staysClosed _).outcome.bind fun _ =>
    (onMaster_staysClosed _).outcome.bind fun _ => keeps_settle _

theorem useMaster_staysClosed : StaysClosed (useMaster server) := by
  refine keeps_this.bind fun session => ?_
  split
  · exact (keeps_apart _ _).bind fun _ => (keeps_settle _).bind fun _ =>
      keeps_change fun _ closed => closed
  · exact keeps_pure ()

theorem compileLive_staysClosed (command : Command) : StaysClosed (compileLive server command) := by
  refine keeps_this.bind fun session => (keeps_report _).bind fun compiled => ?_
  cases compiled with
  | done plan => exact keeps_pure plan
  | reading statement resume => exact (onActive_staysClosed _).bind fun rows => keeps_report _

theorem runPlan_staysClosed (plan : Plan) : StaysClosed (runPlan server plan) := by
  refine keeps_this.bind fun session => (onActive_staysClosed _).bind fun progress =>
    Keeps.bind (keeps_change fun _ closed => closed) fun _ => ?_
  split
  · split
    · exact keeps_throw _
    · exact keeps_report _
  · exact (keeps_apart _ _).bind fun _ => (keeps_settle _).bind fun _ => keeps_pure _

theorem perform_staysClosed (command : Command) : StaysClosed (perform server command) := by
  have routes : StaysClosed (route server command) := by
    unfold route
    split
    · exact useMaster_staysClosed server
    · exact keeps_pure ()
  exact routes.bind fun _ => (compileLive_staysClosed server command).bind fun plan =>
    (runPlan_staysClosed server plan).bind fun cursor =>
      Keeps.bind (keeps_change fun _ closed => closed) fun _ => keeps_pure cursor

theorem insertId_staysClosed : StaysClosed (insertId server) := by
  refine keeps_this.bind fun session => ?_
  split
  · exact keeps_report _
  · exact (keeps_report _).bind fun statement => (onActive_staysClosed _).bind fun rows =>
      keeps_pure _

/-- No operation opens a closed session again. -/
theorem act_staysClosed (operation : Operation) : StaysClosed (operation.act server) := by
  cases operation with
  | execute tag payload args =>
    exact (keeps_this.bind fun _ => ((keeps_report _).bind fun command =>
      perform_staysClosed server command).traced).bind fun _ => keeps_pure ()
  | executeCommand command args =>
    exact (keeps_this.bind fun _ => (perform_staysClosed server _).traced).bind
      fun _ => keeps_pure ()
  | insertId => exact (insertId_staysClosed server).bind fun _ => keeps_pure ()
  | useMaster => exact useMaster_staysClosed server
  | control control => cases control with
    | begin => exact onAll_staysClosed _
    | commit => exact onAll_staysClosed _
    | rollback => exact rollback_staysClosed server
  | setLargeResults enabled => exact fun _ closed => closed

/-- A closed session has nothing left to close. -/
theorem disconnect_closed {session : Session} (closed : session.isClosed = true)
    (world : World σ) : disconnect server (session, world) = (.ok (), session, world) := by
  unfold disconnect
  rw [this_bind_apply, if_pos closed]
  rfl

theorem disconnect_staysClosed : StaysClosed (disconnect server) := by
  rintro ⟨session, world⟩ closed
  rw [disconnect_closed server closed world]
  exact closed

theorem leave_staysClosed (byError : Bool) : StaysClosed (leave server byError) := by
  refine keeps_this.bind fun session => ?_
  dsimp only
  split
  · refine (rollback_staysClosed server).outcome.bind fun outcome => ?_
    cases outcome with
    | ok done => exact disconnect_staysClosed server
    | error failure =>
      dsimp only
      split
      · exact (keeps_report _).bind fun _ => disconnect_staysClosed server
      · exact (keeps_throw _).bind fun _ => disconnect_staysClosed server
  · exact disconnect_staysClosed server

end

/-- What may become of a session, with its world, by being used, left and closed. -/
inductive Later (server : Server σ) (before : Session × World σ) : Session × World σ → Prop
  | now : Later server before before
  | acted {state : Session × World σ} (later : Later server before state)
      (operation : Operation) : Later server before (operation.act server state).2
  | left {state : Session × World σ} (later : Later server before state) (byError : Bool) :
      Later server before (leave server byError state).2
  | disconnected {state : Session × World σ} (later : Later server before state) :
      Later server before (disconnect server state).2

/-- Whatever is done with a closed session, it stays closed. -/
theorem Later.isClosed {server : Server σ} {before state : Session × World σ}
    (later : Later server before state) (closed : before.1.isClosed = true) :
    state.1.isClosed = true := by
  induction later with
  | now => exact closed
  | acted later operation inductionHypothesis =>
    exact act_staysClosed server operation _ inductionHypothesis
  | left later byError inductionHypothesis =>
    exact leave_staysClosed server byError _ inductionHypothesis
  | disconnected later inductionHypothesis =>
    exact disconnect_staysClosed server _ inductionHypothesis

/-- Every ending of an open session is asked of an open connection. -/
theorem Standing.endings {session : Session} {primary engines : Nat}
    (standing : session.Standing primary engines) :
    ∀ ending ∈ session.endings, ∃ number, ending.connection.On number := by
  have slots : ∀ slot ∈ session.slots, ∃ number, slot.connection.On number := by
    intro slot member
    rcases List.mem_cons.mp member with rfl | member
    · exact ⟨primary, standing.opened⟩
    · obtain ⟨number, isOn, -⟩ := standing.master slot (Option.mem_toList.mp member)
      exact ⟨number, isOn⟩
  intro ending member
  rcases List.mem_append.mp member with commits | closes
  · obtain ⟨slot, belongs, rfl⟩ := List.mem_map.mp commits
    exact slots slot (List.mem_of_mem_filter belongs)
  · obtain ⟨slot, belongs, rfl⟩ := List.mem_map.mp closes
    exact slots slot (List.mem_reverse.mp belongs)

/-- All that closing an open session does. -/
structure Releases (server : Server σ) (session : Session) (world : World σ)
    (outcome : Except Failure Unit) (after : Session) (later : World σ) : Prop where
  /-- Every ending is attempted once, one after the other, and nothing else is asked. -/
  attempted : ∃ records, later = { (attempts server session.endings world).2 with records }
  /-- An attempted commit is sent, and an attempted closing closes the connection and gives up its
  engine. -/
  told : ∃ pieces, List.Forall₂ (fun ending events => ∃ number, ending.connection.On number ∧
      ending.Told number events) session.endings pieces ∧
    later.events = world.events ++ pieces.flatten
  /-- Nothing is raised exactly when nothing failed. -/
  quiet : outcome = .ok () ↔
    ∀ each ∈ (attempts server session.endings world).1, each = .ok ()
  /-- The first failure is raised as it is when it is about an execution, and as the cause of a
  report about the closing otherwise. -/
  raised : ∀ earlier failure rest,
    (attempts server session.endings world).1 = earlier ++ .error failure :: rest →
    (∀ each ∈ earlier, each = .ok ()) → outcome = .error (disconnectFailure failure)
  closed : after.isClosed = true
  /-- Closing the session again does nothing, whatever is done with it in between. -/
  silent : ∀ state, Later server (after, later) state → disconnect server state = (.ok (), state)

/-- Closing a session attempts a commit on every connection that has a transaction open, the
primary first, and then closes every connection, the master first, whatever fails on the way; the
first failure is raised, and closing the session again does nothing.

Proof: what is done slot by slot is what is attempted ending by ending, and the first failure of
the parts is the first failure of the whole. No operation opens a closed session again. -/
theorem disconnect_releases {server : Server σ} {begins : List (Except Failure Unit)}
    {session : Session} {world : World σ} (reached : Reached server begins session world) :
    ∃ outcome after later, disconnect server (session, world) = (outcome, after, later) ∧
      Releases server session world outcome after later := by
  obtain ⟨primary, usable⟩ := reached.usable
  obtain ⟨after, records, ran, closed⟩ :=
    disconnect_attempts server world usable.standing usable.isOpen
  obtain ⟨pieces, told, events⟩ := attempts_events server usable.standing.endings world
  refine ⟨_, after, _, ran, ⟨records, rfl⟩, ⟨pieces, told, events⟩, ?_, ?_, closed, ?_⟩
  · rw [← firstFailure_ok]
    cases firstFailure (attempts server session.endings world).1 with
    | ok done => exact iff_of_true rfl rfl
    | error failure => exact iff_of_false (nomatch ·) (nomatch ·)
  · intro earlier failure rest failed good
    rw [firstFailure_error.mpr ⟨earlier, rest, failed, good⟩]
    rfl
  · intro state later
    exact disconnect_closed server (later.isClosed closed) state.2

/-- A server that refuses to commit; its second connection cannot be closed either. -/
def stubborn : Server Unit :=
  { Server.silent with
    execute := fun _ request memory =>
      (if request.sql = "COMMIT" then .error (.fault .database "locked") else .ok {}, memory)
    close := fun engine memory =>
      (if engine = 0 then .ok () else .error (.fault .runtime "lost"), memory) }

/-- Two commits and a closing fail; the first failure is raised. -/
theorem stubborn_releases : ∃ begins session world, Reached stubborn begins session world ∧
    session.endings.length = 4 ∧
    ((attempts stubborn session.endings world).1.map Except.toBool) = [false, false, false, true] ∧
    ∃ outcome after later, disconnect stubborn (session, world) = (outcome, after, later) ∧
      Releases stubborn session world outcome after later ∧
      outcome = .error (.queryExecution "COMMIT" (.fault .database "locked")) := by
  have connected : (Session.connect stubborn twoServers : Acting Unit Unit Session)
      ((), { memory := () }) =
        (.ok (connectedOn twoServers Family.mysql.dialect 0), (), begunWorld) := rfl
  have begun := ((Reached.opened twoServers connected).acted .useMaster rfl).acted
    (.control .begin) rfl
  obtain ⟨outcome, after, later, ran, releases⟩ := disconnect_releases begun
  refine ⟨_, _, _, begun, rfl, rfl, outcome, after, later, ran, releases, ?_⟩
  exact releases.raised [] _ _ rfl (fun _ member => nomatch member)

end Session

end PortableSql
