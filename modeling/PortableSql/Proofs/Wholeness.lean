import PortableSql.Proofs.Accounting
import PortableSql.Proofs.Leaving

/-!
# The master is opened whole

Opening the master takes settings that are made for it, a connection, the statements that tell it
what the session remembers, and a transaction if the primary has one. It ends well exactly when none
of these fails. When one does, the session is the one that it was, only the new engine has seen
anything, and a connection that was opened has been closed once. So opening the master may be tried
again, with the same replay.
-/

namespace PortableSql

open Acting

/-- What makes the settings of the master's connection when it is opened; it may fail. -/
abbrev Factory (σ : Type) := σ → Except Failure EngineSettings × σ

/-- Settings that are known before. -/
def Factory.ready {σ : Type} (settings : EngineSettings) : Factory σ :=
  fun memory => (.ok settings, memory)

/-- What is about two engines only closes a result. -/
theorem Event.Concerns.eq_resultClosed {event : Event} {number engine : Nat}
    (concerns : event.Concerns number) (other : engine ≠ number)
    (also : event.Concerns engine) : event = .resultClosed := by
  cases event with
  | resultClosed => rfl
  | created _ _ | connected _ | executed _ _ | closed _ | disposed _ =>
    exact absurd (also.symm.trans concerns) other

namespace Acting

variable {σ τ α β : Type}

/-- A sequence ends well when both of its steps do. -/
theorem bind_eq_ok {action : Acting σ τ α} {next : α → Acting σ τ β} {state later : τ × World σ}
    {value : β} : (action >>= next) state = (.ok value, later) ↔ ∃ first between,
      action state = (.ok first, between) ∧ next first between = (.ok value, later) := by
  refine ⟨bind_ok, ?_⟩
  rintro ⟨first, between, begun, ended⟩
  rw [bind_apply, begun]
  exact ended

end Acting

/-- Acting on the connection of a slot ends well when it does there, and leaves the rest. -/
theorem Slot.onConnection_eq_ok {σ α : Type} {action : Acting σ Connection α} {slot after : Slot}
    {world later : World σ} {value : α} :
    Slot.onConnection action (slot, world) = (.ok value, after, later) ↔ ∃ connection,
      action (slot.connection, world) = (.ok value, connection, later) ∧
        after = { slot with connection } := by
  rw [Slot.onConnection, Acting.within]
  rcases action (slot.connection, world) with ⟨outcome, connection, between⟩
  constructor
  · rintro ⟨⟩
    exact ⟨connection, rfl, rfl⟩
  · rintro ⟨_, ⟨⟩, rfl⟩
    rfl

namespace Session

variable {σ : Type} {server : Server σ} {session : Session} {world : World σ}

/-- Opens the master, if it is not open, with settings that are made for it. -/
def useMasterFrom (server : Server σ) (factory : Factory σ) : Acting σ Session Unit := do
  let session ← Acting.this
  match session.master? with
  | some _ => pure ()
  | none => do
    let settings ← Acting.settle (← Acting.call factory)
    let (outcome, slot) ← Acting.apart (newMaster session.dialect settings)
      (openSlot server session.dialect session.state session.primary.depth)
    Acting.settle outcome
    Acting.change fun session => { session with master? := some slot }

/-- A session has the settings of its master ready. -/
theorem useMaster_eq {settings : EngineSettings} (server : Server σ)
    (configured : session.masterSettings? = some settings) (world : World σ) :
    useMaster server (session, world) =
      useMasterFrom server (Factory.ready settings) (session, world) := by
  rw [useMaster, useMasterFrom, this_bind_apply, this_bind_apply, configured]
  cases session.master? <;> rfl

/-! ## Nothing fails -/

/-- A statement is run exactly when it is executed and its result closed. -/
theorem run_eq_ok {statement : Statement} {before after : Connection × World σ} :
    Connection.run server statement before = (.ok (), after) ↔
      Ran server [statement] before after := by
  constructor
  · intro ran
    obtain ⟨result, answered, executed, closes⟩ := bind_ok ran
    exact .cons executed closes .nil
  · intro ran
    cases ran with
    | cons executed closes following =>
      cases following
      exact bind_eq_ok.mpr ⟨_, _, executed, closes⟩

/-- Statements are run one after the other. -/
theorem runAll_eq_ok {statements : List Statement} {before after : Connection × World σ} :
    statements.forM (Connection.run server) before = (.ok (), after) ↔
      Ran server statements before after := by
  induction statements generalizing before with
  | nil =>
    constructor
    · rintro ⟨⟩
      exact .nil
    · rintro ⟨⟩
      rfl
  | cons statement rest inductionHypothesis =>
    change (Connection.run server statement >>= fun _ => rest.forM (Connection.run server)) before =
      _ ↔ _
    rw [bind_eq_ok]
    constructor
    · rintro ⟨⟨⟩, between, ran, following⟩
      obtain ⟨result, answered, executed, closes⟩ := bind_ok ran
      exact .cons executed closes (inductionHypothesis.mp following)
    · intro ran
      cases ran with
      | cons executed closes following =>
        exact ⟨(), _, bind_eq_ok.mpr ⟨_, _, executed, closes⟩, inductionHypothesis.mpr following⟩

/-- A connection was told some commands: each compiled, and its statements ran. -/
inductive Told (server : Server σ) (dialect : Dialect) :
    List Command → Connection × World σ → Connection × World σ → Prop
  | nil {state : Connection × World σ} : Told server dialect [] state state
  | cons {command : Command} {rest : List Command} {plan : Plan}
      {before compiled sent after : Connection × World σ}
      (compiles : (Acting.report (compilePlan dialect command) : Acting σ Connection Plan) before =
        (.ok plan, compiled))
      (ran : Ran server plan.statements compiled sent)
      (following : Told server dialect rest sent after) :
      Told server dialect (command :: rest) before after

/-- A command is replayed exactly when it compiles and its statements run. -/
theorem replay_eq_ok {dialect : Dialect} {command : Command} {before after : Connection × World σ} :
    replay server dialect command before = (.ok (), after) ↔ ∃ plan compiled,
      (Acting.report (compilePlan dialect command) : Acting σ Connection Plan) before =
        (.ok plan, compiled) ∧ Ran server plan.statements compiled after := by
  rw [replay, bind_eq_ok]
  simp only [runAll_eq_ok]

theorem replayAll_eq_ok {dialect : Dialect} {commands : List Command} {slot after : Slot}
    {world later : World σ} :
    (commands.forM fun command => Slot.onConnection (replay server dialect command))
        (slot, world) = (.ok (), after, later) ↔
      ∃ connection, Told server dialect commands (slot.connection, world) (connection, later) ∧
        after = { slot with connection } := by
  induction commands generalizing slot world with
  | nil =>
    constructor
    · rintro ⟨⟩
      exact ⟨after.connection, .nil, rfl⟩
    · rintro ⟨connection, ⟨⟩, rfl⟩
      rfl
  | cons command rest inductionHypothesis =>
    change (Slot.onConnection (replay server dialect command) >>= fun _ =>
      rest.forM fun command => Slot.onConnection (replay server dialect command)) (slot, world) =
        _ ↔ _
    rw [bind_eq_ok]
    constructor
    · rintro ⟨⟨⟩, ⟨between, middle⟩, replayed, following⟩
      obtain ⟨connection, first, rfl⟩ := Slot.onConnection_eq_ok.mp replayed
      obtain ⟨plan, compiled, compiles, ran⟩ := replay_eq_ok.mp first
      obtain ⟨last, told, rfl⟩ := inductionHypothesis.mp following
      exact ⟨last, .cons compiles ran told, rfl⟩
    · rintro ⟨last, told, rfl⟩
      cases told with
      | @cons _ _ _ _ _ sent _ compiles ran following =>
        have first := replay_eq_ok.mpr ⟨_, _, compiles, ran⟩
        exact ⟨(), ({ slot with connection := sent.1 }, sent.2),
          Slot.onConnection_eq_ok.mpr ⟨_, first, rfl⟩,
          inductionHypothesis.mpr ⟨last, following, rfl⟩⟩

/-- Replaying commands leaves an open connection. -/
theorem Told.kept {dialect : Dialect} {commands : List Command} {number : Nat}
    {before after : Connection × World σ} (told : Told server dialect commands before after)
    (isOn : before.1.On number) : after.1 = before.1 := by
  let slot : Slot := { name := "master", connection := before.1 }
  have onSlot : slot.connection.On number := isOn
  have onTold : Told server dialect commands (slot.connection, before.2) (after.1, after.2) := told
  have replayed := replayAll_eq_ok.mpr ⟨after.1, onTold, rfl⟩
  obtain ⟨_, _, _, _, ran, -, same, -⟩ := replayAll_tells onSlot server commands before.2 rfl
  cases replayed.symm.trans ran
  exact congrArg Slot.connection same

/-- The first level of a slot begins a transaction. -/
theorem begin_eq_ok {slot : Slot} (flat : slot.depth = 0) :
    (∃ after, Slot.begin server (slot, world) = (.ok (), after)) ↔ ∃ after,
      Ran server [slot.connection.dialect.beginTransaction] (slot.connection, world) after := by
  have begins : Connection.begin server (slot.connection, world) =
      Connection.run server slot.connection.dialect.beginTransaction (slot.connection, world) := by
    rw [Connection.begin, this_bind_apply]
  simp only [Slot.begin, this_bind_apply, if_pos flat, bind_eq_ok]
  constructor
  · rintro ⟨_, ⟨⟩, between, begun, -⟩
    obtain ⟨connection, ran, -⟩ := Slot.onConnection_eq_ok.mp begun
    rw [begins] at ran
    exact ⟨_, run_eq_ok.mp ran⟩
  · rintro ⟨⟨connection, later⟩, ran⟩
    have begun := run_eq_ok.mpr ran
    rw [← begins] at begun
    exact ⟨_, (), ({ slot with connection }, later),
      Slot.onConnection_eq_ok.mpr ⟨connection, begun, rfl⟩, rfl⟩

/-- A new slot is prepared well exactly when it is told what a session remembers and then, if there
is a transaction, to begin one. -/
theorem prepareSlot_eq_ok {slot : Slot} {number depth : Nat} {state : SessionState}
    (isOn : slot.connection.On number) (flat : slot.depth = 0) :
    (∃ after, prepareSlot server slot.connection.dialect state depth (slot, world) =
        (.ok (), after)) ↔ ∃ told after,
      Told server slot.connection.dialect (replayed state) (slot.connection, world) told ∧
        Ran server (mirrored slot.connection.dialect depth) told after := by
  -- Being told leaves the connection, so the beginning speaks its dialect.
  have following : ∀ {later : World σ} {connection : Connection},
      Told server slot.connection.dialect (replayed state) (slot.connection, world)
        (connection, later) →
      ((∃ after, (if depth ≠ 0 then Slot.begin server >>= fun _ =>
          Acting.change fun slot => { slot with depth } else pure () : Acting σ Slot Unit)
            ({ slot with connection }, later) = (.ok (), after)) ↔
        ∃ after,
          Ran server (mirrored slot.connection.dialect depth) (connection, later) after) := by
    intro later connection told
    obtain rfl : connection = slot.connection := told.kept isOn
    by_cases none : depth = 0
    case pos =>
      rw [mirrored, if_pos none, if_neg (not_not_intro none)]
      exact ⟨fun _ => ⟨_, .nil⟩, fun _ => ⟨_, rfl⟩⟩
    case neg =>
      rw [mirrored, if_neg none, if_pos none, ← begin_eq_ok flat]
      simp only [bind_eq_ok]
      constructor
      · rintro ⟨_, ⟨⟩, between, begun, -⟩
        exact ⟨between, begun⟩
      · rintro ⟨between, begun⟩
        exact ⟨_, (), between, begun, rfl⟩
  simp only [prepareSlot, bind_eq_ok]
  constructor
  · rintro ⟨after, ⟨⟩, ⟨middle, later⟩, replayed, ended⟩
    obtain ⟨connection, told, rfl⟩ := replayAll_eq_ok.mp replayed
    obtain ⟨last, ran⟩ := (following told).mp ⟨after, ended⟩
    exact ⟨_, last, told, ran⟩
  · rintro ⟨⟨connection, later⟩, last, told, ran⟩
    obtain ⟨after, ended⟩ := (following told).mpr ⟨last, ran⟩
    exact ⟨after, (), _, replayAll_eq_ok.mpr ⟨connection, told, rfl⟩, ended⟩

/-! ## Opening a connection to the master -/

/-- The connection of a new master is opened. -/
abbrev connectMaster (server : Server σ) (session : Session) (settings : EngineSettings)
    (world : World σ) : Except Failure Unit × Connection × World σ :=
  Connection.connect server ((newMaster session.dialect settings).connection, world)

/-- Nothing fails on the connection to the master: it is opened, and what the session remembers
compiles and runs there, and the beginning of a transaction if the primary has one. -/
inductive Carries (server : Server σ) (session : Session) (settings : EngineSettings)
    (world : World σ) : Prop
  | intro {connected told after : Connection × World σ}
      (connects : connectMaster server session settings world = (.ok (), connected))
      (tells : Told server session.dialect (replayed session.state) connected told)
      (begins : Ran server (mirrored session.dialect session.primary.depth) told after) :
      Carries server session settings world

/-- What happens when something fails on the connection to the master. -/
inductive Abandons (server : Server σ) (session : Session) (settings : EngineSettings)
    (world : World σ) : List Event → Prop
  | unreached (failed : (connectMaster server session settings world).1 ≠ .ok ()) :
      Abandons server session settings world
        [.created world.engines settings, .connected world.engines]
  /-- The connection was opened, and is closed once behind what was sent. -/
  | untold {sent : List Event}
      (connects : (connectMaster server session settings world).1 = .ok ())
      (serves : ∀ event ∈ sent, event.Serves world.engines) :
      Abandons server session settings world
        (.created world.engines settings :: .connected world.engines ::
          (sent ++ [.closed world.engines, .disposed world.engines]))

/-- What opening a new slot does behind its connection: what cannot be prepared is closed. -/
theorem openSlot_apply {slot fresh : Slot} {dialect : Dialect} {state : SessionState} {depth : Nat}
    {later : World σ} (connected : Slot.onConnection (Connection.connect server) (slot, world) =
      (.ok (), fresh, later)) :
    openSlot server dialect state depth (slot, world) =
      match prepareSlot server dialect state depth (fresh, later) with
        | (.ok (), after) => (.ok (), after)
        | (.error failure, after) =>
          (Slot.onConnection (Connection.close server) >>= fun _ => throw failure) after := by
  rw [openSlot, bind_apply, connected]
  dsimp only
  rw [bind_apply, Acting.outcome]
  rcases prepareSlot server dialect state depth (fresh, later) with ⟨_ | _, after⟩ <;> rfl

/-- Where the connection is opened nothing fails exactly when its slot is prepared well. -/
theorem carries_iff {settings : EngineSettings} {slot : Slot} {number : Nat} {later : World σ}
    (isOn : slot.connection.On number) (flat : slot.depth = 0)
    (spoken : slot.connection.dialect = session.dialect)
    (connects : connectMaster server session settings world = (.ok (), slot.connection, later)) :
    Carries server session settings world ↔ ∃ after, prepareSlot server session.dialect
      session.state session.primary.depth (slot, later) = (.ok (), after) := by
  rw [← spoken, prepareSlot_eq_ok isOn flat, spoken]
  constructor
  · rintro ⟨again, tells, begins⟩
    cases connects.symm.trans again
    exact ⟨_, _, tells, begins⟩
  · rintro ⟨told, after, tells, begins⟩
    exact ⟨connects, tells, begins⟩

/-- A slot is closed behind a failure, whatever comes of closing it. -/
theorem closeBehind_tells {slot : Slot} {number engines : Nat} (isOn : slot.connection.On number)
    (server : Server σ) (failure : Failure) :
    (Slot.onConnection (Connection.close server) >>= fun _ => throw failure :
      Acting σ Slot Unit).Tells slot engines fun outcome _ _ added =>
        outcome ≠ .ok () ∧ added = [.closed number, .disposed number] := by
  refine (Slot.close_tells isOn server).bind ?_ ?_
  · rintro other after later added ⟨-, rfl⟩
    exact ⟨fun wrong => (nomatch wrong), rfl⟩
  · rintro ⟨⟩ after later added ⟨-, rfl⟩
    refine tells_throw ⟨fun wrong => (nomatch wrong), ?_⟩
    rw [List.append_nil]

/-- A new slot is opened well exactly when nothing fails on its connection. -/
theorem openSlot_ends (server : Server σ) (session : Session) (settings : EngineSettings)
    (world : World σ) : ∃ outcome after added later,
      openSlot server session.dialect session.state session.primary.depth
          (newMaster session.dialect settings, world) = (outcome, after, later) ∧
        later.events = world.events ++ added ∧
        (outcome = .ok () ↔ Carries server session settings world) ∧
        (∀ failure, outcome = .error failure → Abandons server session settings world added) := by
  obtain ⟨outcome, fresh, added, later, connecting, events, count, rfl, known⟩ :=
    Connection.connect_onSlot_tells server "master" settings session.dialect "master" world rfl
  change Slot.onConnection _ (newMaster session.dialect settings, world) = _ at connecting
  let opening : List Event := [.created world.engines settings, .connected world.engines]
  have reached : (connectMaster server session settings world).1 = outcome :=
    congrArg Prod.fst connecting
  cases outcome with
  | error failure =>
    have unreached : (connectMaster server session settings world).1 ≠ .ok () := fun wrong =>
      nomatch reached.symm.trans wrong
    refine ⟨.error failure, fresh, _, later, ?_, events, ⟨fun wrong => (nomatch wrong), ?_⟩,
      fun _ _ => .unreached unreached⟩
    · rw [openSlot, bind_apply, connecting]
    · rintro ⟨connects, -, -⟩
      exact absurd (congrArg Prod.fst connects) unreached
  | ok done =>
    let slot : Slot := { session.openedMaster settings world.engines with depth := 0 }
    have isOn : slot.connection.On world.engines := ⟨rfl, rfl⟩
    have opened : fresh = slot := known rfl
    rw [opened] at connecting
    obtain ⟨connection, connects, same⟩ := Slot.onConnection_eq_ok.mp connecting
    obtain rfl : slot.connection = connection := congrArg Slot.connection same
    have carries := carries_iff isOn rfl rfl connects
    obtain ⟨ending, last, others, final, preparing, more, kept, -, serves, -⟩ :=
      prepareSlot_tells isOn rfl server session.state session.primary.depth later rfl
    rw [openSlot_apply connecting, preparing]
    rw [preparing] at carries
    cases ending with
    | ok done =>
      refine ⟨.ok (), last, opening ++ others, final, rfl, ?_,
        ⟨fun _ => carries.mpr ⟨_, rfl⟩, fun _ => rfl⟩, fun _ wrong => nomatch wrong⟩
      rw [more, events, List.append_assoc]
    | error failure =>
      have never : ¬Carries server session settings world := by
        intro carried
        obtain ⟨_, wrong⟩ := carries.mp carried
        cases wrong
      have on : last.connection.On world.engines := kept ▸ isOn
      obtain ⟨outcome, after, _, ended, ran, closed, failed, rfl⟩ :=
        closeBehind_tells on server failure final rfl
      refine ⟨outcome, after,
        opening ++ (others ++ [.closed world.engines, .disposed world.engines]), ended, ran, ?_,
        ⟨fun wrong => absurd wrong failed, fun carried => absurd carried never⟩,
        fun _ _ => .untold reached serves⟩
      rw [closed, more, events, List.append_assoc, List.append_assoc]

/-! ## Opening the master -/

/-- Nothing fails when the master is opened: its settings are made, and its connection is opened and
told everything. -/
inductive Smooth (server : Server σ) (factory : Factory σ) (session : Session) (world : World σ) :
    Prop
  | intro {settings : EngineSettings} {memory : σ}
      (made : factory world.memory = (.ok settings, memory))
      (carries : Carries server session settings { world with memory }) :
      Smooth server factory session world

/-- What happens when something fails while the master is opened. -/
inductive Refused (server : Server σ) (factory : Factory σ) (session : Session)
    (world : World σ) : List Event → Prop
  | unmade {failure : Failure} (failed : (factory world.memory).1 = .error failure) :
      Refused server factory session world []
  | abandoned {settings : EngineSettings} {memory : σ} {added : List Event}
      (made : factory world.memory = (.ok settings, memory))
      (abandons : Abandons server session settings { world with memory } added) :
      Refused server factory session world added

/-- The master was opened on a new engine: it was told all that the session remembers, and of a
transaction if the primary has one. -/
def Replayed (before : Session) (engines : Nat) (after : Session) (added : List Event) : Prop :=
  ∃ settings statements events,
    after = { before with master? := some (before.openedMaster settings engines) } ∧
      Replays before.dialect (replayed before.state) statements ∧
      Served engines before.dialect
        (statements ++ mirrored before.dialect before.primary.depth) events ∧
      added = .created engines settings :: .connected engines :: events

/-- What becomes of a session whose master is to be opened. -/
structure Whole (server : Server σ) (factory : Factory σ) (before : Session) (world : World σ)
    (outcome : Except Failure Unit) (after : Session) (added : List Event) : Prop where
  smooth : outcome = .ok () ↔ Smooth server factory before world
  opened : outcome = .ok () → Replayed before world.engines after added
  /-- When anything fails the session stays as it was. -/
  unopened : ∀ failure, outcome = .error failure → after = before ∧
    Refused server factory before world added
  /-- Engines that were there before are not called. -/
  spared : ∀ engine < world.engines, ∀ event ∈ added, event.Concerns engine →
    event = .resultClosed

/-- Where the settings cannot be made nothing else happens. -/
theorem useMasterFrom_unmade {factory : Factory σ} {failure : Failure} {memory : σ}
    (closed : session.master? = none) (made : factory world.memory = (.error failure, memory)) :
    useMasterFrom server factory (session, world) =
      (.error failure, session, { world with memory }) := by
  have called : (Acting.call factory : Acting σ Session _) (session, world) =
      (.ok (factory world.memory).1, session, { world with memory := (factory world.memory).2 }) :=
    rfl
  rw [useMasterFrom, this_bind_apply, closed]
  dsimp only
  rw [bind_apply, called, made]
  rfl

/-- With settings the session takes the slot that was opened, or stays as it was. -/
theorem useMasterFrom_made {factory : Factory σ} {settings : EngineSettings} {memory : σ}
    {outcome : Except Failure Unit} {slot : Slot} {later : World σ}
    (closed : session.master? = none) (made : factory world.memory = (.ok settings, memory))
    (opens : openSlot server session.dialect session.state session.primary.depth
      (newMaster session.dialect settings, { world with memory }) = (outcome, slot, later)) :
    useMasterFrom server factory (session, world) =
      (outcome, if outcome.isOk then { session with master? := some slot } else session,
        later) := by
  have called : (Acting.call factory : Acting σ Session _) (session, world) =
      (.ok (factory world.memory).1, session, { world with memory := (factory world.memory).2 }) :=
    rfl
  have attempt : (Acting.apart (newMaster session.dialect settings)
      (openSlot server session.dialect session.state session.primary.depth) :
        Acting σ Session _) (session, { world with memory }) =
          (.ok (outcome, slot), session, later) := by
    rw [Acting.apart, opens]
  rw [useMasterFrom, this_bind_apply, closed]
  dsimp only
  rw [bind_apply, called, made]
  dsimp only
  rw [bind_apply]
  change (Acting.apart (newMaster session.dialect settings) _ >>= _) _ = _
  rw [bind_apply, attempt]
  cases outcome <;> rfl

/-- What becomes of a session without a master that is to open one. -/
theorem useMasterFrom_whole (closed : session.master? = none) (server : Server σ)
    (factory : Factory σ) (world : World σ) : ∃ outcome after added later,
      useMasterFrom server factory (session, world) = (outcome, after, later) ∧
        later.events = world.events ++ added ∧
        Whole server factory session world outcome after added := by
  rcases made : factory world.memory with ⟨failure | settings, memory⟩
  · refine ⟨_, _, [], _, useMasterFrom_unmade closed made, (List.append_nil _).symm, ?_⟩
    refine ⟨⟨fun wrong => (nomatch wrong), ?_⟩, fun wrong => (nomatch wrong), ?_,
      fun _ _ _ member => nomatch member⟩
    · rintro ⟨again, -⟩
      cases made.symm.trans again
    · exact fun _ _ => ⟨rfl, .unmade (congrArg Prod.fst made)⟩
  · obtain ⟨outcome, slot, added, later, opens, events, carries, abandons⟩ :=
      openSlot_ends server session settings { world with memory }
    have smooth : outcome = .ok () ↔ Smooth server factory session world := by
      refine carries.trans ⟨fun carried => ⟨made, carried⟩, ?_⟩
      rintro ⟨again, carried⟩
      cases made.symm.trans again
      exact carried
    obtain ⟨_, _, _, _, again, same, -, concerns, known⟩ :=
      openSlot_tells server session settings { world with memory } rfl
    cases opens.symm.trans again
    obtain rfl := List.append_cancel_left (events.symm.trans same)
    have spared : ∀ engine < world.engines, ∀ event ∈ added, event.Concerns engine →
        event = .resultClosed := fun engine older event member =>
      (concerns event member).eq_resultClosed (Nat.ne_of_lt older)
    refine ⟨_, _, added, later, useMasterFrom_made closed made opens, events, smooth, ?_, ?_,
      spared⟩
    · rintro rfl
      obtain ⟨rfl, statements, rest, replays, served, rfl⟩ := known rfl
      exact ⟨settings, statements, rest, rfl, replays, served, rfl⟩
    · rintro failure rfl
      exact ⟨rfl, .abandoned made (abandons failure rfl)⟩

/-- Opening the master is all or nothing. Where nothing fails it is told everything; where anything
fails the session is left as it was, a connection that was opened has been closed once, and no
engine that was there before is called. From what is left, opening the master again is told
everything when nothing fails then.

Proof: the slot is opened apart from the session, which takes it at the end only. A slot ends well
exactly when each of its steps does, step by step; else what was sent is followed by the closing
of its connection. As a failure leaves the session, a second try is a first one in another world. -/
theorem openings_whole (closed : session.master? = none) (server : Server σ) (factory : Factory σ)
    (world : World σ) : ∃ outcome after added later,
      useMasterFrom server factory (session, world) = (outcome, after, later) ∧
        later.events = world.events ++ added ∧
        Whole server factory session world outcome after added ∧
        (∀ failure, outcome = .error failure → ∀ other, Smooth server factory after other →
          ∃ last more final,
            useMasterFrom server factory (after, other) = (.ok (), last, final) ∧
              final.events = other.events ++ more ∧ Replayed session other.engines last more) ∧
        ∀ settings, session.masterSettings? = some settings → factory = Factory.ready settings →
          useMaster server (session, world) = (outcome, after, later) := by
  obtain ⟨outcome, after, added, later, ran, events, whole⟩ :=
    useMasterFrom_whole closed server factory world
  refine ⟨outcome, after, added, later, ran, events, whole, ?_, ?_⟩
  · intro failure failed other smooth
    obtain ⟨rfl, -⟩ := whole.unopened failure failed
    obtain ⟨ending, last, more, final, again, following, retried⟩ :=
      useMasterFrom_whole closed server factory other
    obtain rfl := retried.smooth.mpr smooth
    exact ⟨last, more, final, again, following, retried.opened rfl⟩
  · rintro settings configured rfl
    rw [useMaster_eq server configured, ran]

/-- A server that first refuses to change the database, and then accepts it. -/
theorem refusedUse_whole :
    let session := { connectedOn twoServers Family.mysql.dialect 0 with
      state := { database := some "notes" } }
    let factory : Factory Nat := Factory.ready (engineSettings twoServers "mysql://writes/")
    let world : World Nat := { memory := 0, engines := 1 }
    session.master? = none ∧ ∃ failure after added later,
      useMasterFrom Server.fickle factory (session, world) = (.error failure, after, later) ∧
        later.events = world.events ++ added ∧
        Whole Server.fickle factory session world (.error failure) after added ∧
        ∃ last more final,
          useMasterFrom Server.fickle factory (after, later) = (.ok (), last, final) ∧
            final.events = later.events ++ more ∧ Replayed session later.engines last more := by
  intro session factory world
  have closed : session.master? = none := rfl
  let first := useMasterFrom Server.fickle factory (session, world)
  have refused : first.1.isOk = false := by decide +kernel
  have accepted : (useMasterFrom Server.fickle factory (session, first.2.2)).1.isOk = true := by
    decide +kernel
  obtain ⟨outcome, after, added, later, ran, events, whole, retried, -⟩ :=
    openings_whole closed Server.fickle factory world
  have ends : first = (outcome, after, later) := ran
  rw [ends] at refused accepted
  cases outcome with
  | ok done => cases refused
  | error failure =>
    obtain ⟨rfl, -⟩ := whole.unopened failure rfl
    have smooth : Smooth Server.fickle factory session later := by
      obtain ⟨ending, _, _, _, again, -, known, -⟩ :=
        openings_whole closed Server.fickle factory later
      rw [again] at accepted
      cases ending with
      | ok done => exact known.smooth.mp rfl
      | error failure => cases accepted
    exact ⟨closed, failure, session, added, later, ran, events, whole,
      retried failure rfl later smooth⟩

end Session

end PortableSql
