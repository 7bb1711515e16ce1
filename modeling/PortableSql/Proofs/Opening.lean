import PortableSql.Proofs.Depth

/-!
# Opening the master

The master is opened at most once. A new engine is created for it, and over its first connection
it is told what the session remembers, and then a transaction is begun on it if the primary has
one. When any of this fails the session stays as it was, and only the new engine has seen it.
-/

namespace PortableSql

/-- The event is about an engine, or a result is closed. -/
def Event.Concerns (engine : Nat) : Event → Prop
  | .created other _ => other = engine
  | .connected asked => asked = engine
  | .executed asked _ => asked = engine
  | .closed asked => asked = engine
  | .disposed asked => asked = engine
  | .resultClosed => True

theorem Event.Serves.concerns {engine : Nat} {event : Event} (serves : event.Serves engine) :
    event.Concerns engine := by
  cases event with
  | executed asked request => exact (serves : asked = engine)
  | resultClosed => exact (serves : True)
  | created _ _ => exact serves.elim
  | connected _ => exact serves.elim
  | closed _ => exact serves.elim
  | disposed _ => exact serves.elim

/-- Creating an engine and connecting to it is about that engine. -/
theorem Event.concerns_created {engine : Nat} {settings : EngineSettings} {events : List Event}
    (concerns : ∀ event ∈ events, event.Concerns engine) :
    ∀ event ∈ .created engine settings :: .connected engine :: events, event.Concerns engine :=
  List.forall_mem_cons.mpr ⟨rfl, List.forall_mem_cons.mpr ⟨rfl, concerns⟩⟩

/-- The statements that some commands compile to, one command after the other. -/
inductive Replays (dialect : Dialect) : List Command → List Statement → Prop
  | nil : Replays dialect [] []
  | cons {command : Command} {rest : List Command} {plan : Plan} {statements : List Statement}
      (compiles : (compilePlan dialect command).Yields plan)
      (replays : Replays dialect rest statements) :
      Replays dialect (command :: rest) (plan.statements ++ statements)

/-- What begins a transaction on a new connection when there is one of some depth. -/
def mirrored (dialect : Dialect) (depth : Nat) : List Statement :=
  if depth = 0 then [] else [dialect.beginTransaction]

namespace Connection

open Acting

variable {σ : Type} {engines : Nat}

/-- A connection without an engine creates one. -/
theorem engine_tells (settings : EngineSettings) (dialect : Dialect) (route : String) :
    (Connection.engine : Acting σ Connection Nat).Tells { settings, dialect, route } engines
      fun outcome after later added => outcome = .ok engines ∧
        after = { settings, dialect, route, engine? := some engines } ∧ later = engines + 1 ∧
        added = [.created engines settings] := by
  rintro world rfl
  exact ⟨_, _, [.created world.engines settings],
    { world with
      engines := world.engines + 1
      events := world.events ++ [.created world.engines settings] },
    rfl, rfl, rfl, rfl, rfl, rfl⟩

/-- A new connection creates an engine and connects to it. -/
theorem connect_tells (server : Server σ) (settings : EngineSettings) (dialect : Dialect)
    (route : String) :
    (Connection.connect server).Tells { settings, dialect, route } engines
      fun outcome after later added => later = engines + 1 ∧
        added = [.created engines settings, .connected engines] ∧
        (outcome = .ok () →
          after = { settings, dialect, route, engine? := some engines, isOpen := true }) := by
  refine tells_this_bind ?_
  rw [if_neg (fun wrong : false = true => nomatch wrong)]
  refine (engine_tells settings dialect route).bind (fun _ _ _ _ told => nomatch told.1) ?_
  rintro number after later added ⟨⟨⟩, rfl, rfl, rfl⟩
  refine tells_note_bind (tells_call_bind fun memory => ?_)
  cases (server.connect engines memory).1 with
  | ok done => exact tells_change ⟨rfl, rfl, fun _ => rfl⟩
  | error failure =>
    dsimp only
    split <;> exact tells_raise ⟨rfl, rfl, fun wrong => nomatch wrong⟩

/-- So does the connection of a new slot. -/
theorem connect_onSlot_tells (server : Server σ) (name : String) (settings : EngineSettings)
    (dialect : Dialect) (route : String) :
    (Slot.onConnection (Connection.connect server)).Tells
      { name, connection := { settings, dialect, route } } engines
      fun outcome after later added => later = engines + 1 ∧
        added = [.created engines settings, .connected engines] ∧
        (outcome = .ok () → after =
          { name
            connection := {
              settings
              dialect
              route
              engine? := some engines
              isOpen := true } }) := by
  let slot : Slot := { name, connection := { settings, dialect, route } }
  have fresh : (Connection.connect server).Tells slot.connection engines _ :=
    connect_tells server settings dialect route
  refine fresh.within ?_
  rintro outcome part later added ⟨count, events, known⟩
  refine ⟨count, events, fun ended => ?_⟩
  rw [known ended]

/-- Closing a connection concerns its engine alone. -/
theorem close_tells {connection : Connection} {number : Nat}
    (on : connection.engine? = some number) (server : Server σ) :
    (Connection.close server).Tells connection engines fun _ _ later added =>
      later = engines ∧ ∀ event ∈ added, event.Concerns number := by
  have closing : (Connection.closeOpen server).Tells connection engines
      fun _ after later added => after = connection ∧ later = engines ∧
        ∀ event ∈ added, event.Concerns number := by
    refine tells_this_bind ?_
    rw [on]
    cases connection.isOpen with
    | false => exact tells_pure ⟨rfl, rfl, fun _ member => nomatch member⟩
    | true =>
      refine tells_note_bind (tells_call_bind fun _ => tells_settle ⟨rfl, rfl, ?_⟩)
      intro event member
      rw [List.mem_singleton.mp member]
      rfl
  refine closing.outcomeBind ?_
  rintro ending after later added ⟨rfl, rfl, concerns⟩
  refine tells_this_bind ?_
  rw [on]
  refine tells_note_bind (tells_change_bind (tells_settle ⟨rfl, fun event member => ?_⟩))
  rcases List.mem_append.mp member with closed | disposed
  · exact concerns event closed
  · rw [List.mem_singleton.mp disposed]
    rfl

end Connection

namespace Session

open Acting

variable {σ : Type} {slot : Slot} {session : Session} {dialect : Dialect} {number engines : Nat}

/-- A command whose results do not matter is sent when it compiles. -/
theorem replay_tells {connection : Connection} (isOn : connection.On number) (server : Server σ)
    (command : Command) :
    (replay server dialect command).Tells connection engines fun outcome after later added =>
      after = connection ∧ later = engines ∧ ∃ statements,
        Served number connection.dialect statements added ∧
        (outcome = .ok () → ∃ plan, (compilePlan dialect command).Yields plan ∧
          statements = plan.statements) := by
  refine tells_report_bind (fun failure => ?_) fun plan yields => ?_
  · exact ⟨rfl, rfl, [], served_nil, fun wrong => nomatch wrong⟩
  · refine (isOn.runAll server plan.statements).imp ?_
    rintro outcome last final more ⟨same, count, sent, -, served, whole⟩
    exact ⟨same, count, sent, served, fun ended => ⟨plan, yields, whole () ended⟩⟩

/-- The commands that a session remembers are sent one after the other. -/
theorem replayAll_tells (isOn : slot.connection.On number) (server : Server σ)
    (commands : List Command) :
    (commands.forM fun command => Slot.onConnection (replay server dialect command)).Tells slot
      engines fun outcome after later added => after = slot ∧ later = engines ∧ ∃ statements,
        Served number slot.connection.dialect statements added ∧
        (outcome = .ok () → Replays dialect commands statements) := by
  induction commands with
  | nil => exact tells_pure ⟨rfl, rfl, [], served_nil, fun _ => .nil⟩
  | cons command rest inductionHypothesis =>
    have first : (Slot.onConnection (replay server dialect command)).Tells slot engines
        fun outcome after later added => after = slot ∧ later = engines ∧ ∃ statements,
          Served number slot.connection.dialect statements added ∧
          (outcome = .ok () → ∃ plan, (compilePlan dialect command).Yields plan ∧
            statements = plan.statements) := by
      refine (replay_tells isOn server command).within ?_
      rintro outcome part later added ⟨rfl, told⟩
      exact ⟨rfl, told⟩
    refine first.bind ?_ ?_
    · rintro failure after later added ⟨same, count, statements, served, -⟩
      exact ⟨same, count, statements, served, fun wrong => nomatch wrong⟩
    · rintro ⟨⟩ after later added ⟨rfl, rfl, statements, served, known⟩
      obtain ⟨plan, yields, rfl⟩ := known rfl
      refine inductionHypothesis.imp ?_
      rintro outcome last final more ⟨same, count, others, following, replays⟩
      exact ⟨same, count, _, served.append following, fun ended => .cons yields (replays ended)⟩

/-- A new slot is told what a session remembers, and of its transaction. -/
theorem prepareSlot_tells (isOn : slot.connection.On number) (flat : slot.depth = 0)
    (server : Server σ) (state : SessionState) (depth : Nat) :
    (prepareSlot server dialect state depth).Tells slot engines fun outcome after later added =>
      after.connection = slot.connection ∧ later = engines ∧
      (∀ event ∈ added, event.Serves number) ∧
      (outcome = .ok () → after = { slot with depth } ∧ ∃ statements,
        Replays dialect (replayed state) statements ∧
        Served number slot.connection.dialect
          (statements ++ mirrored slot.connection.dialect depth) added) := by
  refine (replayAll_tells isOn server (replayed state)).bind ?_ ?_
  · rintro failure after later added ⟨rfl, count, statements, served, -⟩
    exact ⟨rfl, count, served.serves, fun wrong => nomatch wrong⟩
  rintro ⟨⟩ after later added ⟨rfl, rfl, statements, served, replays⟩
  by_cases none : depth = 0
  case pos =>
    rw [if_neg (not_not_intro none)]
    refine tells_pure ⟨rfl, rfl, ?_, fun _ => ⟨?_, statements, replays rfl, ?_⟩⟩
    · rw [List.append_nil]
      exact served.serves
    · rw [none, ← flat]
    · rw [mirrored, if_pos none, List.append_nil, List.append_nil]
      exact served
  case neg =>
    rw [if_pos none]
    have begun : (Slot.begin server).Tells after later _ :=
      Control.begin.onSlot_settles isOn server
    rw [Control.statements, if_pos flat] at begun
    refine begun.bind ?_ ?_
    · rintro failure last final others ⟨rfl, count, mirroring⟩
      exact ⟨rfl, count, (served.append mirroring).serves, fun wrong => nomatch wrong⟩
    · rintro ⟨⟩ last final others ⟨rfl, rfl, mirroring⟩
      refine tells_change ⟨rfl, rfl, ?_, fun _ => ⟨rfl, statements, replays rfl, ?_⟩⟩
      · rw [List.append_nil]
        exact (served.append mirroring).serves
      · rw [List.append_nil, mirrored, if_neg none]
        exact served.append mirroring

/-- The master as it is opened on a new engine. -/
def openedMaster (session : Session) (settings : EngineSettings) (number : Nat) : Slot where
  name := "master"
  connection := {
    settings
    dialect := session.dialect
    route := "master"
    engine? := some number
    isOpen := true }
  depth := session.primary.depth

/-- Opening the master either leaves a new slot that is prepared, or fails; everything that
happens is about the new engine. -/
theorem openSlot_tells (server : Server σ) (session : Session) (settings : EngineSettings) :
    (openSlot server session.dialect session.state session.primary.depth).Tells
      (newMaster session.dialect settings) engines fun outcome after later added =>
        later = engines + 1 ∧ (∀ event ∈ added, event.Concerns engines) ∧
        (outcome = .ok () → after = session.openedMaster settings engines ∧
          ∃ statements events, Replays session.dialect (replayed session.state) statements ∧
            Served engines session.dialect
              (statements ++ mirrored session.dialect session.primary.depth) events ∧
            added = .created engines settings :: .connected engines :: events) := by
  have connecting : (Slot.onConnection (Connection.connect server)).Tells
      (newMaster session.dialect settings) engines fun outcome after later added =>
        later = engines + 1 ∧ added = [.created engines settings, .connected engines] ∧
        (outcome = .ok () → after = { session.openedMaster settings engines with depth := 0 }) :=
    Connection.connect_onSlot_tells server "master" settings session.dialect "master"
  refine connecting.bind ?_ ?_
  · rintro failure after later added ⟨count, rfl, -⟩
    exact ⟨count, Event.concerns_created fun _ member => (nomatch member),
      fun wrong => nomatch wrong⟩
  rintro ⟨⟩ after later added ⟨rfl, rfl, known⟩
  obtain rfl := known rfl
  have isOn : ({ session.openedMaster settings engines with depth := 0 } : Slot).connection.On
      engines := ⟨rfl, rfl⟩
  refine (prepareSlot_tells isOn rfl server session.state session.primary.depth).outcomeBind ?_
  rintro ending last final others ⟨same, rfl, serves, whole⟩
  cases ending with
  | ok done =>
    obtain ⟨rfl, statements, replays, served⟩ := whole rfl
    refine tells_pure ?_
    rw [List.append_nil]
    exact ⟨rfl, Event.concerns_created fun event following => (serves event following).concerns,
      fun _ => ⟨rfl, statements, others, replays, served, rfl⟩⟩
  | error failure =>
    -- The new slot is closed again. Closing may fail as well, but it is about the same engine.
    have closing : (Slot.onConnection (Connection.close server)).Tells last (engines + 1)
        fun _ _ later added => later = engines + 1 ∧ ∀ event ∈ added, event.Concerns engines := by
      have on : last.connection.engine? = some engines := by rw [same]; rfl
      exact (Connection.close_tells on server).within fun _ _ _ _ told => told
    have all : ∀ more : List Event, (∀ event ∈ more, event.Concerns engines) → ∀ event ∈
        .created engines settings :: .connected engines :: (others ++ more),
          event.Concerns engines := fun more concerns =>
      Event.concerns_created (List.forall_mem_append.mpr
        ⟨fun event told => (serves event told).concerns, concerns⟩)
    refine closing.bind ?_ ?_
    · rintro other after later more ⟨count, concerns⟩
      exact ⟨count, all more concerns, fun wrong => nomatch wrong⟩
    · rintro ⟨⟩ after later more ⟨rfl, concerns⟩
      refine tells_throw ⟨rfl, ?_, fun wrong => nomatch wrong⟩
      rw [List.append_nil]
      exact all more concerns

/-- What becomes of a session that is to have its master open. -/
inductive Opening (before : Session) (engines : Nat) :
    Except Failure Unit → Session → Nat → List Event → Prop
  /-- The master is open already, or none is configured. -/
  | idle (settled : before.master? = none → before.masterSettings? = none) :
      Opening before engines (.ok ()) before engines []
  /-- The master was not open and could not be opened; the session stays as it was. -/
  | failed {settings : EngineSettings} {failure : Failure} {added : List Event}
      (closed : before.master? = none) (configured : before.masterSettings? = some settings)
      (concerns : ∀ event ∈ added, event.Concerns engines) :
      Opening before engines (.error failure) before (engines + 1) added
  /-- The master was opened: on a new engine that was told what the session remembers, and that
  began a transaction if the primary has one. -/
  | opened {settings : EngineSettings} {statements : List Statement} {events : List Event}
      (closed : before.master? = none) (configured : before.masterSettings? = some settings)
      (replays : Replays before.dialect (replayed before.state) statements)
      (served : Served engines before.dialect
        (statements ++ mirrored before.dialect before.primary.depth) events) :
      Opening before engines (.ok ())
        { before with master? := some (before.openedMaster settings engines) } (engines + 1)
        (.created engines settings :: .connected engines :: events)

theorem useMaster_tells (server : Server σ) :
    (useMaster server).Tells session engines (Opening session engines) := by
  refine tells_this_bind ?_
  cases opened : session.master? with
  | some slot => exact tells_pure (.idle fun closed => nomatch opened.symm.trans closed)
  | none => cases configured : session.masterSettings? with
    | none => exact tells_pure (.idle fun _ => configured)
    | some settings =>
      refine (openSlot_tells server session settings).apartBind ?_
      rintro outcome slot later added ⟨rfl, concerns, known⟩
      refine tells_settle_bind ?_ ?_
      · rintro failure rfl
        rw [List.append_nil]
        exact .failed opened configured concerns
      · rintro ⟨⟩ rfl
        obtain ⟨rfl, statements, events, replays, served, rfl⟩ := known rfl
        refine tells_change ?_
        rw [List.append_nil]
        exact .opened opened configured replays served

namespace Opening

variable {before after : Session} {outcome : Except Failure Unit} {later : Nat}
  {added : List Event}

/-- Opening the master leaves the dialect. -/
theorem dialect_eq (opening : before.Opening engines outcome after later added) :
    after.dialect = before.dialect := by
  cases opening <;> rfl

/-- Opening the master leaves how it is reached. -/
theorem masterSettings?_eq (opening : before.Opening engines outcome after later added) :
    after.masterSettings? = before.masterSettings? := by
  cases opening <;> rfl

/-- An open master is not opened again. -/
theorem of_open {slot : Slot} (opened : before.master? = some slot)
    (opening : before.Opening engines outcome after later added) :
    outcome = .ok () ∧ after = before ∧ later = engines ∧ added = [] := by
  cases opening with
  | idle settled => exact ⟨rfl, rfl, rfl, rfl⟩
  | failed closed configured concerns => cases opened.symm.trans closed
  | opened closed configured replays served => cases opened.symm.trans closed

end Opening

end Session

end PortableSql
