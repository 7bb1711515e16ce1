import PortableSql.Proofs.Faultless

/-!
# Where statements go

With a master configured, nothing that writes is ever sent to the primary. Once the master is open
it stays open on its connection, no other engine is created, and commands run on it alone; only
what begins and ends transactions is still sent to the primary. Whatever fails, this holds of every
operation of a run.
-/

namespace PortableSql

namespace Operation

/-- The operation sends statements of its own: it executes a command or reads an insert's value. -/
def IsStatement : Operation → Prop
  | execute _ _ _ | executeCommand _ _ | insertId => True
  | _ => False

/-- The operation executes a command that writes. -/
def Writes (operation : Operation) : Prop :=
  ∃ command, operation.command? = some command ∧ command.tag.isWrite = true

end Operation

/-- Where an operation sends its statements, in a session whose primary is on this engine. -/
structure Entry.Routed (primary : Nat) (entry : Entry) : Prop where
  /-- The master, when it is open, is on another engine. -/
  other : ∀ slot, entry.after.master? = some slot →
    ∃ engine, slot.connection.On engine ∧ engine ≠ primary
  /-- Nothing that writes reaches the primary. -/
  writes : entry.operation.Writes → ∀ request, .executed primary request ∉ entry.events
  /-- Before the master is open, whatever does not write runs on the primary. -/
  reads : entry.before.master? = none → entry.operation.IsStatement → ¬entry.operation.Writes →
    ∀ asked request, .executed asked request ∈ entry.events → asked = primary
  /-- When the master is open, statements run on it. -/
  master : ∀ slot engine, entry.after.master? = some slot → slot.connection.On engine →
    entry.operation.IsStatement →
    ∀ asked request, .executed asked request ∈ entry.events → asked = engine
  /-- An open master stays as it is, and no further engine is created. -/
  kept : ∀ slot, entry.before.master? = some slot →
    (∃ still, entry.after.master? = some still ∧ still.name = slot.name ∧
      still.connection = slot.connection) ∧
    ∀ engine settings, .created engine settings ∉ entry.events
  /-- Once the master is open, the primary is only told to begin and to end transactions. -/
  controls : entry.before.master?.isSome = true →
    ∀ request, .executed primary request ∈ entry.events →
      (∃ control, entry.operation = .control control) ∧
        entry.before.dialect.IsControl request.sql
  /-- A command that ended well was sent as a whole and in order to the active connection; only
  the opening of the master comes before it. -/
  delivered : entry.outcome = .ok () → ∀ command, entry.operation.command? = some command →
    ∃ opened ran statements engine, entry.events = opened ++ ran ∧
      (opened ≠ [] → command.tag.isWrite = true ∧ entry.before.master? = none) ∧
      entry.after.active.connection.On engine ∧
      command.Plans entry.before.dialect entry.after.context true statements ∧
      Served engine entry.before.dialect statements ran
  /-- The value of the last insert was read from the active connection. -/
  answered : entry.outcome = .ok () → entry.operation = .insertId →
    ∃ statement engine, Operation.AsksId entry.before statement ∧
      entry.before.active.connection.On engine ∧
      Served engine entry.before.dialect [statement] entry.events

theorem Served.not_created {engine created : Nat} {dialect : Dialect}
    {statements : List Statement} {events : List Event} {settings : EngineSettings}
    (served : Served engine dialect statements events) : .created created settings ∉ events :=
  fun member => served.serves _ member

namespace Session

variable {session routed : Session} {primary engines later : Nat} {added : List Event}
  {outcome : Except Failure Unit}

/-- Opening the master sends statements to the new engine alone. -/
theorem Opening.asked {asked : Nat} {request : Request}
    (opening : session.Opening engines outcome routed later added)
    (member : .executed asked request ∈ added) : asked = engines := by
  cases opening with
  | idle settled => cases member
  | failed closed configured concerns => exact concerns _ member
  | opened closed configured replays served =>
    rcases List.mem_cons.mp member with wrong | member
    · cases wrong
    rcases List.mem_cons.mp member with wrong | member
    · cases wrong
    · exact served.asked member

/-- A write that was routed finds the master open, if one is configured. -/
theorem Opening.master (opening : session.Opening engines (.ok ()) routed later added)
    (configured : session.masterSettings?.isSome = true) :
    ∃ slot, routed.master? = some slot := by
  cases opening with
  | idle settled =>
    cases known : session.master? with
    | some slot => exact ⟨slot, rfl⟩
    | none =>
      rw [settled known] at configured
      cases configured
  | opened closed configured replays served => exact ⟨_, rfl⟩

/-- What is sent while a command is routed goes to a master that is opened for it. -/
theorem Routes.asked {command : Command} {asked : Nat} {request : Request}
    (routes : Routes command session engines routed later added)
    (member : .executed asked request ∈ added) : asked = engines ∧ ∃ settings,
      routed.master? = some (session.openedMaster settings engines) := by
  cases routes with
  | read reads => cases member
  | write writes opening =>
    refine ⟨opening.asked member, ?_⟩
    cases opening with
    | idle settled => cases member
    | opened closed configured replays served => exact ⟨_, rfl⟩

/-- What ran sent its statements to the engine it ran on. -/
theorem Runs.asked {command : Command} {number asked : Nat} {after : Session} {request : Request}
    (runs : Runs command number session outcome after added)
    (member : .executed asked request ∈ added) : asked = number := by
  obtain ⟨complete, statements, sent, -, -, served, -⟩ := runs.sent
  exact served.asked member

end Session

namespace Operation.Step

open Session

variable {session after : Session} {operation : Operation} {outcome : Except Failure Unit}
  {primary engines later : Nat} {added : List Event}

/-- Nothing that writes reaches the primary. -/
theorem writes_elsewhere (step : operation.Step primary session engines outcome after later added)
    (standing : session.Standing primary engines)
    (configured : session.masterSettings?.isSome = true) (writes : operation.Writes)
    (request : Request) : .executed primary request ∉ added := by
  obtain ⟨command, written, isWrite⟩ := writes
  have fresh : primary ≠ engines := Nat.ne_of_lt standing.known
  intro member
  cases step with
  | unread unreadable => cases member
  | unrouted asked writing opening => exact fresh (opening.asked member)
  | ran asked routes isOn runs =>
    obtain rfl := Option.some.inj (asked.symm.trans written)
    rcases List.mem_append.mp member with before | ran
    · exact fresh (routes.asked before).1
    · obtain rfl := runs.asked ran
      cases routes with
      | read reads => cases reads.symm.trans isWrite
      | write writes opening =>
        obtain ⟨slot, opened⟩ := opening.master configured
        obtain ⟨number, slotOn, -, other, -⟩ := (standing.opening opening).master slot opened
        rw [active_of_master opened] at isOn
        exact other (slotOn.unique isOn)
  | insertId => cases written
  | useMaster opening => cases written
  | control moves => cases written
  | setLargeResults => cases member

/-- Before the master is open, whatever does not write runs on the primary. -/
theorem reads_primary (step : operation.Step primary session engines outcome after later added)
    (standing : session.Standing primary engines) (closed : session.master? = none)
    (isStatement : operation.IsStatement) (reads : ¬operation.Writes) {asked : Nat}
    {request : Request} (member : .executed asked request ∈ added) : asked = primary := by
  have active : session.active = session.primary := by
    rw [Session.active, closed]
    rfl
  cases step with
  | unread unreadable => cases member
  | unrouted found writing opening => exact absurd ⟨_, found, writing⟩ reads
  | ran found routes isOn runs => cases routes with
    | write writing opening => exact absurd ⟨_, found, writing⟩ reads
    | read reading =>
      rw [active] at isOn
      obtain rfl := isOn.unique standing.opened
      exact runs.asked member
  | insertId asks isOn served whole =>
    rw [active] at isOn
    obtain rfl := isOn.unique standing.opened
    exact served.asked member
  | useMaster opening => cases isStatement
  | control moves => cases isStatement
  | setLargeResults => cases member

/-- When the master is open, statements run on it. -/
theorem runs_on_master (step : operation.Step primary session engines outcome after later added)
    (standing : session.Standing primary engines) (isStatement : operation.IsStatement)
    {slot : Slot} (opened : after.master? = some slot) {engine asked : Nat}
    (slotOn : slot.connection.On engine) {request : Request}
    (member : .executed asked request ∈ added) : asked = engine := by
  cases step with
  | unread unreadable => cases member
  | unrouted found writing opening => cases opening with
    | failed closed configured concerns =>
      rw [closed] at opened
      cases opened
  | ran found routes isOn runs =>
    rw [runs.master?] at opened
    rw [active_of_master opened] at isOn
    obtain rfl := isOn.unique slotOn
    rcases List.mem_append.mp member with before | ran
    · obtain ⟨rfl, settings, fresh⟩ := routes.asked before
      obtain rfl := Option.some.inj (fresh.symm.trans opened)
      exact Option.some.inj slotOn.1
    · exact runs.asked ran
  | insertId asks isOn served whole =>
    rw [active_of_master opened] at isOn
    obtain rfl := isOn.unique slotOn
    exact served.asked member
  | useMaster opening => cases isStatement
  | control moves => cases isStatement
  | setLargeResults => cases member

/-- An open master stays as it is, and no further engine is created. -/
theorem keeps_master (step : operation.Step primary session engines outcome after later added)
    (standing : session.Standing primary engines) {slot : Slot}
    (opened : session.master? = some slot) :
    (∃ still, after.master? = some still ∧ still.name = slot.name ∧
      still.connection = slot.connection) ∧
    ∀ engine settings, .created engine settings ∉ added := by
  have same : ∃ still, some slot = some still ∧ still.name = slot.name ∧
      still.connection = slot.connection := ⟨slot, rfl, rfl, rfl⟩
  cases step with
  | unread unreadable => exact ⟨opened ▸ same, fun _ _ wrong => nomatch wrong⟩
  | unrouted found writing opening => cases (opening.of_open opened).1
  | ran found routes isOn runs =>
    obtain ⟨rfl, rfl, rfl⟩ := routes.of_open opened
    obtain ⟨complete, statements, sent, -, -, served, -⟩ := runs.sent
    rw [runs.master?]
    exact ⟨opened ▸ same, fun _ _ => served.not_created⟩
  | insertId asks isOn served whole => exact ⟨opened ▸ same, fun _ _ => served.not_created⟩
  | useMaster opening =>
    obtain ⟨-, rfl, rfl, rfl⟩ := opening.of_open opened
    exact ⟨opened ▸ same, fun _ _ wrong => nomatch wrong⟩
  | control moves =>
    obtain ⟨-, first, second, rfl, primaryMoves, masterMoves⟩ := moves
    obtain ⟨number, slotOn, -⟩ := standing.master slot opened
    obtain ⟨-, -, firstSent, -, firstServed, -⟩ := primaryMoves
    rw [opened] at masterMoves
    obtain ⟨still, moved, ⟨depth, rfl⟩, -, secondSent, -, secondServed, -⟩ :=
      masterMoves.present slotOn
    refine ⟨⟨_, moved, rfl, rfl⟩, fun engine settings member => ?_⟩
    rcases List.mem_append.mp member with left | right
    · exact firstServed.not_created left
    · exact secondServed.not_created right
  | setLargeResults => exact ⟨opened ▸ same, fun _ _ wrong => nomatch wrong⟩

/-- Once the master is open, the primary is only told to begin and to end transactions. -/
theorem controls_primary (step : operation.Step primary session engines outcome after later added)
    (standing : session.Standing primary engines) {slot : Slot}
    (opened : session.master? = some slot) {request : Request}
    (member : .executed primary request ∈ added) :
    (∃ control, operation = .control control) ∧ session.dialect.IsControl request.sql := by
  obtain ⟨number, slotOn, -, other, -⟩ := standing.master slot opened
  obtain ⟨⟨still, stillOpen, -, same⟩, -⟩ := step.keeps_master standing opened
  have stillOn : still.connection.On number := same ▸ slotOn
  have elsewhere : ¬operation.IsStatement := fun isStatement =>
    other (step.runs_on_master standing isStatement stillOpen stillOn member).symm
  cases operation with
  | execute tag payload args => exact absurd trivial elsewhere
  | executeCommand command args => exact absurd trivial elsewhere
  | insertId => exact absurd trivial elsewhere
  | useMaster =>
    cases step with
    | unrouted found => cases found
    | ran found => cases found
    | useMaster opening =>
      obtain ⟨-, -, -, rfl⟩ := opening.of_open opened
      cases member
  | setLargeResults enabled =>
    cases step with
    | unrouted found => cases found
    | ran found => cases found
    | setLargeResults => cases member
  | control control =>
    refine ⟨⟨control, rfl⟩, ?_⟩
    cases step with
    | unrouted found => cases found
    | ran found => cases found
    | control moves =>
      obtain ⟨-, first, second, rfl, primaryMoves, masterMoves⟩ := moves
      rw [← standing.spoken]
      rcases List.mem_append.mp member with left | right
      · exact primaryMoves.requests left
      · rw [opened, stillOpen] at masterMoves
        obtain ⟨sent, -, served, -⟩ := (masterMoves number slotOn).served
        exact absurd (served.asked right).symm other

/-- A command that ended well was sent as a whole and in order to the active connection. -/
theorem delivers (step : operation.Step primary session engines outcome after later added)
    (ended : outcome = .ok ()) {command : Command} (asked : operation.command? = some command) :
    ∃ opened ran statements engine, added = opened ++ ran ∧
      (opened ≠ [] → command.tag.isWrite = true ∧ session.master? = none) ∧
      after.active.connection.On engine ∧
      command.Plans session.dialect after.context true statements ∧
      Served engine session.dialect statements ran := by
  cases step with
  | unread unreadable => cases ended
  | unrouted found writing opening => cases ended
  | ran found routes isOn runs =>
    obtain rfl := Option.some.inj (found.symm.trans asked)
    obtain ⟨spoken, only⟩ := routes.told
    obtain ⟨complete, statements, sent, plans, -, served, whole⟩ := runs.sent
    obtain ⟨rfl, rfl⟩ := whole ended
    have context : after.context = (_ : Session).context := congrArg (fun master? : Option Slot =>
      ({ master := master?.isSome, live := true } : Context)) runs.master?
    rw [spoken] at plans served
    refine ⟨_, _, _, _, rfl, only, ?_, ?_, served⟩
    · rw [runs.active]
      exact isOn
    · rw [context]
      exact plans
  | insertId => cases asked
  | useMaster opening => cases asked
  | control moves => cases asked
  | setLargeResults => cases asked

/-- The value of the last insert was read from the active connection. -/
theorem answers (step : operation.Step primary session engines outcome after later added)
    (ended : outcome = .ok ()) (asked : operation = .insertId) :
    ∃ statement engine, AsksId session statement ∧ session.active.connection.On engine ∧
      Served engine session.dialect [statement] added := by
  subst asked
  cases step with
  | unrouted found => cases found
  | ran found => cases found
  | @insertId statement? _ _ _ asks isOn served whole =>
    obtain ⟨statement, rfl⟩ := Option.isSome_iff_exists.mp (whole ended)
    exact ⟨statement, _, asks statement rfl, isOn, served⟩

/-- Where an operation sends its statements. -/
theorem routed (step : operation.Step primary session engines outcome after later added)
    (standing : session.Standing primary engines)
    (configured : session.masterSettings?.isSome = true) (earlier : List Event) :
    Entry.Routed primary
      { operation, outcome, before := session, after, earlier, events := added } where
  other slot opened := by
    obtain ⟨engine, slotOn, -, other, -⟩ := (step.standing standing).master slot opened
    exact ⟨engine, slotOn, other⟩
  writes := step.writes_elsewhere standing configured
  reads closed isStatement reads _ _ := step.reads_primary standing closed isStatement reads
  master _ _ opened slotOn isStatement _ _ :=
    step.runs_on_master standing isStatement opened slotOn
  kept _ opened := step.keeps_master standing opened
  controls isSome _ member := by
    obtain ⟨slot, opened⟩ := Option.isSome_iff_exists.mp isSome
    exact step.controls_primary standing opened member
  delivered ended _ asked := step.delivers ended asked
  answered ended asked := step.answers ended asked

end Operation.Step

section

variable {σ : Type} {session : Session} {world : World σ} {primary : Nat}

/-- A master that is open is found open by every later operation. -/
theorem journal_keeps_master (server : Server σ) (operations : List Operation)
    (standing : session.Standing primary world.engines) {slot : Slot}
    (opened : session.master? = some slot) :
    ∀ entry ∈ journal server operations (session, world), ∃ still,
      entry.before.master? = some still ∧ still.name = slot.name ∧
        still.connection = slot.connection := by
  let Keeps (session : Session) : Prop := ∃ still, session.master? = some still ∧
    still.name = slot.name ∧ still.connection = slot.connection
  refine journal_induction (fun session _ _ => Keeps session) (fun _ => True)
    ?_ server operations standing ⟨slot, opened, rfl, rfl⟩ fun _ _ => trivial
  rintro operation outcome before after engines later earlier events stands
    ⟨still, known, name, same⟩
    step -
  obtain ⟨⟨next, nextOpen, nextName, nextSame⟩, -⟩ := step.keeps_master stands known
  exact ⟨⟨next, nextOpen, nextName.trans name, nextSame.trans same⟩, still, known, name, same⟩

/-- Of two operations of a run, the later one finds the master that the earlier one left. -/
theorem journal_pairwise (server : Server σ) (operations : List Operation)
    (standing : session.Standing primary world.engines) :
    (journal server operations (session, world)).Pairwise fun earlier later =>
      ∀ slot, earlier.after.master? = some slot → ∃ still, later.before.master? = some still ∧
        still.name = slot.name ∧ still.connection = slot.connection := by
  induction operations generalizing session world with
  | nil => exact .nil
  | cons operation rest inductionHypothesis =>
    obtain ⟨outcome, after, added, later, -, same, -, stands, -⟩ :=
      journal_cons server standing operation rest
    rw [same]
    refine .cons (fun entry member slot opened => ?_) (inductionHypothesis stands)
    exact journal_keeps_master server rest stands opened entry member

end

/-- With a master configured, every operation of a session sends its statements where they belong,
whatever the servers answer, and a master that is open stays open on its connection.

Proof: the primary stays on the engine it was opened on, which no master is ever opened on, and each
step says to which engine it sends. -/
theorem statements_routed {σ : Type} (server : Server σ) (settings : Settings)
    (configured : settings.masterDsn.isSome = true) (world started : World σ) (session : Session)
    (connected : (Session.connect server settings : Acting σ Unit Session) ((), world) =
      (.ok session, (), started)) (operations : List Operation) :
    ∃ primary, session.primary.connection.On primary ∧
      (∀ entry ∈ journal server operations (session, started), entry.Routed primary) ∧
      (journal server operations (session, started)).Pairwise fun earlier later =>
        ∀ slot, earlier.after.master? = some slot → ∃ still, later.before.master? = some still ∧
          still.name = slot.name ∧ still.connection = slot.connection := by
  obtain ⟨dialect, -, rfl, standing, -⟩ := Session.connected_eq connected
  have reached :
      (Session.connectedOn settings dialect world.engines).masterSettings?.isSome = true := by
    change (settings.masterDsn.map _).isSome = true
    rw [Option.isSome_map]
    exact configured
  refine ⟨world.engines, ⟨rfl, rfl⟩, ?_, journal_pairwise server operations standing⟩
  refine journal_induction (fun session _ _ => session.masterSettings?.isSome = true)
    (fun _ => True) ?_ server operations standing reached fun _ _ => trivial
  intro operation outcome before after engines later earlier events stands configured step _
  exact ⟨step.settings_eq.2 ▸ configured, step.routed stands configured earlier⟩

/-- A row is inserted and the value it generated is asked for, before the database is left. -/
theorem insertion_routed :
    twoServers.masterDsn.isSome = true ∧
      (Session.connect Server.silent twoServers : Acting Unit Unit Session)
          ((), { memory := () }) =
        (.ok (Session.connectedOn twoServers Family.mysql.dialect 0), (), begunWorld) ∧
      let operations : List Operation :=
        [.executeCommand (.use { database := "notes" }) [], .control .begin,
         .executeCommand (.insert { table := "notes", values := some (.row [("id", .int 7)]) }) [],
         .insertId, .control .commit]
      ∃ primary,
        (Session.connectedOn twoServers Family.mysql.dialect 0).primary.connection.On primary ∧
        (∀ entry ∈ journal Server.silent operations
          (Session.connectedOn twoServers Family.mysql.dialect 0, begunWorld),
          entry.Routed primary) ∧
        (journal Server.silent operations
          (Session.connectedOn twoServers Family.mysql.dialect 0, begunWorld)).Pairwise
          fun earlier later => ∀ slot, earlier.after.master? = some slot →
            ∃ still, later.before.master? = some still ∧ still.name = slot.name ∧
              still.connection = slot.connection :=
  ⟨rfl, twoServers_connected, statements_routed Server.silent twoServers rfl _ _ _
    twoServers_connected _⟩

end PortableSql
