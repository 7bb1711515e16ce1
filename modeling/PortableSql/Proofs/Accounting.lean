import PortableSql.Proofs.Limit

/-!
# The account of a plan

The statements of a plan run in order on the active connection. Each result but the last is closed
before the next statement, and only the last statement may be streamed. When a statement fails, the
ones before it are counted and named, for they are not undone.

How a server takes the statements is told by the executions themselves: some of them ran, and then
one was executed that failed or that was the last. From there the run of a plan is computed, and
what the servers see is read off the executions one by one.
-/

namespace PortableSql

/-- The event opens a connection. -/
def Event.Opens : Event → Prop
  | .created _ _ | .connected _ => True
  | _ => False

/-- Statements were asked for on an engine, one after the other: none was streamed, each was sent
once, and its result was closed before the next. An engine may be opened before a request. -/
inductive Exchanged (dialect : Dialect) (engine : Option Nat) :
    List Statement → List Event → Prop
  | nil : Exchanged dialect engine [] []
  | cons {statement : Statement} {rest : List Statement} {opening others : List Event}
      {number : Nat} {request : Request} (opens : ∀ event ∈ opening, event.Opens)
      (asked : engine = some number) (renders : statement.Renders dialect request)
      (whole : request.stream = false) (following : Exchanged dialect engine rest others) :
      Exchanged dialect engine (statement :: rest)
        (opening ++ .executed number request :: .resultClosed :: others)

/-- One statement was asked for on an engine. It was not sent only when it failed before that. -/
def Asked (dialect : Dialect) (engine : Option Nat) (statement : Statement) (stream failed : Bool)
    (events : List Event) : Prop :=
  ∃ opening sent, events = opening ++ sent ∧ (∀ event ∈ opening, event.Opens) ∧
    ((sent = [] ∧ failed = true) ∨
      ∃ number request, sent = [.executed number request] ∧ engine = some number ∧
        statement.Renders dialect request ∧ request.stream = stream)

/-- What is known of an engine stays known. -/
theorem Exchanged.mono {dialect : Dialect} {engine later : Option Nat}
    {statements : List Statement} {events : List Event}
    (exchanged : Exchanged dialect engine statements events)
    (keeps : ∀ number, engine = some number → later = some number) :
    Exchanged dialect later statements events := by
  induction exchanged with
  | nil => exact .nil
  | cons opens asked renders whole _ inductionHypothesis =>
    exact .cons opens (keeps _ asked) renders whole inductionHypothesis

namespace Connection

open Acting

variable {σ : Type} {server : Server σ} {engines : Nat}

/-- A connection keeps its dialect and its engine, and events only open it. -/
structure Opening (before after : Connection) (added : List Event) : Prop where
  dialect : after.dialect = before.dialect
  engine : ∀ number, before.engine? = some number → after.engine? = some number
  opens : ∀ event ∈ added, event.Opens

theorem Opening.refl (connection : Connection) : Opening connection connection [] :=
  ⟨rfl, fun _ known => known, fun _ member => nomatch member⟩

theorem Opening.trans {before between after : Connection} {added more : List Event}
    (first : Opening before between added) (second : Opening between after more) :
    Opening before after (added ++ more) where
  dialect := second.dialect.trans first.dialect
  engine number known := second.engine number (first.engine number known)
  opens event member := (List.mem_append.mp member).elim (first.opens event) (second.opens event)

/-- A connection has an engine once it was asked for. -/
theorem engine_opens (connection : Connection) :
    (Connection.engine : Acting σ Connection Nat).Tells connection engines
      fun outcome after _ added => Opening connection after added ∧
        ∃ number, outcome = .ok number ∧ after.engine? = some number := by
  refine tells_this_bind ?_
  cases known : connection.engine? with
  | some number => exact tells_pure ⟨.refl connection, number, rfl, known⟩
  | none =>
    refine fun world same => ⟨_, _, [.created world.engines connection.settings], _, rfl, rfl, ?_⟩
    refine ⟨⟨rfl, fun number wrong => ?_, fun event member => ?_⟩, world.engines, rfl, rfl⟩
    · rw [known] at wrong
      cases wrong
    · rw [List.mem_singleton.mp member]
      trivial

theorem connect_opens (connection : Connection) :
    (Connection.connect server).Tells connection engines
      fun _ after _ added => Opening connection after added := by
  refine tells_this_bind ?_
  split
  · exact tells_pure (.refl connection)
  · refine (engine_opens connection).bind (fun _ _ _ _ told => told.1) ?_
    rintro number after later added ⟨opening, -⟩
    refine tells_note_bind (tells_call_bind fun memory => ?_)
    have connected : ∀ last : Connection, last.dialect = after.dialect →
        last.engine? = after.engine? →
        Opening connection last (added ++ [.connected number]) := by
      intro last sameDialect sameEngine
      refine opening.trans ⟨sameDialect, fun number known => sameEngine.trans known, ?_⟩
      intro event member
      rw [List.mem_singleton.mp member]
      trivial
    cases (server.connect number memory).1 with
    | ok value => exact tells_change (connected _ rfl rfl)
    | error failure =>
      dsimp only
      split
      · exact tells_raise (connected _ rfl rfl)
      · exact tells_raise (connected _ rfl rfl)

/-- What a connection makes of a statement before it is sent. -/
theorem prepare_opens (connection : Connection) (statement : Statement) :
    (Connection.prepare server statement).Tells connection engines
      fun outcome after _ added => Opening connection after added ∧
        ∀ sql values stream, outcome = .ok (sql, values) →
          statement.Renders connection.dialect { sql, values, stream } := by
  refine tells_report_bind (fun _ => ⟨.refl connection, fun _ _ _ wrong => nomatch wrong⟩)
    fun values yields => ?_
  have known : statement.parameters.mapM boundValue = .ok values :=
    (Reporting.gives_ofExcept _).yields yields
  split
  case isTrue empty =>
    refine tells_pure ⟨.refl connection, ?_⟩
    rintro sql unbound stream ⟨⟩
    refine ⟨values, known, ?_⟩
    rw [if_pos empty]
    exact ⟨rfl, rfl⟩
  case isFalse some =>
    refine tells_this_bind ((engine_opens connection).bind ?_ ?_)
    · rintro failure last final more ⟨opening, -⟩
      exact ⟨opening, fun _ _ _ wrong => nomatch wrong⟩
    rintro number last final more ⟨opening, -⟩
    refine tells_get_bind fun world => tells_report fun records => ?_
    refine ⟨by rwa [List.append_nil], ?_⟩
    intro sql arranged stream ended
    rw [Reporting.gives_ofExcept _ records] at ended
    refine ⟨values, known, ?_⟩
    rw [if_neg some]
    exact ⟨_, ended⟩

/-- What executing a statement leaves of the connection, and what the servers see of it. -/
structure Executes (before : Connection) (statement : Statement) (stream failed : Bool)
    (after : Connection) (added : List Event) : Prop where
  dialect : after.dialect = before.dialect
  engine : ∀ number, before.engine? = some number → after.engine? = some number
  asked : Asked before.dialect after.engine? statement stream failed added

/-- A statement that is not sent fails. -/
theorem Opening.executes {before after : Connection} {statement : Statement} {stream : Bool}
    {added : List Event} (opening : Opening before after added) :
    Executes before statement stream true after added where
  dialect := opening.dialect
  engine := opening.engine
  asked := ⟨added, [], (List.append_nil added).symm, opening.opens, .inl ⟨rfl, rfl⟩⟩

/-- A statement is asked for once, on one engine, which is opened if it was not. -/
theorem execute_asks (server : Server σ) (connection : Connection) (statement : Statement)
    (stream : Bool) : (Connection.execute server statement stream).Tells connection engines
      fun outcome after _ added =>
        Executes connection statement stream (!outcome.isOk) after added := by
  unfold Connection.execute
  refine (prepare_opens connection statement).bind (fun _ _ _ _ told => told.1.executes) ?_
  rintro ⟨sql, values⟩ prepared later added ⟨first, renders⟩
  refine (connect_opens prepared).bind (fun _ _ _ _ second => (first.trans second).executes) ?_
  rintro _ opened later more second
  refine (engine_opens opened).bind ?_ ?_
  · rintro failure after later others ⟨third, -⟩
    exact List.append_assoc added more others ▸ ((first.trans second).trans third).executes
  rintro number after later others ⟨third, _, ⟨⟩, known⟩
  have opening := (first.trans second).trans third
  have sent : ∀ failed, Executes connection statement stream failed after
      (added ++ (more ++ (others ++ [.executed number { sql, values, stream }]))) := by
    intro failed
    refine ⟨opening.dialect, opening.engine, added ++ more ++ others,
      [.executed number { sql, values, stream }], ?_, opening.opens, .inr ⟨number,
        { sql, values, stream }, rfl, known, renders sql values stream rfl, rfl⟩⟩
    simp only [List.append_assoc]
  refine tells_note_bind (tells_call_bind fun memory => ?_)
  split
  · exact tells_pure (sent _)
  · exact tells_raise (sent _)

end Connection

namespace Session

open Acting

variable {σ : Type} {server : Server σ}

/-- Statements ran on a connection one after the other: each was executed without streaming its
rows, and its result was closed before the next one. -/
inductive Ran (server : Server σ) :
    List Statement → Connection × World σ → Connection × World σ → Prop
  | nil {state : Connection × World σ} : Ran server [] state state
  | cons {statement : Statement} {rest : List Statement} {result : ResultSet}
      {before answered closed after : Connection × World σ}
      (executed : Connection.execute server statement false before = (.ok result, answered))
      (closes : Acting.closeResult result answered = (.ok (), closed))
      (following : Ran server rest closed after) : Ran server (statement :: rest) before after

/-- How far statements came when the one after `completed` others was answered. -/
def progressAt (completed : Nat) : Except Failure ResultSet → Progress
  | .ok result => ⟨completed + 1, .ok (some result)⟩
  | .error failure => ⟨completed, .error failure⟩

/-- Statements that ran are counted, and what is run next is what follows them. -/
theorem runStatements_ran {first following : List Statement} {stream : Bool} {completed : Nat}
    {before after : Connection × World σ} (ran : Ran server first before after)
    (more : following ≠ []) :
    runStatements server stream completed (first ++ following) before =
      runStatements server stream (completed + first.length) following after := by
  induction ran generalizing completed with
  | nil => rfl
  | @cons statement rest result before answered closed after executed closes _
      inductionHypothesis =>
    have several : rest ++ following = [] → False := fun wrong =>
      more (List.append_eq_nil_iff.mp wrong).2
    rw [List.cons_append, runStatements.eq_3 _ _ _ _ _ several, bind_apply, Acting.outcome, executed]
    dsimp only
    rw [bind_apply, Acting.outcome, closes]
    dsimp only
    rw [inductionHypothesis, List.length_cons, Nat.add_right_comm, Nat.add_assoc]

/-- A statement that fails, or that is the last one, ends the run. Only the last one may be
streamed. -/
theorem runStatements_stops {statement : Statement} {rest : List Statement} {stream : Bool}
    {completed : Nat} {before after : Connection × World σ} {answer : Except Failure ResultSet}
    (executed : Connection.execute server statement (rest.isEmpty && stream) before =
      (answer, after)) (stops : answer.isOk = true → rest = []) :
    runStatements server stream completed (statement :: rest) before =
      (.ok (progressAt completed answer), after) := by
  cases rest with
  | nil =>
    change Connection.execute server statement stream before = _ at executed
    rw [runStatements, bind_apply, Acting.outcome, executed]
    cases answer <;> rfl
  | cons next others =>
    change Connection.execute server statement false before = _ at executed
    rw [runStatements.eq_3 _ _ _ _ _ (List.cons_ne_nil next others), bind_apply, Acting.outcome,
      executed]
    cases answer with
    | error failure => rfl
    | ok result => cases stops rfl

/-- Closing a result without a failure is one event. -/
theorem closeResult_ok {result : ResultSet} {before after : Connection × World σ}
    (closes : Acting.closeResult result before = (.ok (), after)) :
    after = (before.1, { before.2 with events := before.2.events ++ [.resultClosed] }) := by
  unfold Acting.closeResult at closes
  cases fault : result.closeFault? with
  | none =>
    rw [fault] at closes
    exact (congrArg Prod.snd closes).symm
  | some failure =>
    rw [fault] at closes
    obtain ⟨_, _, -, raised⟩ := bind_ok closes
    exact absurd (congrArg Prod.fst raised) (by simp [raise_apply])

/-- What servers see of statements that ran, and what is left of the connection. -/
theorem Ran.exchanged {first : List Statement} {before after : Connection × World σ}
    (ran : Ran server first before after) :
    after.1.dialect = before.1.dialect ∧
      (∀ number, before.1.engine? = some number → after.1.engine? = some number) ∧
      ∃ exchanges, after.2.events = before.2.events ++ exchanges ∧
        Exchanged before.1.dialect after.1.engine? first exchanges := by
  induction ran with
  | nil => exact ⟨rfl, fun _ known => known, [], (List.append_nil _).symm, .nil⟩
  | @cons statement rest result before answered closed after executed closes _
      inductionHypothesis =>
    obtain ⟨answer, left, added, world, same, events, executes⟩ :=
      Connection.execute_asks server before.1 statement false before.2 rfl
    obtain ⟨rfl, rfl⟩ := Prod.mk.inj (executed.symm.trans same)
    obtain rfl := closeResult_ok closes
    obtain ⟨dialect, engine, exchanges, later, exchanged⟩ := inductionHypothesis
    obtain ⟨opening, sent, rfl, opens, unsent | ⟨number, request, rfl, asked, renders, whole⟩⟩ :=
      executes.asked
    · exact nomatch unsent.2
    refine ⟨dialect.trans executes.dialect, fun number known =>
      engine number (executes.engine number known),
      opening ++ .executed number request :: .resultClosed :: exchanges, ?_, ?_⟩
    · simp only [later, events, List.append_assoc, List.cons_append, List.nil_append]
    · exact .cons opens (engine number asked) renders whole (executes.dialect ▸ exchanged)

/-- A session whose commands run on a connection that was changed. -/
def withConnection (session : Session) (connection : Connection) : Session :=
  match session.master? with
  | some slot => { session with master? := some { slot with connection } }
  | none => { session with primary := { session.primary with connection } }

/-- What is done on the active connection leaves the session with what became of it. -/
theorem onActive_eq {α : Type} (action : Acting σ Connection α) (session : Session)
    (world : World σ) : onActive (Slot.onConnection action) (session, world) =
      ((action (session.active.connection, world)).1,
        session.withConnection (action (session.active.connection, world)).2.1,
        (action (session.active.connection, world)).2.2) := by
  unfold withConnection active onActive
  cases opened : session.master? with
  | none =>
    simp only [Acting.within, Slot.onConnection, active, opened, Option.getD_none]
    rfl
  | some slot =>
    simp only [Acting.within, Slot.onConnection, active, opened, Option.getD_some]
    rfl

/-- The failure of a statement as a report: the driver's own, or one that wraps what it raised and
names the statement. -/
def ownReport (statement : Statement) (failure : Failure) : Failure :=
  if failure.isReport then failure else .queryExecution statement.sql failure

/-- What is raised when a statement fails after some others. The first one of a plan fails by its
own report. A later one fails by a report of a partial plan, which lists the texts of those that
were completed and is caused by that report. -/
inductive Raises (first : List Statement) (statement : Statement) (failure : Failure) :
    Failure → Prop
  | whole (none : first = []) : Raises first statement failure (ownReport statement failure)
  | partly {message : String} {details : List (String × Value)} (some : first ≠ [])
      (completed : details.lookup "completed" =
        .some (.list (first.map fun statement => .text statement.sql))) :
      Raises first statement failure (.report .execution .partialPlan message details
        (.some (ownReport statement failure)))

theorem raises_planFailure {plan : Plan} {first rest : List Statement} {statement : Statement}
    (order : plan.statements = first ++ statement :: rest) (failure : Failure) :
    Raises first statement failure (planFailure plan first.length failure) := by
  have text : (plan.texts[first.length]?).getD "" = statement.sql := by
    simp [Plan.texts, order]
  have texts : (plan.texts.take first.length).map Value.text =
      first.map fun statement => .text statement.sql := by
    simp [Plan.texts, order]
  unfold planFailure
  simp only [text, texts]
  by_cases none : first = []
  · simp only [none, List.length_nil, if_true]
    exact .whole rfl
  · rw [if_neg (fun wrong => none (List.length_eq_zero_iff.mp wrong))]
    refine .partly none ?_
    split <;> split <;> simp [putEntry]

@[simp] theorem statistics_withConnection (session : Session) (connection : Connection) :
    (session.withConnection connection).statistics = session.statistics := by
  unfold withConnection
  cases session.master? <;> rfl

theorem count_recorded (session : Session) (plan : Plan) (completed : Nat) (success : Bool) :
    (session.recorded plan completed success).statistics.count =
      session.statistics.count + completed :=
  Statistics.count_record _ _

/-- The account of a plan: some statements ran, the one after them was answered, and the run of the
plan ended. -/
structure Accounted (session : Session) (world : World σ) (plan : Plan) (first : List Statement)
    (statement : Statement) (rest : List Statement) (answer : Except Failure ResultSet)
    (connection : Connection) (final : World σ) (ended : Except Failure Cursor) (after : Session)
    (later : World σ) : Prop where
  engine : ∀ number, session.active.connection.engine? = some number →
    connection.engine? = some number
  sent : ∃ exchanges last, final.events = world.events ++ (exchanges ++ last) ∧
    Exchanged session.active.connection.dialect connection.engine? first exchanges ∧
    Asked session.active.connection.dialect connection.engine? statement
      (rest.isEmpty && session.state.largeResults) (!answer.isOk) last
  /-- Nothing is sent then; a cursor may close the last result when it is made ready. -/
  ends : ∃ closings, later = { final with
      events := final.events ++ List.replicate closings .resultClosed
      records := later.records } ∧ (answer.isOk = false → closings = 0)
  /-- One command is recorded with what was completed, and else only the connection changes. -/
  recorded : after = (session.withConnection connection).recorded plan
    (if answer.isOk then plan.statements.length else first.length) answer.isOk
  counted : after.statistics.count =
    session.statistics.count + if answer.isOk then plan.statements.length else first.length
  outcome : match answer with
    | .error failure => ∃ raised, ended = .error raised ∧ Raises first statement failure raised
    | .ok result => ended = (Cursor.start plan (some result)).1.map fun _ =>
        (Cursor.start plan (some result)).2

/-- A plan that fails at a statement raises a report about it. -/
theorem runPlan_failed {session : Session} {world final : World σ} {plan : Plan} {completed : Nat}
    {connection : Connection} {failure : Failure}
    (run : runStatements server session.state.largeResults 0 plan.statements
      (session.active.connection, world) = (.ok ⟨completed, .error failure⟩, connection, final)) :
    ∃ records, runPlan server plan (session, world) =
      (.error (planFailure plan completed failure),
        (session.withConnection connection).recorded plan completed false,
        { final with records }) := by
  rw [runPlan, this_bind_apply, bind_apply, onActive_eq, run]
  change ∃ records, (if decide (completed = 0) && failure.isReport then throw failure
    else Acting.raise (planFailure plan completed failure) : Acting σ Session Cursor)
      ((session.withConnection connection).recorded plan completed false, final) = _
  split
  · rename_i own
    have same : planFailure plan completed failure = failure := by
      obtain ⟨none, report⟩ := Bool.and_eq_true_iff.mp own
      simp [planFailure, of_decide_eq_true none, report]
    rw [same]
    exact ⟨final.records, rfl⟩
  · refine ⟨((Reporting.raise (planFailure plan completed failure) : Reporting Cursor).run.run
      final.records).2, ?_⟩
    rw [Acting.raise, report_apply, Reporting.gives_raise]

/-- A plan whose statements all ran ends with a cursor on the last result, or as making it ready
fails. -/
theorem runPlan_passed {session : Session} {world final : World σ} {plan : Plan} {completed : Nat}
    {connection : Connection} {result? : Option ResultSet}
    (run : runStatements server session.state.largeResults 0 plan.statements
      (session.active.connection, world) = (.ok ⟨completed, .ok result?⟩, connection, final)) :
    ∃ closings, runPlan server plan (session, world) =
      ((Cursor.start plan result?).1.map fun _ => (Cursor.start plan result?).2,
        (session.withConnection connection).recorded plan completed true,
        { final with events := final.events ++ List.replicate closings .resultClosed }) := by
  refine ⟨(Cursor.start plan result?).2.closings, ?_⟩
  rw [runPlan, this_bind_apply, bind_apply, onActive_eq, run]
  change (fun ended : Except Failure Unit × Cursor => (do
    Acting.settle ended.1
    pure ended.2 : Acting σ Session Cursor)) (Cursor.start plan result?)
      ((session.withConnection connection).recorded plan completed true,
        { final with events := final.events ++
          List.replicate ((Cursor.start plan result?).2.closings - 0) .resultClosed }) = _
  rw [Nat.sub_zero]
  cases Cursor.start plan result? with
  | mk outcome cursor => cases outcome <;> rfl

/-- The run of a plan, from how its statements are answered. -/
theorem runPlan_accounted {session : Session} {world final : World σ} {plan : Plan}
    {first rest : List Statement} {statement : Statement} {before : Connection × World σ}
    {answer : Except Failure ResultSet} {connection : Connection}
    (order : plan.statements = first ++ statement :: rest)
    (ran : Ran server first (session.active.connection, world) before)
    (executed : Connection.execute server statement (rest.isEmpty && session.state.largeResults)
      before = (answer, connection, final))
    (stops : answer.isOk = true → rest = []) :
    ∃ ended after later, runPlan server plan (session, world) = (ended, after, later) ∧
      Accounted session world plan first statement rest answer connection final ended after
        later := by
  have run : runStatements server session.state.largeResults 0 plan.statements
      (session.active.connection, world) =
        (.ok (progressAt first.length answer), connection, final) := by
    rw [order, runStatements_ran ran (List.cons_ne_nil _ _), runStatements_stops executed stops,
      Nat.zero_add]
  obtain ⟨dialect, kept, exchanges, events, exchanged⟩ := ran.exchanged
  obtain ⟨answered, left, last, seen, same, lastEvents, executes⟩ :=
    Connection.execute_asks server before.1 statement
      (rest.isEmpty && session.state.largeResults) before.2 rfl
  obtain ⟨rfl, later⟩ := Prod.mk.inj (executed.symm.trans same)
  obtain ⟨rfl, rfl⟩ := Prod.mk.inj later
  have engine : ∀ number, session.active.connection.engine? = some number →
      connection.engine? = some number := fun number known =>
    executes.engine number (kept number known)
  have sent : ∃ exchanges last, final.events = world.events ++ (exchanges ++ last) ∧
      Exchanged session.active.connection.dialect connection.engine? first exchanges ∧
      Asked session.active.connection.dialect connection.engine? statement
        (rest.isEmpty && session.state.largeResults) (!answer.isOk) last := by
    refine ⟨exchanges, last, ?_, exchanged.mono executes.engine, dialect ▸ executes.asked⟩
    rw [lastEvents, events, List.append_assoc]
  cases answer with
  | error failure =>
    obtain ⟨records, ended⟩ := runPlan_failed run
    refine ⟨_, _, _, ended, {
      engine, sent, ends := ⟨0, ?_, fun _ => rfl⟩, recorded := rfl, counted := ?_,
      outcome := ⟨_, rfl, raises_planFailure order failure⟩ }⟩
    · rw [List.replicate_zero, List.append_nil]
    · rw [count_recorded, statistics_withConnection]
      rfl
  | ok result =>
    obtain rfl := stops rfl
    have whole : first.length + 1 = plan.statements.length := by
      rw [order, List.length_append, List.length_singleton]
    obtain ⟨closings, ended⟩ := runPlan_passed run
    refine ⟨_, _, _, ended, {
      engine, sent, ends := ⟨closings, rfl, nofun⟩, recorded := ?_, counted := ?_, outcome := rfl }⟩
    · rw [whole]
      rfl
    · rw [count_recorded, statistics_withConnection, whole]
      rfl

/-- The results of statements that others follow are closed without a failure, as far as the
statements come. -/
def Closes (server : Server σ) (statements : List Statement) (state : Connection × World σ) : Prop :=
  ∀ first statement rest before result answered, statements = first ++ statement :: rest →
    rest ≠ [] → Ran server first state before →
    Connection.execute server statement false before = (.ok result, answered) →
    (Acting.closeResult result answered).1 = .ok ()

/-- Statements run until one fails or is the last one. -/
theorem exists_answered (stream : Bool) {statements : List Statement}
    {state : Connection × World σ} (some : statements ≠ [])
    (closes : Closes server statements state) :
    ∃ first statement rest before answer after, statements = first ++ statement :: rest ∧
      Ran server first state before ∧
      Connection.execute server statement (rest.isEmpty && stream) before = (answer, after) ∧
      (answer.isOk = true → rest = []) := by
  induction statements generalizing state with
  | nil => exact absurd rfl some
  | cons statement rest inductionHypothesis =>
    by_cases last : rest = []
    · exact ⟨[], statement, rest, state, _, _, rfl, .nil, rfl, fun _ => last⟩
    cases executed : Connection.execute server statement false state with
    | mk answer answered =>
      cases answer with
      | error failure =>
        refine ⟨[], statement, rest, state, .error failure, answered, rfl, .nil, ?_, nofun⟩
        rw [List.isEmpty_eq_false_iff.mpr last, Bool.false_and, executed]
      | ok result =>
        have closing := closes [] statement rest state result answered rfl last .nil executed
        obtain ⟨closed, closedResult⟩ : ∃ closed,
            Acting.closeResult result answered = (.ok (), closed) := ⟨_, Prod.ext closing rfl⟩
        have later : Closes server rest closed := by
          intro first next others before result answered order more ran
          exact closes (statement :: first) next others before result answered
            (congrArg (statement :: ·) order) more (.cons executed closedResult ran)
        obtain ⟨first, next, others, before, answer, after, order, ran, ended, stops⟩ :=
          inductionHypothesis last later
        exact ⟨statement :: first, next, others, before, answer, after,
          congrArg (statement :: ·) order, .cons executed closedResult ran, ended, stops⟩

/-- The account of every plan with a statement, for every server that closes the results on the
way: the statements ran up to one that failed or to the last one, nothing else was sent, what was
completed is counted and recorded once, and a failure is raised with the account of what was
completed before it. -/
theorem plans_accounted (server : Server σ) {session : Session} {world : World σ} {plan : Plan}
    (some : plan.statements ≠ [])
    (closes : Closes server plan.statements (session.active.connection, world)) :
    ∃ first statement rest before answer connection final,
      plan.statements = first ++ statement :: rest ∧
      Ran server first (session.active.connection, world) before ∧
      Connection.execute server statement (rest.isEmpty && session.state.largeResults) before =
        (answer, connection, final) ∧
      (answer.isOk = true → rest = []) ∧
      ∃ ended after later, runPlan server plan (session, world) = (ended, after, later) ∧
        Accounted session world plan first statement rest answer connection final ended after
          later := by
  obtain ⟨first, statement, rest, before, answer, ⟨connection, final⟩, order, ran, executed, stops⟩ :=
    exists_answered session.state.largeResults some closes
  exact ⟨first, statement, rest, before, answer, connection, final, order, ran, executed, stops,
    runPlan_accounted order ran executed stops⟩

/-- The result of a statement is what the server answered. -/
theorem answered_of_execute {statement : Statement} {stream : Bool}
    {before after : Connection × World σ} {result : ResultSet}
    (executed : Connection.execute server statement stream before = (.ok result, after)) :
    ∃ number request memory answer, (server.execute number request memory).1 = .ok answer ∧
      result = Connection.ownResult statement.sql answer := by
  obtain ⟨prepared, _, -, executed⟩ := bind_ok executed
  obtain ⟨_, _, -, executed⟩ := bind_ok executed
  obtain ⟨number, _, -, executed⟩ := bind_ok executed
  obtain ⟨_, ⟨connection, world⟩, -, executed⟩ := bind_ok executed
  obtain ⟨answer, later, asked, executed⟩ := bind_ok executed
  have same := Except.ok.inj (congrArg Prod.fst asked)
  cases answer with
  | ok raw => exact ⟨number, _, _, raw, same, (Except.ok.inj (congrArg Prod.fst executed)).symm⟩
  | error failure => exact absurd (congrArg Prod.fst executed) (by simp [raise_apply])

/-- A server whose results can be closed closes those of every plan. -/
theorem closes_of_results (statements : List Statement) (state : Connection × World σ)
    (faultless : ∀ engine request memory result,
      (server.execute engine request memory).1 = .ok result → result.closeFault? = none) :
    Closes server statements state := by
  intro first statement rest before result answered _ _ _ executed
  obtain ⟨number, request, memory, answer, asked, rfl⟩ := answered_of_execute executed
  have quiet : (Connection.ownResult statement.sql answer).closeFault? = none := by
    unfold Connection.ownResult
    split <;> exact faultless number request memory answer asked
  unfold Acting.closeResult
  rw [quiet]
  rfl

/-- A server on which an index exists already. -/
def Server.indexed : Server Unit :=
  { Server.silent with
    execute := fun _ request memory =>
      (if request.sql = "CREATE INDEX i ON t (a)" then .error (.fault .runtime "it exists")
        else .ok {}, memory) }

/-- A table, an index of it and a comment on it. -/
def indexedTable : Plan where
  statements := ["CREATE TABLE t (a TEXT)", "CREATE INDEX i ON t (a)", "COMMENT ON TABLE t IS 'a'"].map
    fun sql => { sql }
  tag := some .createTable

/-- The index fails, so only the table is counted. -/
theorem indexedTable_accounted :
    let session := Session.connectedOn twoServers Family.mysql.dialect 0
    indexedTable.statements ≠ [] ∧
      Closes Server.indexed indexedTable.statements (session.active.connection, begunWorld) ∧
      (runPlan Server.indexed indexedTable (session, begunWorld)).2.1.statistics.count = 1 ∧
      ∃ first statement rest before answer connection final,
        indexedTable.statements = first ++ statement :: rest ∧
        Ran Server.indexed first (session.active.connection, begunWorld) before ∧
        Connection.execute Server.indexed statement (rest.isEmpty && session.state.largeResults)
          before = (answer, connection, final) ∧
        (answer.isOk = true → rest = []) ∧
        ∃ ended after later, runPlan Server.indexed indexedTable (session, begunWorld) =
            (ended, after, later) ∧
          Accounted session begunWorld indexedTable first statement rest answer connection final
            ended after later := by
  intro session
  have some : indexedTable.statements ≠ [] := List.cons_ne_nil _ _
  have closes : Closes Server.indexed indexedTable.statements
      (session.active.connection, begunWorld) := by
    refine closes_of_results _ _ ?_
    intro engine request memory result answered
    change (if request.sql = _ then _ else Except.ok _) = Except.ok result at answered
    split at answered
    · cases answered
    · cases answered
      rfl
  exact ⟨some, closes, by decide +kernel, plans_accounted Server.indexed some closes⟩

end Session

end PortableSql
