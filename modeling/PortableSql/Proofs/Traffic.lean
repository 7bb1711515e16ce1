import PortableSql.Proofs.Acting
import PortableSql.Session.Execution

/-!
# What open connections send

An open connection stays as it is while statements run on it, and what happens are requests to its
engine, one for each statement in order, and closings of results. When one of them fails, the
statements after it are not sent.
-/

namespace PortableSql

/-- The request is the statement as a driver takes it: its text alone when it has no parameters,
and else its text with the marks of some style and the values bound to them. -/
def Statement.Renders (dialect : Dialect) (statement : Statement) (request : Request) : Prop :=
  ∃ values, statement.parameters.mapM boundValue = .ok values ∧
    if values.isEmpty then request.sql = statement.sql ∧ request.values = .none
    else ∃ style, bindStatement style dialect.table.quotedSpans statement.sql values =
      .ok (request.sql, request.values)

/-- The request that an event is. -/
def Event.request? : Event → Option Request
  | .executed _ request => some request
  | _ => none

/-- The event is a request to an engine, or a result is closed. -/
def Event.Serves (engine : Nat) : Event → Prop
  | .executed asked _ => asked = engine
  | .resultClosed => True
  | _ => False

/-- The events send these statements to an engine, in order, and else only close results. -/
structure Served (engine : Nat) (dialect : Dialect) (statements : List Statement)
    (events : List Event) : Prop where
  serves : ∀ event ∈ events, event.Serves engine
  renders : List.Forall₂ (Statement.Renders dialect) statements (events.filterMap Event.request?)

section

variable {engine : Nat} {dialect : Dialect}

theorem served_nil : Served engine dialect [] [] where
  serves _ member := nomatch member
  renders := .nil

theorem served_closings (count : Nat) :
    Served engine dialect [] (List.replicate count .resultClosed) := by
  refine ⟨fun event member => ?_, ?_⟩
  · rw [List.eq_of_mem_replicate member]
    trivial
  · have silent : (List.replicate count Event.resultClosed).filterMap Event.request? = [] :=
      List.filterMap_eq_nil_iff.mpr fun event member => by rw [List.eq_of_mem_replicate member]; rfl
    rw [silent]
    exact .nil

theorem served_executed {statement : Statement} {request : Request}
    (renders : statement.Renders dialect request) :
    Served engine dialect [statement] [.executed engine request] := by
  refine ⟨fun event member => ?_, .cons renders .nil⟩
  rw [List.mem_singleton.mp member]
  rfl

theorem Served.append {statements more : List Statement} {events others : List Event}
    (first : Served engine dialect statements events)
    (second : Served engine dialect more others) :
    Served engine dialect (statements ++ more) (events ++ others) := by
  refine ⟨fun event member => ?_, ?_⟩
  · rcases List.mem_append.mp member with left | right
    · exact first.serves event left
    · exact second.serves event right
  · rw [List.filterMap_append]
    exact List.rel_append first.renders second.renders

theorem Served.asked {asked : Nat} {statements : List Statement} {events : List Event}
    {request : Request} (served : Served engine dialect statements events)
    (member : .executed asked request ∈ events) : asked = engine :=
  served.serves _ member

/-- Every request sends one of the statements. -/
theorem Served.rendered {asked : Nat} {statements : List Statement} {events : List Event}
    {request : Request} (served : Served engine dialect statements events)
    (member : .executed asked request ∈ events) :
    ∃ statement ∈ statements, statement.Renders dialect request := by
  have requested : request ∈ events.filterMap Event.request? :=
    List.mem_filterMap.mpr ⟨_, member, rfl⟩
  obtain ⟨-, related⟩ := served
  clear member
  generalize events.filterMap Event.request? = requests at requested related
  induction related with
  | nil => cases requested
  | cons renders _ inductionHypothesis =>
    rcases List.mem_cons.mp requested with rfl | rest
    · exact ⟨_, List.mem_cons_self, renders⟩
    · obtain ⟨statement, belongs, known⟩ := inductionHypothesis rest
      exact ⟨statement, List.mem_cons_of_mem _ belongs, known⟩

/-- A statement without parameters is sent as it is. -/
theorem Statement.Renders.plain {statement : Statement} {request : Request}
    (renders : statement.Renders dialect request) (bare : statement.parameters = []) :
    request.sql = statement.sql ∧ request.values = .none := by
  obtain ⟨values, bound, told⟩ := renders
  rw [bare] at bound
  obtain rfl : [] = values := Except.ok.inj bound
  exact told

end

namespace Acting

variable {σ τ υ α β : Type} {engine : Nat} {dialect : Dialect} {engines : Nat}

/-- What is acted on stays, no engine is created, and statements are sent up to some point; all of
them are when the action ends well. -/
def Sends (engine : Nat) (dialect : Dialect) (statements : List Statement) (before : τ)
    (engines : Nat) : Story τ α :=
  fun outcome after later added => after = before ∧ later = engines ∧
    ∃ sent, sent <+: statements ∧ Served engine dialect sent added ∧
      ∀ value, outcome = .ok value → sent = statements

/-- An action without events sends nothing. -/
theorem sends_nothing {outcome : Except Failure α} {before : τ} :
    Sends engine dialect [] before engines outcome before engines [] :=
  ⟨rfl, rfl, [], List.prefix_rfl, served_nil, fun _ _ => rfl⟩

/-- An action that fails at once sends nothing of what it was to send. -/
theorem sends_failed {statements : List Statement} {failure : Failure} {before : τ} :
    Sends engine dialect statements before engines (.error failure : Except Failure α) before
      engines [] :=
  ⟨rfl, rfl, [], List.nil_prefix, served_nil, fun _ wrong => nomatch wrong⟩

/-- Failing on the way is failing before the statements that were to follow. -/
theorem Sends.failed {statements more : List Statement} {before after : τ} {later : Nat}
    {added : List Event} {failure : Failure}
    (sends : Sends engine dialect statements before engines (.error failure : Except Failure α)
      after later added) :
    Sends engine dialect (statements ++ more) before engines
      (.error failure : Except Failure β) after later added := by
  obtain ⟨same, count, sent, upTo, served, -⟩ := sends
  exact ⟨same, count, sent, upTo.trans (List.prefix_append _ _), served,
    fun _ wrong => nomatch wrong⟩

/-- What was sent in front of some statements is sent before them. -/
theorem Sends.after {statements more : List Statement} {before last : τ} {final : Nat}
    {added others : List Event} {outcome : Except Failure α}
    (first : Served engine dialect statements added)
    (second : Sends engine dialect more before engines outcome last final others) :
    Sends engine dialect (statements ++ more) before engines outcome last final
      (added ++ others) := by
  obtain ⟨same, count, sent, upTo, served, whole⟩ := second
  refine ⟨same, count, statements ++ sent, (List.prefix_append_right_inj _).mpr upTo,
    first.append served, fun value ended => ?_⟩
  rw [whole value ended]

/-- A sequence sends what its steps send. -/
theorem Tells.sendsBind {action : Acting σ τ α} {next : α → Acting σ τ β} {before : τ}
    {statements more : List Statement}
    (first : action.Tells before engines (Sends engine dialect statements before engines))
    (second : ∀ value, (next value).Tells before engines
      (Sends engine dialect more before engines)) :
    (action >>= next).Tells before engines
      (Sends engine dialect (statements ++ more) before engines) := by
  refine first.bind (fun failure after later added sends => sends.failed) ?_
  rintro value after later added ⟨rfl, rfl, sent, -, served, whole⟩
  obtain rfl := whole value rfl
  exact (second value).imp fun outcome last final others sends => sends.after served

/-- A second step that sends nothing adds nothing to what is sent. -/
theorem Tells.sendsLast {action : Acting σ τ α} {next : α → Acting σ τ β} {before : τ}
    {statements : List Statement}
    (first : action.Tells before engines (Sends engine dialect statements before engines))
    (second : ∀ value, (next value).Tells before engines
      (Sends engine dialect [] before engines)) :
    (action >>= next).Tells before engines (Sends engine dialect statements before engines) := by
  have sends := first.sendsBind second
  rwa [List.append_nil] at sends

/-- A report sends nothing. -/
theorem report_sends {computation : Reporting α} {before : τ} :
    (report computation : Acting σ τ α).Tells before engines
      (Sends engine dialect [] before engines) :=
  tells_report fun _ => sends_nothing

theorem raise_sends {failure : Failure} {statements : List Statement} {before : τ} :
    (raise failure : Acting σ τ α).Tells before engines
      (Sends engine dialect statements before engines) :=
  tells_raise sends_failed

theorem settle_sends (ending : Except Failure α) {before : τ} :
    (settle ending : Acting σ τ α).Tells before engines (Sends engine dialect [] before engines) :=
  tells_settle sends_nothing

/-- What sends nothing sends nothing when its outcome is taken as a value. -/
theorem Tells.outcomeSends {action : Acting σ τ α} {before : τ}
    (tells : action.Tells before engines (Sends engine dialect [] before engines)) :
    (Acting.outcome action).Tells before engines (Sends engine dialect [] before engines) := by
  refine tells.outcome.imp fun result after later added told => ?_
  obtain ⟨ending, rfl, same, count, sent, upTo, served, -⟩ := told
  exact ⟨same, count, sent, upTo, served, fun _ _ => List.prefix_nil.mp upTo⟩

/-- Closing a result sends nothing. -/
theorem closeResult_sends (result : ResultSet) {before : τ} :
    (closeResult result : Acting σ τ Unit).Tells before engines
      (Sends engine dialect [] before engines) := by
  have closed := @served_closings engine dialect 1
  refine tells_note_bind ?_
  cases result.closeFault? with
  | none => exact (tells_pure sends_nothing).imp fun _ _ _ _ sends => sends.after closed
  | some failure => exact raise_sends.imp fun _ _ _ _ sends => sends.after closed

end Acting

namespace Connection

open Acting

variable {σ : Type} {connection : Connection} {number engines : Nat}

/-- The connection is open on an engine. -/
def On (connection : Connection) (number : Nat) : Prop :=
  connection.engine? = some number ∧ connection.isOpen = true

/-- An open connection is on one engine. -/
theorem On.unique {other : Nat} (isOn : connection.On number) (same : connection.On other) :
    number = other :=
  Option.some.inj (isOn.1.symm.trans same.1)

/-- An open connection has its engine already. -/
theorem On.engine_apply (isOn : connection.On number) (world : World σ) :
    (Connection.engine : Acting σ Connection Nat) (connection, world) =
      (.ok number, connection, world) := by
  obtain ⟨known, -⟩ := isOn
  cases connection
  cases known
  rfl

/-- An open connection is not opened again. -/
theorem On.connect_apply (isOn : connection.On number) (server : Server σ) (world : World σ) :
    Connection.connect server (connection, world) = (.ok (), connection, world) := by
  change (if connection.isOpen then (pure () : Acting σ Connection Unit) else _)
    (connection, world) = _
  rw [if_pos isOn.2]
  rfl

/-- What an open connection makes of a statement before it is sent. -/
theorem On.prepare (isOn : connection.On number) (server : Server σ) (statement : Statement) :
    (Connection.prepare server statement).Tells connection engines
      fun outcome after later added => after = connection ∧ later = engines ∧ added = [] ∧
        ∀ sql values stream, outcome = .ok (sql, values) →
          statement.Renders connection.dialect { sql, values, stream } := by
  refine tells_report_bind (fun _ => ⟨rfl, rfl, rfl, fun _ _ _ wrong => nomatch wrong⟩)
    fun values yields => ?_
  have known : statement.parameters.mapM boundValue = .ok values :=
    (Reporting.gives_ofExcept _).yields yields
  split
  case isTrue empty =>
    refine tells_pure ⟨rfl, rfl, rfl, ?_⟩
    rintro sql unbound stream ⟨⟩
    refine ⟨values, known, ?_⟩
    rw [if_pos empty]
    exact ⟨rfl, rfl⟩
  case isFalse some =>
    refine tells_this_bind (tells_passing isOn.engine_apply (tells_get_bind fun world => ?_))
    refine tells_report fun records => ⟨rfl, rfl, rfl, ?_⟩
    intro sql arranged stream ended
    rw [Reporting.gives_ofExcept _ records] at ended
    refine ⟨values, known, ?_⟩
    rw [if_neg some]
    exact ⟨_, ended⟩

/-- An open connection sends a statement that can be prepared, whatever the server answers. -/
theorem On.execute (isOn : connection.On number) (server : Server σ) (statement : Statement)
    (stream : Bool) :
    (Connection.execute server statement stream).Tells connection engines
      (Sends number connection.dialect [statement] connection engines) := by
  unfold Connection.execute
  refine (isOn.prepare server statement).bind ?_ ?_
  · rintro failure after later added ⟨rfl, rfl, rfl, -⟩
    exact sends_failed
  rintro ⟨sql, values⟩ after later added ⟨rfl, rfl, rfl, prepared⟩
  refine tells_passing (isOn.connect_apply server) (tells_passing isOn.engine_apply ?_)
  have sent := @served_executed number _ _ _ (prepared sql values stream rfl)
  refine tells_note_bind (tells_call_bind fun memory => ?_)
  split
  · exact (tells_pure sends_nothing).imp fun _ _ _ _ sends => sends.after sent
  · exact raise_sends.imp fun _ _ _ _ sends => sends.after sent

theorem On.run (isOn : connection.On number) (server : Server σ) (statement : Statement) :
    (Connection.run server statement).Tells connection engines
      (Sends number connection.dialect [statement] connection engines) :=
  (isOn.execute server statement false).sendsLast fun result =>
    closeResult_sends result

/-- A statement without parameters needs nothing to be prepared. -/
theorem prepare_bare (server : Server σ) {statement : Statement} (bare : statement.parameters = [])
    (world : World σ) :
    Connection.prepare server statement (connection, world) =
      (.ok (statement.sql, .none), connection, world) := by
  obtain ⟨sql, parameters⟩ := statement
  obtain rfl : parameters = [] := bare
  rfl

/-- A statement without parameters is sent whatever the server answers. -/
theorem On.run_bare (isOn : connection.On number) (server : Server σ) {statement : Statement}
    (bare : statement.parameters = []) :
    (Connection.run server statement).Tells connection engines fun _ after later added =>
      after = connection ∧ later = engines ∧
        Served number connection.dialect [statement] added := by
  have renders : ∀ stream, statement.Renders connection.dialect
      { sql := statement.sql, values := .none, stream } :=
    fun stream => ⟨[], by rw [bare]; rfl, rfl, rfl⟩
  have executed : (Connection.execute server statement).Tells connection engines
      fun _ after later added => after = connection ∧ later = engines ∧
        Served number connection.dialect [statement] added := by
    refine tells_passing (prepare_bare server bare) ?_
    refine tells_passing (isOn.connect_apply server) (tells_passing isOn.engine_apply ?_)
    refine tells_note_bind (tells_call_bind fun memory => ?_)
    split
    · exact tells_pure ⟨rfl, rfl, served_executed (renders false)⟩
    · exact tells_raise ⟨rfl, rfl, served_executed (renders false)⟩
  refine executed.bind (fun failure after later added told => told) ?_
  rintro result after later added ⟨rfl, rfl, served⟩
  have closing : (closeResult result).Tells after later
      (Sends number after.dialect [] after later) := closeResult_sends (σ := σ) result
  refine closing.imp ?_
  rintro outcome last final others ⟨rfl, rfl, sent, upTo, silent, -⟩
  obtain rfl := List.prefix_nil.mp upTo
  exact ⟨rfl, rfl, served.append silent⟩

/-- Reading all rows sends the statement alone. -/
theorem On.fetch (isOn : connection.On number) (server : Server σ) (statement : Statement) :
    (Connection.fetch server statement).Tells connection engines
      (Sends number connection.dialect [statement] connection engines) := by
  unfold Connection.fetch
  refine (isOn.execute server statement false).sendsLast fun result => ?_
  refine report_sends.outcomeSends.sendsLast fun rows => ?_
  exact (closeResult_sends result).sendsLast fun _ => settle_sends rows

/-- Statements whose results do not matter are sent one after the other. -/
theorem On.runAll (isOn : connection.On number) (server : Server σ) (statements : List Statement) :
    (statements.forM (Connection.run server)).Tells connection engines
      (Sends number connection.dialect statements connection engines) := by
  induction statements with
  | nil => exact tells_pure sends_nothing
  | cons statement rest inductionHypothesis =>
    exact (isOn.run server statement).sendsBind fun _ => inductionHypothesis

end Connection

namespace Session

open Acting

variable {σ : Type} {connection : Connection} {number engines : Nat}

/-- The statements of a plan are sent in order; how far they came is a value in any case. -/
theorem runStatements_sends (isOn : connection.On number) (server : Server σ) (stream : Bool)
    (completed : Nat) (statements : List Statement) :
    (runStatements server stream completed statements).Tells connection engines
      fun outcome after later added => ∃ progress, outcome = .ok progress ∧
        Sends number connection.dialect statements connection engines progress.outcome after later
          added := by
  induction completed, statements using runStatements.induct with
  | case1 completed => exact tells_pure ⟨_, rfl, sends_nothing⟩
  | case2 completed last =>
    rw [runStatements]
    refine (isOn.execute server last stream).outcomeBind fun ending after later added told => ?_
    cases ending with
    | ok result =>
      obtain ⟨rfl, rfl, sent, -, served, whole⟩ := told
      obtain rfl := whole result rfl
      exact tells_pure ⟨_, rfl, sends_nothing.after served⟩
    | error failure =>
      obtain ⟨rfl, rfl, -⟩ := id told
      refine tells_pure ⟨_, rfl, ?_⟩
      have failed : Sends number after.dialect ([last] ++ []) after later
        (.error failure : Except Failure (Option ResultSet)) after later added := told.failed
      rwa [List.append_nil] at failed ⊢
  | case3 completed statement rest several inductionHypothesis =>
    rw [runStatements.eq_3 _ _ _ _ _ several]
    refine (isOn.execute server statement false).outcomeBind fun ending after later added told => ?_
    cases ending with
    | error failure =>
      obtain ⟨rfl, rfl, -⟩ := id told
      refine tells_pure ⟨_, rfl, ?_⟩
      rw [List.append_nil]
      exact told.failed
    | ok result =>
      obtain ⟨rfl, rfl, sent, -, served, whole⟩ := told
      obtain rfl := whole result rfl
      have closing : (closeResult result).Tells after later
          (Sends number after.dialect [] after later) := closeResult_sends (σ := σ) result
      refine closing.outcomeBind fun ending last final others closed => ?_
      cases ending with
      | error failure =>
        obtain ⟨rfl, rfl, -⟩ := id closed
        refine tells_pure ⟨_, rfl, ?_⟩
        rw [List.append_nil]
        exact closed.failed.after served
      | ok ended =>
        obtain ⟨rfl, rfl, none, -, silent, all⟩ := closed
        obtain rfl := all () rfl
        refine inductionHypothesis.imp fun outcome last final more following => ?_
        obtain ⟨progress, rfl, sends⟩ := following
        exact ⟨progress, rfl, (sends.after silent).after served⟩

end Session

end PortableSql
