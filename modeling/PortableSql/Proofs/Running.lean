import PortableSql.Proofs.Opening

/-!
# Running commands

A command that was routed is compiled and run on the active connection. It leaves the slots of a
session, and what it sends is what it compiles to: the statements of its plan, or some of them when
one fails.
-/

namespace PortableSql

/-- Everything that a command sends: the statements of its plan, and before them the one that reads
a table if the plan depends on it. A command that is refused on the way is not complete. -/
inductive Command.Plans (dialect : Dialect) (context : Context) (command : Command) :
    (complete : Bool) → List Statement → Prop
  | refused : Plans dialect context command false []
  | compiled {plan : Plan} (compiles : (compile dialect context command).Yields (.done plan)) :
      Plans dialect context command true plan.statements
  | looked {reading : Statement} {resume : List Row → Reporting Plan}
      (compiles : (compile dialect context command).Yields (.reading reading resume)) :
      Plans dialect context command false [reading]
  | rebuilt {reading : Statement} {resume : List Row → Reporting Plan} {rows : List Row}
      {plan : Plan} (compiles : (compile dialect context command).Yields (.reading reading resume))
      (resumes : (resume rows).Yields plan) :
      Plans dialect context command true (reading :: plan.statements)

namespace Session

open Acting

variable {σ : Type} {session : Session} {number engines : Nat}

/-- What commands are compiled for on this session. -/
def context (session : Session) : Context where
  master := session.master?.isSome
  live := true

/-- What leaves the active connection leaves the session. -/
theorem onActive_tells {α : Type} {action : Acting σ Connection α}
    {told : Except Failure α → Nat → List Event → Prop}
    (tells : action.Tells session.active.connection engines fun outcome after later added =>
      after = session.active.connection ∧ told outcome later added) :
    (onActive (Slot.onConnection action)).Tells session engines fun outcome after later added =>
      after = session ∧ told outcome later added := by
  have onSlot : (Slot.onConnection action).Tells session.active engines
      fun outcome after later added => after = session.active ∧ told outcome later added := by
    refine tells.within ?_
    rintro outcome part later added ⟨rfl, known⟩
    exact ⟨rfl, known⟩
  refine onSlot.within ?_
  rintro outcome part later added ⟨rfl, known⟩
  refine ⟨?_, known⟩
  cases opened : session.master? with
  | none =>
    simp only [active, opened, Option.getD_none]
    rw [← opened]
  | some slot =>
    simp only [active, opened, Option.getD_some]
    rw [← opened]

/-- What is sent on the active connection is sent by the session. -/
theorem onActive_sends {α : Type} {action : Acting σ Connection α} {dialect : Dialect}
    {statements : List Statement}
    (tells : action.Tells session.active.connection engines
      (Sends number dialect statements session.active.connection engines)) :
    (onActive (Slot.onConnection action)).Tells session engines
      (Sends number dialect statements session engines) :=
  onActive_tells tells

/-- What is sent while a command compiles, and that the statements of its plan complete it. -/
theorem compileLive_tells (isOn : session.active.connection.On number)
    (spoken : session.active.connection.dialect = session.dialect) (server : Server σ)
    (command : Command) :
    (compileLive server command).Tells session engines fun outcome after later added =>
      after = session ∧ later = engines ∧ ∃ sent, Served number session.dialect sent added ∧
        match outcome with
        | .ok plan => command.Plans session.dialect session.context true (sent ++ plan.statements)
        | .error _ => ∃ statements, command.Plans session.dialect session.context false statements ∧
            sent <+: statements := by
  refine tells_this_bind (tells_report_bind (fun failure => ?_) fun compilation compiles => ?_)
  · exact ⟨rfl, rfl, [], served_nil, [], .refused, List.prefix_rfl⟩
  cases compilation with
  | done plan => exact tells_pure ⟨rfl, rfl, [], served_nil, .compiled compiles⟩
  | reading reading resume =>
    have fetching : (onActive (Slot.onConnection (Connection.fetch server reading))).Tells session
        engines (Sends number session.dialect [reading] session engines) := by
      rw [← spoken]
      exact onActive_sends (isOn.fetch server reading)
    refine fetching.bind ?_ ?_
    · rintro failure last final others ⟨same, count, sent, upTo, served, -⟩
      exact ⟨same, count, sent, served, [reading], .looked compiles, upTo⟩
    · rintro rows last final others ⟨rfl, rfl, sent, -, served, whole⟩
      obtain rfl := whole rows rfl
      refine tells_report fun records => ⟨rfl, rfl, [reading], ?_, ?_⟩
      · rw [List.append_nil]
        exact served
      · split
        case h_1 plan ended => exact .rebuilt compiles ⟨records, ended⟩
        case h_2 failure ended => exact ⟨[reading], .looked compiles, List.prefix_rfl⟩

/-- Reading from a cursor closes results and sends nothing. -/
theorem reading_tells {α : Type} (action : Reading α) (cursor : Cursor) :
    (Acting.reading action : Acting σ Cursor α).Tells cursor engines fun outcome _ later added =>
      outcome = (action cursor).1 ∧ later = engines ∧
        ∃ count, added = List.replicate count .resultClosed :=
  fun _ same => ⟨_, _, _, _, rfl, rfl, rfl, same, _, rfl⟩

/-- A session after a plan: the statements that were completed are recorded as one command. -/
def recorded (session : Session) (plan : Plan) (completed : Nat) (success : Bool) : Session :=
  { session with statistics := session.statistics.record {
      command := operationOf plan
      dialect := session.dialect.name
      route := session.active.name
      statements := completed
      success } }

/-- The statements of a plan are sent on the active connection, and the session stays as it is. -/
theorem statements_tell (isOn : session.active.connection.On number)
    (spoken : session.active.connection.dialect = session.dialect) (server : Server σ)
    (stream : Bool) (statements : List Statement) :
    (onActive (Slot.onConnection (runStatements server stream 0 statements))).Tells session engines
      fun outcome after later added => after = session ∧ ∃ progress, outcome = .ok progress ∧
        later = engines ∧ ∃ sent, sent <+: statements ∧ Served number session.dialect sent added ∧
          ∀ result, progress.outcome = .ok result → sent = statements := by
  refine onActive_tells ((runStatements_sends isOn server stream 0 statements).imp ?_)
  rintro outcome after later added ⟨progress, rfl, same, count, sent, upTo, served, whole⟩
  rw [spoken] at served
  exact ⟨same, progress, rfl, count, sent, upTo, served, whole⟩

/-- Running a plan sends its statements on the active connection; only statistics change. -/
theorem runPlan_tells (isOn : session.active.connection.On number)
    (spoken : session.active.connection.dialect = session.dialect) (server : Server σ)
    (plan : Plan) :
    (runPlan server plan).Tells session engines fun outcome after later added =>
      after = { session with statistics := after.statistics } ∧ later = engines ∧
        ∃ sent, sent <+: plan.statements ∧ Served number session.dialect sent added ∧
          ∀ cursor, outcome = .ok cursor → sent = plan.statements := by
  refine tells_this_bind ?_
  refine (statements_tell isOn spoken server _ plan.statements).bind
    (fun _ _ _ _ told => nomatch told.2.choose_spec.1) ?_
  rintro progress after later added ⟨rfl, _, ⟨⟩, rfl, sent, upTo, served, whole⟩
  refine tells_change_bind ?_
  cases ended : progress.outcome with
  | error failure =>
    dsimp only
    split
    · refine tells_throw ⟨rfl, rfl, sent, upTo, ?_, fun _ wrong => nomatch wrong⟩
      rw [List.append_nil]
      exact served
    · refine tells_raise ⟨rfl, rfl, sent, upTo, ?_, fun _ wrong => nomatch wrong⟩
      rw [List.append_nil]
      exact served
  | ok result? =>
    obtain rfl := whole result? ended
    refine (reading_tells Cursor.prepare { plan, result? }).apartBind ?_
    rintro ending cursor final more ⟨-, rfl, closings, rfl⟩
    have all := served.append (served_closings closings)
    rw [List.append_nil] at all
    refine tells_settle_bind (fun failure _ => ?_) fun _ _ => tells_pure ?_
    all_goals
      rw [List.append_nil]
      exact ⟨rfl, rfl, plan.statements, List.prefix_rfl, all, fun _ _ => rfl⟩

/-- A command ran on an engine: the slots stay, the command is remembered when it ended well, and
what was sent is what it compiles to, up to some point; all of it when it ended well. -/
structure Runs (command : Command) (number : Nat) (before : Session)
    (outcome : Except Failure Unit) (after : Session) (added : List Event) : Prop where
  slots : after = { before with state := after.state, statistics := after.statistics }
  state : after.state =
    if outcome.isOk then remembered command before.state else before.state
  sent : ∃ complete statements sent, command.Plans before.dialect before.context complete
      statements ∧ sent <+: statements ∧ Served number before.dialect sent added ∧
    (outcome = .ok () → complete = true ∧ sent = statements)

theorem Runs.master? {command : Command} {outcome : Except Failure Unit} {after : Session}
    {added : List Event}
    (runs : Runs command number session outcome after added) : after.master? = session.master? := by
  rw [runs.slots]

theorem Runs.active {command : Command} {outcome : Except Failure Unit} {after : Session}
    {added : List Event}
    (runs : Runs command number session outcome after added) : after.active = session.active := by
  rw [runs.slots]
  rfl

/-- A command that was routed is compiled and run. -/
theorem compiledRun_tells (isOn : session.active.connection.On number)
    (spoken : session.active.connection.dialect = session.dialect) (server : Server σ)
    (command : Command) :
    (do
      let cursor ← runPlan server (← compileLive server command)
      change fun session => { session with state := remembered command session.state }
      pure cursor : Acting σ Session Cursor).Tells session engines
      fun outcome after later added => later = engines ∧
        Runs command number session (outcome.map fun _ => ()) after added := by
  refine (compileLive_tells isOn spoken server command).bind ?_ ?_
  · rintro failure after later added ⟨rfl, count, sent, served, statements, plans, upTo⟩
    exact ⟨count, rfl, rfl, false, statements, sent, plans, upTo, served,
      fun wrong => nomatch wrong⟩
  rintro plan after later added ⟨rfl, rfl, sent, served, plans⟩
  refine (runPlan_tells isOn spoken server plan).bind ?_ ?_
  · rintro failure last final more ⟨same, count, others, upTo, following, -⟩
    refine ⟨count, ?_, ?_, true, _, sent ++ others, plans, ?_, served.append following,
      fun wrong => nomatch wrong⟩
    · rw [same]
    · rw [same]
      rfl
    · exact (List.prefix_append_right_inj _).mpr upTo
  · rintro cursor last final more ⟨same, count, others, upTo, following, whole⟩
    obtain rfl := whole cursor rfl
    refine tells_change_bind (tells_pure ⟨count, ?_, ?_, true, _, _, plans, List.prefix_rfl, ?_,
      fun _ => ⟨rfl, rfl⟩⟩)
    · rw [same]
    · rw [same]
      rfl
    · rw [List.append_nil]
      exact served.append following

end Session

end PortableSql
