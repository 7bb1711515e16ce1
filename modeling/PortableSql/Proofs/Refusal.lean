import PortableSql.Proofs.Routing
import PortableSql.Proofs.Shape

/-!
# Refused commands

A command that is refused is refused before its first statement is sent, as long as the servers do
not answer by refusals themselves. Only the master may have been opened for it, which then stays
open. A table that is described by its server is the exception: its name is quoted when the
descriptions of its columns are there.
-/

namespace PortableSql

/-- The failure reports that a command is unacceptable or not known. -/
def Failure.IsRefusal (failure : Failure) : Prop :=
  failure.class? = some .validation ∨ failure.class? = some .unsupportedCommand

/-- The outcome is no refusal; a value is as expected. -/
def Unrefused {α : Type} (Expected : α → Prop) : Except Failure α → Prop
  | .ok value => Expected value
  | .error failure => ¬failure.IsRefusal

/-- Reading and closing the result never ends by a refusal. -/
structure ResultSet.Foreign (result : ResultSet) : Prop where
  rows : ∀ row ∈ result.rows, Unrefused (fun _ => True) row
  closes : ∀ failure, result.closeFault? = some failure → ¬failure.IsRefusal

/-- The server knows nothing of commands, so its failures refuse none. -/
structure Server.Foreign {σ : Type} (server : Server σ) : Prop where
  connects : ∀ engine memory, Unrefused (fun _ => True) (server.connect engine memory).1
  executes : ∀ engine request memory,
    Unrefused ResultSet.Foreign (server.execute engine request memory).1

section

variable {α β : Type} {Expected : α → Prop}

/-- A fault of something below this library refuses no command. -/
theorem Failure.not_isRefusal_fault (kind : FaultKind) (message : String) :
    ¬(Failure.fault kind message).IsRefusal := by
  rintro (wrong | wrong) <;> cases wrong

/-- A report about running statements refuses no command. -/
theorem Failure.not_isRefusal_of_execution {failure : Failure}
    (known : failure.class? = some .execution) : ¬failure.IsRefusal := by
  rintro (wrong | wrong) <;> cases known.symm.trans wrong

theorem Unrefused.bind {Other : β → Prop} {outcome : Except Failure α}
    {next : α → Except Failure β} (first : Unrefused Expected outcome)
    (second : ∀ value, Expected value → Unrefused Other (next value)) :
    Unrefused Other (outcome >>= next) := by
  cases outcome with
  | ok value => exact second value first
  | error failure => exact first

theorem unrefused_mapM {next : α → Except Failure β}
    (each : ∀ item, Unrefused (fun _ => True) (next item)) (items : List α) :
    Unrefused (fun _ => True) (items.mapM next) := by
  induction items with
  | nil => trivial
  | cons item rest inductionHypothesis =>
    rw [List.mapM_cons]
    exact (each item).bind fun _ _ => inductionHypothesis.bind fun _ _ => trivial

end

/-! ## What is below this library -/

theorem Value.toByte_unrefused (value : Value) : Unrefused (fun _ => True) value.toByte := by
  unfold Value.toByte
  split
  case h_1 => trivial
  case h_2 =>
    split
    · trivial
    · exact Failure.not_isRefusal_fault _ _
  case h_3 => exact Failure.not_isRefusal_fault _ _

theorem Value.zeroBytes_unrefused (count : Int) :
    Unrefused (fun _ => True) (Value.zeroBytes count) := by
  unfold Value.zeroBytes
  repeat' split
  all_goals first | trivial | exact Failure.not_isRefusal_fault _ _

theorem Value.toBytes_unrefused (value : Value) : Unrefused (fun _ => True) value.toBytes := by
  unfold Value.toBytes
  split
  case h_1 => trivial
  case h_3 => exact Value.zeroBytes_unrefused _
  case h_4 => exact Value.zeroBytes_unrefused _
  case h_5 => exact unrefused_mapM Value.toByte_unrefused _
  case h_6 => exact unrefused_mapM Value.toByte_unrefused _
  case h_7 => exact unrefused_mapM Value.toByte_unrefused _
  all_goals exact Failure.not_isRefusal_fault _ _

/-- A value that cannot be bound is a fault. -/
theorem boundValue_unrefused (parameter : Parameter) :
    Unrefused (fun _ => True) (boundValue parameter) := by
  unfold boundValue
  split
  case h_3 value =>
    rw [Reporting.map_eq_bind]
    exact (Value.toBytes_unrefused _).bind fun _ _ => trivial
  all_goals trivial

/-- Marks that cannot be named are a fault. -/
theorem replaceM_unrefused (style : MarkerStyle) (parameters : Nat) (found : List Sql.Piece)
    (position : Nat) : Unrefused (fun _ => True)
      ((Sql.replaceM (nextMarker style parameters) (fun _ => pure "") found).run position) := by
  induction found generalizing position with
  | nil => trivial
  | cons piece rest inductionHypothesis =>
    have others : ∀ (text : List Char) position, Unrefused (fun _ => True) ((do
        let others ← Sql.replaceM (nextMarker style parameters) (fun _ => pure "") rest
        pure (text ++ others) : StateT Nat (Except Failure) (List Char)).run position) := by
      intro text position
      rw [StateT.run_bind]
      exact (inductionHypothesis position).bind fun _ _ => trivial
    cases piece with
    | placeholder =>
      have marked : Unrefused (fun _ => True) ((nextMarker style parameters).run position) := by
        change Unrefused _ ((if style.usesNames && parameters ≤ position then
          throw (.fault .badIndex "list index out of range")
          else do
            set (position + 1)
            pure (style.marker position) : StateT Nat (Except Failure) String).run position)
        split
        · exact Failure.not_isRefusal_fault _ _
        · trivial
      simp only [Sql.replaceM, pure_bind, StateT.run_bind]
      exact marked.bind fun marker _ => others marker.1.toList marker.2
    | subquery digits => simpa only [Sql.replaceM, pure_bind] using others _ position
    | span characters => simpa only [Sql.replaceM, pure_bind] using others _ position
    | other character => simpa only [Sql.replaceM, pure_bind] using others _ position

theorem bindStatement_unrefused (style : MarkerStyle) (delimiters : List Sql.Delimiter)
    (sql : String) (values : List Value) :
    Unrefused (fun _ => True) (bindStatement style delimiters sql values) := by
  have replaced : Unrefused (fun _ => True)
      (replaceMarkers style delimiters values.length sql) := by
    unfold replaceMarkers
    split
    · trivial
    · exact (replaceM_unrefused style values.length _ 0).bind fun _ _ => trivial
  exact replaced.bind fun _ _ => trivial

/-! ## Acting -/

namespace Acting

variable {σ τ υ α β : Type} {Expected : α → Prop}

/-- However it begins, the action does not end by a refusal. -/
def Ends (action : Acting σ τ α) (Expected : α → Prop) : Prop :=
  ∀ state, Unrefused Expected (action state).1

theorem ends_pure {value : α} (expected : Expected value) :
    (pure value : Acting σ τ α).Ends Expected := fun _ => expected

theorem ends_this : (this : Acting σ τ τ).Ends fun _ => True := fun _ => trivial

theorem ends_change (update : τ → τ) : (change update : Acting σ τ Unit).Ends fun _ => True :=
  fun _ => trivial

theorem ends_note (event : Event) : (note event : Acting σ τ Unit).Ends fun _ => True :=
  fun _ => trivial

theorem ends_get : (get : Acting σ τ (τ × World σ)).Ends fun _ => True := fun _ => trivial

theorem ends_call {ask : σ → Except Failure α × σ}
    (answers : ∀ memory, Unrefused Expected (ask memory).1) :
    (call ask : Acting σ τ _).Ends (Unrefused Expected) := fun state => answers state.2.memory

theorem Ends.bind {Other : β → Prop} {action : Acting σ τ α} {next : α → Acting σ τ β}
    (first : action.Ends Expected) (second : ∀ value, Expected value → (next value).Ends Other) :
    (action >>= next).Ends Other := by
  intro state
  have begun := first state
  rw [bind_apply]
  cases ran : action state with
  | mk outcome later =>
    rw [ran] at begun
    cases outcome with
    | ok value => exact second value begun later
    | error failure => exact begun

theorem ends_report {computation : Reporting α} {outcome : Except Failure α}
    (gives : computation.Gives outcome) (known : Unrefused Expected outcome) :
    (report computation : Acting σ τ α).Ends Expected := by
  rintro ⟨before, world⟩
  rw [report_apply, gives world.records]
  exact known

theorem ends_raise {failure : Failure} (own : ¬failure.IsRefusal) :
    (raise failure : Acting σ τ α).Ends Expected :=
  ends_report (Reporting.gives_raise failure) own

theorem Ends.outcome {action : Acting σ τ α} (ends : action.Ends Expected) :
    (Acting.outcome action).Ends (Unrefused Expected) := fun state => ends state

theorem Ends.within {read : τ → υ} {write : υ → τ → τ} {action : Acting σ υ α}
    (ends : action.Ends Expected) : (Acting.within read write action).Ends Expected :=
  fun state => ends (read state.1, state.2)

/-- What an action tells and that it does not end by a refusal, together. -/
theorem Ends.tells {action : Acting σ τ α} {before : τ} {engines : Nat} {story : Story τ α}
    (ends : action.Ends Expected) (tells : action.Tells before engines story) :
    action.Tells before engines fun outcome after later added =>
      Unrefused Expected outcome ∧ story outcome after later added := by
  intro world same
  obtain ⟨outcome, after, added, later, ran, events, told⟩ := tells world same
  have known := ends (before, world)
  rw [ran] at known
  exact ⟨outcome, after, added, later, ran, events, known, told⟩

theorem closeResult_ends {result : ResultSet} (foreign : result.Foreign) :
    (closeResult result : Acting σ τ Unit).Ends fun _ => True := by
  refine (ends_note _).bind fun _ _ => ?_
  cases closes : result.closeFault? with
  | none => exact ends_pure trivial
  | some failure => exact ends_raise (foreign.closes failure closes)

end Acting

namespace Connection

open Acting

variable {σ : Type} {server : Server σ}

theorem engine_ends : (engine : Acting σ Connection Nat).Ends fun _ => True := by
  refine ends_this.bind fun connection _ => ?_
  split
  · exact ends_pure trivial
  · exact fun _ => trivial

theorem connect_ends (foreign : server.Foreign) :
    (Connection.connect server).Ends fun _ => True := by
  refine ends_this.bind fun connection _ => ?_
  split
  · exact ends_pure trivial
  refine engine_ends.bind fun number _ => (ends_note _).bind fun _ _ => ?_
  refine (ends_call (foreign.connects number)).bind fun answer known => ?_
  cases answer with
  | ok _ => exact ends_change _
  | error failure =>
    dsimp only
    split
    · exact ends_raise (Failure.not_isRefusal_of_execution rfl)
    · exact ends_raise known

theorem prepare_ends (statement : Statement) :
    (Connection.prepare server statement).Ends fun _ => True := by
  refine (ends_report (Reporting.gives_ofExcept _)
    (unrefused_mapM boundValue_unrefused _)).bind fun values _ => ?_
  dsimp only
  split
  · exact ends_pure trivial
  · refine ends_this.bind fun connection _ => engine_ends.bind fun number _ => ends_get.bind
      fun state _ => ?_
    exact ends_report (Reporting.gives_ofExcept _) (bindStatement_unrefused _ _ _ _)

theorem not_isRefusal_wrapped (sql : String) {failure : Failure} (own : ¬failure.IsRefusal) :
    ¬(wrapped sql failure).IsRefusal := by
  unfold wrapped
  split
  · exact Failure.not_isRefusal_of_execution rfl
  · exact own

theorem ownResult_foreign (sql : String) {result : ResultSet} (foreign : result.Foreign) :
    (ownResult sql result).Foreign := by
  unfold ownResult
  split
  · refine ⟨fun row member => ?_, foreign.closes⟩
    obtain ⟨own, belongs, rfl⟩ := List.mem_map.mp member
    cases own with
    | ok row => trivial
    | error failure => exact not_isRefusal_wrapped sql (foreign.rows _ belongs)
  · exact ⟨fun _ member => (nomatch member), foreign.closes⟩

theorem execute_ends (foreign : server.Foreign) (statement : Statement) (stream : Bool) :
    (Connection.execute server statement stream).Ends ResultSet.Foreign := by
  refine (prepare_ends statement).bind fun prepared _ => (connect_ends foreign).bind fun _ _ =>
    engine_ends.bind fun number _ => (ends_note _).bind fun _ _ => ?_
  refine (ends_call (foreign.executes number _)).bind fun answer known => ?_
  cases answer with
  | ok result => exact ends_pure (ownResult_foreign _ known)
  | error failure => exact ends_raise (not_isRefusal_wrapped _ known)

end Connection

namespace Reading

variable {α β : Type}

/-- The result that a cursor reads does not refuse. -/
def Foreign (cursor : Cursor) : Prop :=
  ∀ result, cursor.result? = some result → result.Foreign

/-- Reading does not end by a refusal, as long as the result of the cursor does not refuse. -/
def Ends (action : Reading α) : Prop :=
  ∀ cursor, Foreign cursor → Unrefused (fun _ => True) (action cursor).1 ∧ Foreign (action cursor).2

/-- What a sequence of readings does is what its steps do. -/
theorem bind_apply (action : Reading α) (next : α → Reading β) (cursor : Cursor) :
    (action >>= next) cursor = match action cursor with
      | (.ok value, later) => next value later
      | (.error failure, later) => (.error failure, later) := by
  change StateT.bind action (ExceptT.bindCont next) cursor = _
  unfold StateT.bind
  cases action cursor with
  | mk outcome later => cases outcome <;> rfl

/-- What follows a look at the cursor knows it. -/
theorem get_bind_apply (next : Cursor → Reading β) (cursor : Cursor) :
    (get >>= next : Reading β) cursor = next cursor cursor := rfl

theorem ends_pure (value : α) : (pure value : Reading α).Ends := fun _ foreign => ⟨trivial, foreign⟩

theorem Ends.bind {action : Reading α} {next : α → Reading β} (first : action.Ends)
    (second : ∀ value, (next value).Ends) : (action >>= next).Ends := by
  intro cursor foreign
  obtain ⟨begun, kept⟩ := first cursor foreign
  rw [bind_apply]
  cases ran : action cursor with
  | mk outcome later =>
    rw [ran] at begun kept
    cases outcome with
    | ok value => exact second value later kept
    | error failure => exact ⟨begun, kept⟩

/-- What follows may look at the cursor. -/
theorem ends_get_bind {next : Cursor → Reading β}
    (ends : ∀ cursor, Foreign cursor → Unrefused (fun _ => True) (next cursor cursor).1 ∧
      Foreign (next cursor cursor).2) : (get >>= next : Reading β).Ends := by
  intro cursor foreign
  rw [get_bind_apply]
  exact ends cursor foreign

theorem finish_ends : Cursor.finish.Ends := fun _ foreign => ⟨trivial, foreign⟩

theorem free_ends : Cursor.free.Ends := by
  refine ends_get_bind fun cursor foreign => ?_
  split
  · exact ⟨trivial, foreign⟩
  cases known : cursor.result? with
  | none => exact ⟨trivial, fun _ wrong => nomatch wrong⟩
  | some result =>
    have kept : ∀ other, some result = some other → other.Foreign := known ▸ foreign
    cases closes : result.closeFault? with
    | none =>
      dsimp only
      rw [closes]
      exact ⟨trivial, kept⟩
    | some failure =>
      dsimp only
      rw [closes]
      exact ⟨(kept result rfl).closes failure closes, kept⟩

theorem pull_ends : Cursor.pull.Ends := by
  refine ends_get_bind fun cursor foreign => ?_
  cases source : cursor.source with
  | exhausted => exact ⟨trivial, foreign⟩
  | given rows => cases rows with
    | nil => exact ⟨trivial, foreign⟩
    | cons row rest => exact ⟨trivial, foreign⟩
  | result => cases known : cursor.result? with
    | none => exact finish_ends cursor foreign
    | some result =>
      obtain ⟨rows, closes⟩ := foreign result known
      dsimp only
      split
      · cases read : result.rows with
        | nil => exact free_ends.bind (fun _ => ends_pure none) cursor foreign
        | cons row rest =>
          rw [read] at rows
          obtain ⟨first, others⟩ := List.forall_mem_cons.mp rows
          have kept : ∀ other, some { result with rows := rest } = some other → other.Foreign := by
            rintro _ ⟨⟩
            exact ⟨others, closes⟩
          cases row with
          | error failure => exact ⟨first, kept⟩
          | ok row => exact ⟨trivial, kept⟩
      · exact finish_ends cursor foreign

theorem collected_ends {step : Reading (Option Row)} (ends : step.Ends) (count : Nat) :
    (Cursor.collected step count).Ends := by
  induction count with
  | zero => exact ends_pure []
  | succ count inductionHypothesis =>
    refine ends.bind fun row => ?_
    cases row with
    | none => exact ends_pure []
    | some row => exact inductionHypothesis.bind fun rows => ends_pure _

theorem window_unrefused (filter : RowFilter) : Unrefused (fun _ => True) filter.window := by
  have start : Unrefused (fun _ => True) RowFilter.window.badStart :=
    Failure.not_isRefusal_fault _ _
  unfold RowFilter.window
  cases filter.take with
  | none =>
    dsimp only
    split
    · exact start
    · trivial
  | some take =>
    dsimp only
    split
    · exact Failure.not_isRefusal_fault _ _
    · split
      · exact start
      · trivial

/-- The bounds of a row filter are no reason to refuse. -/
theorem windowed_ends (filter? : Option RowFilter) :
    (match filter? with
      | none => pure ()
      | some filter => match filter.window with
        | .ok window => modify fun cursor => { cursor with window? := some window }
        | .error failure => throw failure : Reading Unit).Ends := by
  cases filter? with
  | none => exact ends_pure ()
  | some filter =>
    have known := window_unrefused filter
    dsimp only
    cases ended : filter.window with
    | ok window => exact fun _ foreign => ⟨trivial, foreign⟩
    | error failure =>
      rw [ended] at known
      exact fun _ foreign => ⟨known, foreign⟩

theorem Ends.not_refused {action : Reading α} (ends : action.Ends) {cursor : Cursor}
    (foreign : Foreign cursor) {failure : Failure} (refused : failure.IsRefusal) :
    (action cursor).1 ≠ .error failure := by
  intro ended
  have known := (ends cursor foreign).1
  rw [ended] at known
  exact known refused

/-- When making a cursor ready ends by a refusal, its rows could not be reshaped. -/
theorem prepare_refuses {cursor : Cursor} (foreign : Foreign cursor) {failure : Failure}
    (refused : failure.IsRefusal) (ended : (Cursor.prepare cursor).1 = .error failure) :
    ∃ reshape rows, cursor.plan.reshape = some reshape ∧
      (reshape rows).result = .error failure := by
  have windowed := windowed_ends cursor.plan.rowFilter
  rw [Cursor.prepare, get_bind_apply] at ended
  cases given : cursor.plan.staticRows with
  | some rows =>
    have placed : (set { cursor with source := RowSource.given rows } : Reading Unit).Ends :=
      fun _ _ => ⟨trivial, foreign⟩
    rw [given] at ended
    exact absurd ended ((placed.bind fun _ => windowed).not_refused foreign refused)
  | none => cases reshaped : cursor.plan.reshape with
    | none =>
      rw [given, reshaped] at ended
      exact absurd ended (windowed.not_refused foreign refused)
    | some reshape =>
      rw [given, reshaped] at ended
      dsimp only at ended
      rw [bind_apply] at ended
      have collects := collected_ends pull_ends (cursor.remaining + 1) cursor foreign
      cases collected : Cursor.collected Cursor.pull (cursor.remaining + 1) cursor with
      | mk outcome later =>
        rw [collected] at ended collects
        cases outcome with
        | error other =>
          obtain rfl := Except.error.inj ended
          exact absurd refused collects.1
        | ok rows =>
          refine ⟨reshape, rows, rfl, ?_⟩
          dsimp only at ended
          cases result : (reshape rows).result with
          | error other =>
            rw [result] at ended
            exact congrArg Except.error (Except.error.inj ended)
          | ok reshaped =>
            have placed : (modify fun cursor =>
                { cursor with source := RowSource.given reshaped } : Reading Unit).Ends :=
              fun _ foreign => ⟨trivial, foreign⟩
            rw [result] at ended
            exact absurd ended ((placed.bind fun _ => windowed).not_refused collects.2 refused)

end Reading

namespace Session

open Acting

variable {σ : Type} {server : Server σ} {session : Session} {primary engines : Nat}

/-- Statements ended so far without a refusal, and in the end all of them are counted. -/
structure Progress.Foreign (progress : Progress) (total : Nat) : Prop where
  outcome : Unrefused (fun result? => ∀ result, result? = some result → result.Foreign)
    progress.outcome
  whole : ∀ result?, progress.outcome = .ok result? → progress.completed = total

/-- A failure that is none of this library's refusals ends the statements. -/
theorem Progress.foreign_failed {completed total : Nat} {failure : Failure}
    (own : ¬failure.IsRefusal) : Progress.Foreign ⟨completed, .error failure⟩ total :=
  ⟨own, fun _ wrong => nomatch wrong⟩

/-- Running statements does not end by a refusal, and neither does the last result. -/
theorem runStatements_ends (foreign : server.Foreign) (stream : Bool) (completed : Nat)
    (statements : List Statement) :
    (runStatements server stream completed statements).Ends fun progress =>
      progress.Foreign (completed + statements.length) := by
  induction statements generalizing completed with
  | nil => exact ends_pure ⟨nofun, fun _ _ => rfl⟩
  | cons statement rest inductionHypothesis =>
    have executed := fun stream => (Connection.execute_ends foreign statement stream).outcome
    cases rest with
    | nil =>
      refine (executed stream).bind fun ending known => ?_
      cases ending with
      | error failure => exact ends_pure (Progress.foreign_failed known)
      | ok result =>
        have last : ∀ other, some result = some other → other.Foreign := by
          rintro _ ⟨⟩
          exact known
        exact ends_pure ⟨last, fun _ _ => rfl⟩
    | cons next others =>
      refine (executed false).bind fun ending known => ?_
      cases ending with
      | error failure => exact ends_pure (Progress.foreign_failed known)
      | ok result =>
        refine (closeResult_ends known).outcome.bind fun closing closed => ?_
        cases closing with
        | error failure => exact ends_pure (Progress.foreign_failed closed)
        | ok _ =>
          have order : completed + 1 + (next :: others).length =
              completed + (statement :: next :: others).length := by
            simp only [List.length_cons]
            omega
          rw [← order]
          exact inductionHypothesis (completed + 1)

theorem not_isRefusal_planFailure (plan : Plan) (completed : Nat) {failure : Failure}
    (own : ¬failure.IsRefusal) : ¬(planFailure plan completed failure).IsRefusal := by
  unfold planFailure
  dsimp only
  split
  · split
    · exact own
    · exact Failure.not_isRefusal_of_execution rfl
  · exact Failure.not_isRefusal_of_execution rfl

/-- When running a plan ends by a refusal, all of its statements were sent and counted, and then
their rows could not be reshaped. -/
theorem runPlan_refuses {number : Nat} (foreign : server.Foreign)
    (isOn : session.active.connection.On number)
    (spoken : session.active.connection.dialect = session.dialect) (plan : Plan) :
    (runPlan server plan).Tells session engines fun outcome after _ added =>
      ∀ failure, outcome = .error failure → failure.IsRefusal →
        after = session.recorded plan plan.statements.length true ∧
        Served number session.dialect plan.statements added ∧
        ∃ reshape rows, plan.reshape = some reshape ∧ (reshape rows).result = .error failure := by
  refine tells_this_bind ?_
  have ends := runStatements_ends foreign session.state.largeResults 0 plan.statements
  refine ((Ends.within (Ends.within ends)).tells
    (statements_tell isOn spoken server _ plan.statements)).bind
    (fun _ _ _ _ told => nomatch told.2.2.choose_spec.1) ?_
  rintro progress after later added ⟨known, rfl, _, ⟨⟩, rfl, sent, -, served, whole⟩
  refine tells_change_bind ?_
  obtain ⟨known, counted⟩ := known
  cases ended : progress.outcome with
  | error failure =>
    rw [ended] at known
    dsimp only
    split
    · refine tells_throw ?_
      rintro _ ⟨⟩ refused
      exact absurd refused known
    · refine tells_raise ?_
      rintro _ ⟨⟩ refused
      exact absurd refused (not_isRefusal_planFailure plan _ known)
  | ok result? =>
    obtain rfl := whole result? ended
    have all : progress.completed = plan.statements.length :=
      (counted result? ended).trans (Nat.zero_add _)
    rw [ended] at known
    have reads : Reading.Foreign { plan, result? } := known
    refine (reading_tells Cursor.prepare { plan, result? }).apartBind ?_
    rintro ending cursor final more ⟨prepares, -, closings, rfl⟩
    refine tells_settle_bind ?_ fun _ _ => tells_pure fun _ wrong => nomatch wrong
    rintro failure rfl _ ⟨⟩ refused
    refine ⟨?_, ?_, Reading.prepare_refuses reads refused prepares.symm⟩
    · rw [all]
      rfl
    · have closed := served.append (served_closings closings)
      rwa [List.append_nil] at closed ⊢

/-- What became of a session whose command was halted before it was sent: nothing, or the master was
opened for it. -/
inductive Halted (command : Command) (before : Session) (engines : Nat) :
    Session → Nat → List Event → Prop
  | idle : Halted command before engines before engines []
  | opening {ending : Except Failure Unit} {after : Session} {later : Nat} {added : List Event}
      (writes : command.tag.isWrite = true)
      (opens : before.Opening engines ending after later added) :
      Halted command before engines after later added

/-- A table was to be shown and its server described the columns, of which no text could be made
then. The statement is counted as one that succeeded; nothing else was sent or changed. -/
structure DescribedInVain (showing : ShowCreateTable) (failure : Failure) (before after : Session)
    (added : List Event) : Prop where
  family : before.dialect.family = .postgresql ∨ before.dialect.family = .mssql
  /-- The name of the table, or one of a described column, is unacceptable. -/
  unwritten : ∃ rows,
    (tableCreation showing.name before.dialect.table.identifierQuote rows).result = .error failure
  described : ∃ schema number, before.active.connection.On number ∧
    Served number before.dialect (describingPlan before.dialect showing.name schema).statements
      added
  counted : after = { before with statistics := before.statistics.record {
    command := Tag.showCreateTable.spelling
    dialect := before.dialect.name
    route := before.active.name
    statements := 1
    success := true } }

/-- A command that is compiled without asking the server leaves the session and every server. -/
theorem compileLive_idle {command : Command} (direct : ¬command.Rebuilds session.dialect) :
    (compileLive server command).Tells session engines fun outcome after later added =>
      after = session ∧ later = engines ∧ added = [] ∧ ∀ plan, outcome = .ok plan →
        plan.tag = some command.tag ∧ (plan.Sure ∨ plan.Describes session.dialect command) := by
  refine tells_this_bind (tells_report_bind (fun failure => ?_) fun compilation compiles => ?_)
  · exact ⟨rfl, rfl, rfl, fun _ wrong => nomatch wrong⟩
  · obtain ⟨plan, rfl, shape⟩ := compile_shape (.inr direct) compiles
    refine tells_pure ⟨rfl, rfl, rfl, ?_⟩
    rintro _ ⟨⟩
    exact shape

/-- When a command is refused, nothing happened but that the master was opened for it, or else a
table was described. -/
theorem perform_refuses (standing : session.Standing primary engines) (foreign : server.Foreign)
    {command : Command} (direct : ¬command.Rebuilds session.dialect) :
    (perform server command).Tells session engines fun outcome after later added =>
      ∀ failure, outcome = .error failure → failure.IsRefusal →
        Halted command session engines after later added ∨
          ∃ showing, command = .showCreateTable showing ∧
            DescribedInVain showing failure session after added := by
  refine (route_tells server command).bind ?_ ?_
  · rintro failure after later added ⟨writes, opening⟩ _ ⟨⟩ -
    exact .inl (.opening writes opening)
  rintro ⟨⟩ after later added routes
  obtain ⟨number, isOn, -, spoken⟩ := (standing.routed routes).active
  refine (compileLive_idle (routes.told.1.symm ▸ direct)).bind ?_ ?_
  · rintro failure last final more ⟨rfl, rfl, rfl, -⟩ _ - -
    rw [List.append_nil]
    cases routes with
    | write writes opening => exact .inl (.opening writes opening)
    | read reads => exact .inl .idle
  · rintro plan last final more ⟨rfl, rfl, rfl, shape⟩
    obtain ⟨tagged, shape⟩ := shape plan rfl
    refine (runPlan_refuses foreign isOn spoken plan).bind ?_ ?_
    · rintro failure last final others refuses _ ⟨⟩ refused
      obtain ⟨rfl, served, reshape, rows, reshaped, failed⟩ := refuses failure rfl refused
      rcases shape with sure | ⟨showing, schema, rfl, family, single, described⟩
      · exact absurd failed (sure reshape reshaped rows failure)
      -- Showing a table is no write, so the session is the one that the command began with.
      cases routes with
      | write writes opening => cases writes
      | read reads =>
        obtain rfl : reshape = _ := Option.some.inj (reshaped.symm.trans described)
        rw [single] at served
        refine .inr ⟨showing, rfl, family, ⟨rows, failed⟩, ⟨schema, number, isOn, ?_⟩, ?_⟩
        · exact served
        · rw [single]
          simp only [recorded, operationOf, tagged]
          rfl
    · rintro cursor last final others -
      exact tells_change_bind (tells_pure fun _ wrong => nomatch wrong)

end Session

namespace Operation

open Acting Session

variable {σ : Type} {server : Server σ} {session : Session} {primary engines : Nat}

/-- The operation executes a command. -/
def Executes : Operation → Prop
  | execute _ _ _ | executeCommand _ _ => True
  | _ => False

/-- An operation that ends by a refusal did nothing, or only had the master opened, or had a table
described. -/
def Spares {α : Type} (operation : Operation) (before : Session) (engines : Nat) :
    Story Session α := fun outcome after later added =>
  ∀ failure, outcome = .error failure → failure.IsRefusal →
    (after = before ∧ added = []) ∨ ∃ command, operation.command? = some command ∧
      (Halted command before engines after later added ∨
        ∃ showing, command = .showCreateTable showing ∧
          DescribedInVain showing failure before after added)

theorem act_spares (standing : session.Standing primary engines) (foreign : server.Foreign)
    {operation : Operation} (executes : operation.Executes)
    (direct : ∀ command, operation.command? = some command →
      ¬command.Rebuilds session.dialect) :
    (operation.act server).Tells session engines (operation.Spares session engines) := by
  have performed : ∀ {command : Command}, operation.command? = some command →
      (perform server command).Tells session engines (operation.Spares session engines) := by
    intro command asked
    refine (perform_refuses standing foreign (direct command asked)).imp ?_
    intro outcome after later added refuses failure ended refused
    exact .inr ⟨command, asked, refuses failure ended refused⟩
  have discarded : ∀ {action : Acting σ Session Cursor},
      action.Tells session engines (operation.Spares session engines) →
      (action >>= fun _ => pure ()).Tells session engines (operation.Spares session engines) := by
    intro action tells
    refine tells.bind ?_ fun _ _ _ _ _ => tells_pure fun _ wrong => nomatch wrong
    rintro failure after later added told _ ⟨⟩ refused
    exact told failure rfl refused
  cases operation with
  | execute tag payload args =>
    refine discarded (tells_this_bind (Tells.traced (tells_parse_bind ?_ ?_)))
    · exact fun _ _ _ _ _ => .inl ⟨rfl, rfl⟩
    · exact fun command asked => performed asked
  | executeCommand command args => exact discarded (tells_this_bind (performed rfl).traced)
  | insertId => cases executes
  | useMaster => cases executes
  | control control => cases executes
  | setLargeResults enabled => cases executes

end Operation

/-- An operation left every connection alone that was open before it. -/
structure Entry.Untouched (primary : Nat) (entry : Entry) : Prop where
  /-- The primary stays as it is, and so does what the session remembers and what it counts. -/
  kept : entry.after = { entry.before with master? := entry.after.master? }
  /-- Nothing happens at all, unless a write has to have the master opened. -/
  idle : (entry.operation.Writes → entry.before.master? = none →
    entry.before.masterSettings? = none) → entry.after = entry.before ∧ entry.events = []
  /-- What happens is about one engine, which is not that of the primary. -/
  fresh : ∃ engine, engine ≠ primary ∧ ∀ event ∈ entry.events, event.Concerns engine

/-- A table was to be shown, and its server described it in vain. -/
def Entry.DescribedInVain (entry : Entry) (failure : Failure) : Prop :=
  ∃ showing, entry.operation.command? = some (.showCreateTable showing) ∧
    Session.DescribedInVain showing failure entry.before entry.after entry.events

/-- What became of a session whose command was halted leaves the connections alone. -/
theorem Operation.Spares.untouched {operation : Operation} {outcome : Except Failure Unit}
    {failure : Failure} {before after : Session} {primary engines later : Nat}
    {earlier events : List Event} (standing : before.Standing primary engines)
    (spares : operation.Spares before engines outcome after later events)
    (ended : outcome = .error failure) (refused : failure.IsRefusal) :
    Entry.Untouched primary { operation, outcome, before, after, earlier, events } ∨
      Entry.DescribedInVain { operation, outcome, before, after, earlier, events } failure := by
  have other : engines ≠ primary := Nat.ne_of_gt standing.known
  have idle : Entry.Untouched primary
      { operation, outcome, before, after := before, earlier, events := [] } :=
    ⟨rfl, fun _ => ⟨rfl, rfl⟩, engines, other, fun _ member => nomatch member⟩
  rcases spares failure ended refused with
    ⟨rfl, rfl⟩ | ⟨command, asked, halted | ⟨showing, rfl, described⟩⟩
  · exact .inl idle
  · refine .inl ?_
    cases halted with
    | idle => exact idle
    | opening writes opens => cases opens with
      | idle settled => exact idle
      | failed closed configured concerns =>
        refine ⟨rfl, fun unreachable => ?_, engines, other, concerns⟩
        cases configured.symm.trans (unreachable ⟨command, asked, writes⟩ closed)
      | opened closed configured replays served =>
        refine ⟨rfl, fun unreachable => ?_, engines, other, fun event member => ?_⟩
        · cases configured.symm.trans (unreachable ⟨command, asked, writes⟩ closed)
        · rcases List.mem_cons.mp member with rfl | member
          · rfl
          rcases List.mem_cons.mp member with rfl | member
          · rfl
          · exact (served.serves event member).concerns
  · exact .inr ⟨showing, asked, described⟩

/-- In a run from a session that stands, refused commands leave the connections alone, but that a
table may have been described. -/
theorem journal_untouched {σ : Type} {server : Server σ} (foreign : server.Foreign)
    {session : Session} {world : World σ} {primary : Nat}
    (standing : session.Standing primary world.engines) (operations : List Operation) :
    ∀ entry ∈ journal server operations (session, world), entry.operation.Executes →
      (∀ command, entry.operation.command? = some command →
        ¬command.Rebuilds session.dialect) →
      ∀ failure, entry.outcome = .error failure → failure.IsRefusal →
        entry.Untouched primary ∨ entry.DescribedInVain failure := by
  induction operations generalizing session world with
  | nil => exact fun _ member => nomatch member
  | cons operation rest inductionHypothesis =>
    obtain ⟨outcome, after, added, later, ran, same, events, stands, step⟩ :=
      journal_cons server standing operation rest
    rw [same]
    intro entry member
    rcases List.mem_cons.mp member with rfl | following
    · intro executes direct failure ended refused
      obtain ⟨_, _, own, _, again, ownEvents, spares⟩ :=
        Operation.act_spares standing foreign executes direct world rfl
      cases ran.symm.trans again
      obtain rfl : added = own := List.append_cancel_left (events.symm.trans ownEvents)
      exact spares.untouched standing ended refused
    · have kept := inductionHypothesis stands entry following
      rwa [step.settings_eq.1] at kept

/-- In every run, a command that is refused reaches no connection that is open: the session stays as
it was and nothing is sent, but that a write has the master opened before it is refused. Only a
table that its server describes may be refused after that; then one statement more is counted, and
nothing else has changed. The removal of a column that has the table made anew is left out.

Proof: running the statements of a plan never ends by a refusal, whatever foreign servers answer. So
a refusal comes from the reading, the routing or the compiling of a command, of which only routing
sends, or from the reshaping of the rows, which can fail for no other command. -/
theorem refusals_spare_connections {σ : Type} (server : Server σ) (foreign : server.Foreign)
    (settings : Settings) (world started : World σ) (session : Session)
    (connected : (Session.connect server settings : Acting σ Unit Session) ((), world) =
      (.ok session, (), started)) (operations : List Operation) :
    ∃ primary, session.primary.connection.On primary ∧
      ∀ entry ∈ journal server operations (session, started), entry.operation.Executes →
        (∀ command, entry.operation.command? = some command →
          ¬command.Rebuilds session.dialect) →
        ∀ failure, entry.outcome = .error failure → failure.IsRefusal →
          entry.Untouched primary ∨ entry.DescribedInVain failure := by
  obtain ⟨dialect, -, rfl, standing, -⟩ := Session.connected_eq connected
  exact ⟨world.engines, ⟨rfl, rfl⟩, journal_untouched foreign standing operations⟩

theorem Server.silent_foreign : Server.silent.Foreign where
  connects _ _ := trivial
  executes _ _ _ := ⟨fun _ member => (nomatch member), fun _ wrong => nomatch wrong⟩

/-- A server whose answers are rows never refuses a command. -/
theorem Server.listing_foreign (rows : List Row) : (Server.listing rows).Foreign where
  connects _ _ := trivial
  executes _ _ _ := by
    refine ⟨fun row member => ?_, fun _ wrong => nomatch wrong⟩
    obtain ⟨_, -, rfl⟩ := List.mem_map.mp member
    trivial

/-- A table without a name is to be emptied. -/
def namelessTruncation : Operation := .executeCommand (.truncateTable { tables := [""] }) []

/-- A table is to be shown of whose name one part is missing. -/
def namelessShowing : Operation := .executeCommand (.showCreateTable { name := "app..t" }) []

theorem namelessTruncation_direct (command : Command)
    (asked : namelessTruncation.command? = some command) :
    ¬command.Rebuilds Family.mysql.dialect := by
  cases asked
  exact id

theorem namelessShowing_direct (command : Command)
    (asked : namelessShowing.command? = some command) :
    ¬command.Rebuilds Family.postgresql.dialect := by
  cases asked
  exact id

/-- A server with one column to describe. -/
def Server.describing : Server Unit :=
  Server.listing [[("column_name", .text "a"), ("data_type", .text "text")]]

/-- One server that describes tables. -/
def describedServer : Settings where
  dsn := "postgresql://reads/"

/-- A world in which a session on that server was opened. -/
def describedWorld : World Unit where
  memory := ()
  engines := 1
  events := [.created 0 (Session.engineSettings describedServer "postgresql://reads/"),
    .connected 0]

theorem describedServer_connected :
    (Session.connect Server.describing describedServer : Acting Unit Unit Session)
      ((), { memory := () }) =
      (.ok (Session.connectedOn describedServer Family.postgresql.dialect 0), (),
        describedWorld) := rfl

/-- Emptying a table without a name has the master opened, although it is refused. Showing one is
refused after the server described it. -/
theorem namelessCommands_refused :
    (Server.silent.Foreign ∧
      (Session.connect Server.silent twoServers : Acting Unit Unit Session) ((), { memory := () }) =
        (.ok (Session.connectedOn twoServers Family.mysql.dialect 0), (), begunWorld) ∧
      namelessTruncation.Executes ∧
      (∀ command, namelessTruncation.command? = some command →
        ¬command.Rebuilds Family.mysql.dialect) ∧
      ∃ primary,
        (Session.connectedOn twoServers Family.mysql.dialect 0).primary.connection.On primary ∧
        ∃ entry ∈ journal Server.silent [namelessTruncation]
            (Session.connectedOn twoServers Family.mysql.dialect 0, begunWorld),
          ∃ failure, entry.outcome = .error failure ∧ failure.IsRefusal ∧
            entry.Untouched primary ∧ entry.events ≠ []) ∧
    Server.describing.Foreign ∧
      (Session.connect Server.describing describedServer : Acting Unit Unit Session)
        ((), { memory := () }) =
        (.ok (Session.connectedOn describedServer Family.postgresql.dialect 0), (),
          describedWorld) ∧
      namelessShowing.Executes ∧
      (∀ command, namelessShowing.command? = some command →
        ¬command.Rebuilds Family.postgresql.dialect) ∧
      ∃ entry ∈ journal Server.describing [namelessShowing]
          (Session.connectedOn describedServer Family.postgresql.dialect 0, describedWorld),
        ∃ failure, entry.outcome = .error failure ∧ failure.IsRefusal ∧
          entry.DescribedInVain failure := by
  have showing : Server.describing.Foreign := Server.listing_foreign _
  refine ⟨⟨Server.silent_foreign, twoServers_connected, trivial, namelessTruncation_direct, ?_⟩,
    showing, describedServer_connected, trivial, namelessShowing_direct, ?_⟩
  · obtain ⟨primary, isOn, spares⟩ := refusals_spare_connections Server.silent Server.silent_foreign
      twoServers { memory := () } begunWorld _ twoServers_connected [namelessTruncation]
    obtain ⟨entry, failure, single, own, ended, refused, sent⟩ : ∃ entry failure,
        journal Server.silent [namelessTruncation]
          (Session.connectedOn twoServers Family.mysql.dialect 0, begunWorld) = [entry] ∧
        entry.operation = namelessTruncation ∧ entry.outcome = .error failure ∧
        failure.IsRefusal ∧ entry.events ≠ [] :=
      ⟨_, _, rfl, rfl, rfl, .inl rfl, List.cons_ne_nil _ _⟩
    have member : entry ∈ journal Server.silent [namelessTruncation]
        (Session.connectedOn twoServers Family.mysql.dialect 0, begunWorld) :=
      single ▸ List.mem_singleton_self entry
    refine ⟨primary, isOn, entry, member, failure, ended, refused, ?_, sent⟩
    rcases spares entry member (own ▸ trivial) (own ▸ namelessTruncation_direct) failure ended
      refused with untouched | ⟨_, asked, -⟩
    · exact untouched
    · rw [own] at asked
      cases asked
  · obtain ⟨primary, -, spares⟩ := refusals_spare_connections Server.describing showing
      describedServer { memory := () } describedWorld _ describedServer_connected [namelessShowing]
    obtain ⟨entry, failure, single, own, ended, refused, counted⟩ : ∃ entry failure,
        journal Server.describing [namelessShowing]
          (Session.connectedOn describedServer Family.postgresql.dialect 0, describedWorld) =
            [entry] ∧
        entry.operation = namelessShowing ∧ entry.outcome = .error failure ∧
        failure.IsRefusal ∧ entry.after.statistics.count ≠ entry.before.statistics.count :=
      ⟨_, _, rfl, rfl, rfl, .inl rfl, Nat.one_ne_zero⟩
    have member : entry ∈ journal Server.describing [namelessShowing]
        (Session.connectedOn describedServer Family.postgresql.dialect 0, describedWorld) :=
      single ▸ List.mem_singleton_self entry
    refine ⟨entry, member, failure, ended, refused, ?_⟩
    refine (spares entry member (own ▸ trivial) (own ▸ namelessShowing_direct) failure ended
      refused).resolve_left fun untouched => counted ?_
    rw [untouched.kept]

end PortableSql
