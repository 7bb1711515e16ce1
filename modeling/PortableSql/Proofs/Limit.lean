import Mathlib.Data.List.TakeWhile
import PortableSql.Proofs.Acceptance
import PortableSql.Proofs.Window

/-!
# Limits that the cursor applies

Where a dialect cannot limit rows, the limit of a select becomes a row filter, and the cursor hands
out the rows that a limit in the statement would have left. Both take their numbers from the same
place: from the limit of the select itself and from the last of its arguments. The cursor counts
rows up to a greatest position only; a limit that ends behind it fails as soon as the statement ran.
-/

namespace PortableSql

/-! ## The numbers of a limit -/

/-- Nothing in the limit is negative. -/
def Limit.Unsigned : Limit → Prop
  | count rows => 0 ≤ rows
  | written limit => '-' ∉ limit.toList

namespace Select

/-- The arguments that the limit of a select consumes, which are its last ones. -/
def limitArguments (select : Select) : List Value :=
  select.args.drop (select.args.length - (limitLandings select.limit).length)

/-- The offset and the count that limit a select. -/
def limitNumbers (select : Select) : Option (Int × Int) :=
  match (readLimit select.limit).finish select.limitArguments "SELECT" with
  | .ok numbers => numbers
  | .error _ => none

/-- The select without its limit and the arguments of this. -/
def unlimited (select : Select) : Select :=
  { select with
    args := select.args.take (select.args.length - (limitLandings select.limit).length)
    limit := none }

end Select

/-- A statement that is limited by its text. -/
def Statement.limited (statement : Statement) (offset count : Int) : Statement :=
  { statement with sql := statement.sql ++ standardLimit offset count }

/-- A plan with a limit: in the text where the dialect has it, and for the cursor elsewhere. -/
def Plan.limited (dialect : Dialect) (plan : Plan) : Option (Int × Int) → Plan
  | none => plan
  | some (offset, count) =>
    if dialect.table.limitSyntax = .limitOffset then
      { plan with statements := plan.statements.map (·.limited offset count) }
    else { plan with rowFilter := some { skip := offset, take := some count } }

/-- A numeral without a minus is not negative. -/
theorem Text.integer_nonneg {text : String} {number : Int}
    (read : Text.integer text = .ok number) (unsigned : '-' ∉ text.toList) : 0 ≤ number := by
  have positive : (splitSign (trimPadding text.toList)).1 = false := by
    have free : '-' ∉ trimPadding text.toList := by
      intro member
      rw [trimPadding, List.mem_reverse] at member
      have kept := (List.dropWhile_sublist _).mem member
      rw [List.mem_reverse] at kept
      exact unsigned ((List.dropWhile_sublist _).mem kept)
    unfold splitSign
    split
    case h_1 rest same =>
      rw [same] at free
      exact absurd List.mem_cons_self free
    case h_2 => rfl
    case h_3 => rfl
  unfold Text.integer readInteger at read
  cases digits : readDigits (splitSign (trimPadding text.toList)).2 with
  | error fault => simp [digits, Except.map, Except.mapError] at read
  | ok value =>
    simp only [positive, digits, Except.map, Except.mapError, Bool.false_eq_true, if_false] at read
    cases read
    exact Int.natCast_nonneg value

theorem mem_dropWhile_or {α : Type} {item : α} {items : List α} (skip : α → Bool)
    (member : item ∈ items) : item ∈ items.dropWhile skip ∨ skip item = true := by
  rw [← List.takeWhile_append_dropWhile (p := skip) (l := items), List.mem_append] at member
  exact member.symm.imp_right fun skipped => List.mem_takeWhile_imp skipped

/-- White space apart, trimming loses no characters. -/
theorem Text.mem_trim_or_blank {character : Char} {characters : List Char}
    (member : character ∈ characters) :
    character ∈ trim characters ∨ isBlank character = true := by
  rcases mem_dropWhile_or isBlank member with kept | blank
  · rw [trim, List.mem_reverse]
    exact mem_dropWhile_or isBlank (List.mem_reverse.mpr kept)
  · exact .inr blank

/-- A count and the white space around it hold no signs. -/
theorem minus_mem_afterCount? {characters rest : List Char}
    (after : Payload.afterCount? characters = some rest) (member : '-' ∈ characters) :
    '-' ∈ rest := by
  have drop : ∀ {others : List Char} {skip : Char → Bool}, skip '-' = false → '-' ∈ others →
      '-' ∈ others.dropWhile skip := fun kept inside =>
    (mem_dropWhile_or _ inside).resolve_right (by rw [kept]; exact Bool.false_ne_true)
  have kept := drop (by decide : Text.isBlank '-' = false) member
  unfold Payload.afterCount? at after
  split at after
  case h_1 others same =>
    cases after
    rw [same] at kept
    exact drop (by decide) ((List.mem_cons.mp kept).resolve_left (by decide))
  case h_2 =>
    dsimp only at after
    split at after
    · cases after
      exact drop (by decide) (drop (by decide) kept)
    · cases after

theorem minus_not_mem_of_isLimitText {limit : String} (shaped : Payload.isLimitText limit = true) :
    '-' ∉ limit.toList := by
  intro member
  unfold Payload.isLimitText at shaped
  split at shaped
  case h_1 => cases shaped
  case h_2 after => cases minus_mem_afterCount? after member
  case h_3 rest after =>
    have kept := minus_mem_afterCount? after member
    exact nomatch minus_mem_afterCount? (beq_iff_eq.mp shaped)
      ((List.mem_cons.mp kept).resolve_left (by decide))
  case h_4 => cases shaped

/-- A limit that is accepted holds nothing negative. -/
theorem Limit.unsigned_of_accepted {value : Value} {limit : Limit}
    (accepted : Payload.readLimit value = .accepted (some limit)) : limit.Unsigned := by
  unfold Payload.readLimit at accepted
  split at accepted
  case h_1 => cases accepted
  case h_2 => cases accepted
  case h_3 number =>
    split at accepted
    · cases accepted
    · cases accepted
      exact Int.not_lt.mp ‹_›
  case h_4 text =>
    split at accepted
    case isTrue shaped =>
      cases accepted
      intro member
      rw [Text.trimmed, String.toList_ofList] at member
      exact minus_not_mem_of_isLimitText shaped ((Text.trim_sublist _).mem member)
    case isFalse => cases accepted
  case h_5 => cases accepted

theorem limitArgument_nonneg {value : Value} {number : Int}
    (read : limitArgument value = .ok number) : 0 ≤ number := by
  unfold limitArgument at read
  split at read
  case h_1 digits =>
    split at read
    case isTrue known =>
      refine Text.integer_nonneg read fun minus => ?_
      rcases Text.mem_trim_or_blank minus with inside | blank
      · have digit := List.all_eq_true.mp (Bool.and_eq_true_iff.mp known).2 '-' inside
        exact absurd digit (by decide)
      · exact absurd blank (by decide)
    case isFalse => cases read
  case h_2 argument =>
    split at read
    · cases read
      assumption
    · cases read
  case h_3 => cases read

/-- The numbers of a limit without signs are not negative. -/
theorem LimitBinds.nonneg {limit : Option Limit} {consumed : List Value} {offset count : Int}
    (binds : LimitBinds limit consumed (some (offset, count)))
    (unsigned : ∀ given, limit = some given → given.Unsigned) : 0 ≤ offset ∧ 0 ≤ count := by
  generalize same : some (offset, count) = numbers at binds
  cases binds with
  | none => cases same
  | count =>
    cases same
    exact ⟨Int.le_refl 0, unsigned _ rfl⟩
  | written sequence =>
    rename_i limit numbers
    have positive : ∀ number ∈ numbers, 0 ≤ number := by
      have free : ∀ part ∈ limitParts limit, '-' ∉ part := by
        intro part member inside
        obtain ⟨whole, cut, rfl⟩ := List.mem_map.mp member
        exact unsigned _ rfl (Text.mem_of_mem_cut cut ((Text.trim_sublist _).mem inside))
      generalize limitParts limit = parts at sequence free
      clear same
      induction sequence with
      | nil => exact fun _ wrong => nomatch wrong
      | cons first _ inductionHypothesis =>
        obtain ⟨freeFirst, freeRest⟩ := List.forall_mem_cons.mp free
        refine List.forall_mem_cons.mpr ⟨?_, inductionHypothesis freeRest⟩
        cases first with
        | written _ read =>
          refine Text.integer_nonneg read ?_
          rwa [String.toList_ofList]
        | argument read => exact limitArgument_nonneg read
    rcases numbers with _ | ⟨first, _ | ⟨second, others⟩⟩
    · cases same
    · cases same
      exact ⟨Int.le_refl 0, positive _ List.mem_cons_self⟩
    · cases same
      exact ⟨positive _ List.mem_cons_self, positive _ (List.mem_cons_of_mem _ List.mem_cons_self)⟩

/-- The numbers of a select are read from the last of its arguments. -/
theorem LimitBinds.limitNumbers_eq {select : Select} {clauses consumed : List Value}
    {numbers : Option (Int × Int)} (given : select.args = clauses ++ consumed)
    (binds : LimitBinds select.limit consumed numbers) :
    clauses = select.unlimited.args ∧ select.limitNumbers = numbers := by
  have position : select.args.length - (limitLandings select.limit).length = clauses.length := by
    rw [given, List.length_append, binds.length_eq, Nat.add_sub_cancel]
  constructor
  · change clauses = select.args.take _
    rw [position, given, List.take_left]
  · unfold Select.limitNumbers Select.limitArguments
    rw [position, given, List.drop_left, (readLimit_exactly select.limit).finish.mpr binds]

/-- A select that is written is written without its limit, and then limited. -/
theorem selectLine_limited {dialect : Dialect} {nested : Bool} {into : Option String}
    {select : Select} {written : Line × Option RowFilter}
    (ended : selectLine dialect nested into select = .ok written) :
    ∃ body consumed, LimitBinds select.limit consumed select.limitNumbers ∧
      selectLine dialect nested into select.unlimited = .ok (body, none) ∧
      written = limited dialect nested body select.limitNumbers := by
  obtain ⟨clauses, consumed, body, numbers, given, binds, limits, -, same⟩ :=
    assembledLine_ok.mp ended
  obtain ⟨rest, rfl⟩ := limits.limitNumbers_eq given
  refine ⟨body, consumed, limits, assembledLine_ok.mpr ?_, same⟩
  exact ⟨clauses, [], body, none, by rw [List.append_nil, rest], binds, .none, trivial, rfl⟩

/-- The plan of a select that is written as a line. -/
def Select.planOf (select : Select) (context : Context) (written : Line × Option RowFilter) :
    Plan where
  statements := [written.1.statement]
  tag := some .select
  rowFilter := written.2
  exportRows := select.exportRows
  exportHints := select.exportHints
  master := context.master

/-- A select compiles to the plan of its line. -/
theorem compile_select_eq (dialect : Dialect) (context : Context) (select : Select) :
    (compilePlan dialect (.select select) context).result =
      (selectLine dialect context.nested none select).map (select.planOf context) := by
  have written : (Command.select select).written? dialect context.nested =
      some (writtenQuery dialect context.nested select) := rfl
  rw [(compilePlan_gives dialect context _ written).result_eq, writtenQuery, Reporting.map_map]
  rfl

/-- A select compiles to the plan of the select without its limit, with the limit added. -/
theorem compileSelect_limited {dialect : Dialect} {context : Context} {select : Select}
    {plan : Plan} (top : context.nested = false)
    (compiles : (compilePlan dialect (.select select) context).result = .ok plan) :
    ∃ plain, (compilePlan dialect (.select select.unlimited) context).result = .ok plain ∧
      plain.rowFilter = none ∧ plan = plain.limited dialect select.limitNumbers := by
  rw [compile_select_eq, Reporting.map_ok] at compiles
  obtain ⟨written, ended, rfl⟩ := compiles
  obtain ⟨body, -, -, unlimited, rfl⟩ := selectLine_limited ended
  rw [compile_select_eq, unlimited]
  refine ⟨_, rfl, rfl, ?_⟩
  rw [top]
  unfold PortableSql.limited Plan.limited
  cases select.limitNumbers with
  | none => rfl
  | some numbers =>
    by_cases standard : dialect.table.limitSyntax = .limitOffset
    · simp [standard, Select.planOf, Statement.limited, Line.statement, Select.unlimited]
    · simp only [standard, if_false]
      rfl

/-! ## The rows of a limit -/

/-- The rows that a limit leaves: so many of them, after as many as its offset says. -/
def limitedRows : Option (Int × Int) → List Row → List Row
  | none, rows => rows
  | some (offset, count), rows => (rows.drop offset.toNat).take count.toNat

/-- The limit ends at a position that the cursor can count. -/
def Countable : Option (Int × Int) → Prop
  | none => True
  | some (offset, count) => offset + count ≤ Value.greatestIndex

/-- What is raised for a limit that ends behind all positions. -/
def uncountable : Failure := .fault .badValue ("Stop argument for islice() " ++ boundsRule)

/-- A limit becomes a window that begins behind its offset, unless it ends behind all positions. -/
theorem RowFilter.window_of_limit {offset count : Int} (begins : 0 ≤ offset) (counts : 0 ≤ count) :
    window { skip := offset, take := some count } =
      if offset + count ≤ Value.greatestIndex then
        .ok { skip := offset.toNat, left := some count.toNat }
      else .error uncountable := by
  have positive : -Value.greatestIndex - 1 ≤ offset + count := by
    have : 0 ≤ Value.greatestIndex := by decide
    omega
  unfold window
  by_cases within : offset + count ≤ Value.greatestIndex
  · have inside : ¬(offset + count = -1 ∨ offset + count < -Value.greatestIndex - 1 ∨
        Value.greatestIndex < offset + count) := by omega
    have placed : ¬(offset + count < 0 ∨ offset < 0 ∨ Value.greatestIndex < offset) := by omega
    simp only [window.misplaced, Bool.or_eq_true, decide_eq_true_eq, or_assoc, inside, placed,
      within, if_true, if_false]
    have left : offset + count - offset = count := by omega
    rw [left]
  · have outside : offset + count = -1 ∨ offset + count < -Value.greatestIndex - 1 ∨
        Value.greatestIndex < offset + count := by omega
    simp only [Bool.or_eq_true, decide_eq_true_eq, or_assoc, outside, within, if_true, if_false]
    rfl

/-- From a result, the cursor hands out these rows and no others. -/
structure Cursor.HandsOut (cursor : Cursor) (result : ResultSet) (rows : List Row) : Prop where
  first : ∀ count ≤ rows.length, (fetchMany count cursor).1 = .ok (rows.take count)
  all : result.closeFault? = none → (fetchAll cursor).1 = .ok rows

/-- What running the statement of a select ends with, by the answer of the server: the rows of its
limit, or a failure when that cannot be counted. -/
inductive Select.Ends (select : Select) (plan : Plan) :
    Except Failure ResultSet → Except Failure Cursor → Prop
  | failed {failure} :
    Ends select plan (.error failure) (.error (Session.planFailure plan 0 failure))
  | uncountable {result} : ¬Countable select.limitNumbers →
    Ends select plan (.ok result) (.error PortableSql.uncountable)
  | ready {result cursor} : Countable select.limitNumbers →
    (∀ rows, result.rows = rows.map .ok → cursor.HandsOut result
      ((limitedRows select.limitNumbers rows).map plan.exportedRow)) →
    Ends select plan (.ok result) (.ok cursor)

/-- What a sequence ends well with comes from steps that end well. -/
theorem Acting.bind_ok {σ τ α β : Type} {action : Acting σ τ α} {next : α → Acting σ τ β}
    {state later : τ × World σ} {value : β} (ran : (action >>= next) state = (.ok value, later)) :
    ∃ first between, action state = (.ok first, between) ∧
      next first between = (.ok value, later) := by
  rw [bind_apply] at ran
  cases begun : action state with
  | mk outcome between =>
    rw [begun] at ran
    cases outcome with
    | ok first => exact ⟨first, between, rfl, ran⟩
    | error failure => cases ran

/-- Raising fails with what is raised. -/
theorem Acting.raise_apply {σ τ α : Type} (failure : Failure) (state : τ × World σ) :
    ((raise failure : Acting σ τ α) state).1 = .error failure := by
  obtain ⟨before, world⟩ := state
  rw [raise, report_apply]
  exact Reporting.gives_raise failure world.records

/-- A result that returns no rows has none. -/
theorem Connection.rows_of_execute {σ : Type} {server : Server σ} {statement : Statement}
    {stream : Bool} {state later : Connection × World σ} {result : ResultSet}
    (ran : Connection.execute server statement stream state = (.ok result, later))
    (silent : result.returnsRows = false) : result.rows = [] := by
  obtain ⟨prepared, _, -, ran⟩ := Acting.bind_ok ran
  obtain ⟨_, _, -, ran⟩ := Acting.bind_ok ran
  obtain ⟨number, _, -, ran⟩ := Acting.bind_ok ran
  obtain ⟨_, _, -, ran⟩ := Acting.bind_ok ran
  obtain ⟨answer, ⟨connection, world⟩, -, ran⟩ := Acting.bind_ok ran
  cases answer with
  | error failure =>
    exact absurd (congrArg Prod.fst ran) (by simp [Acting.raise_apply])
  | ok raw =>
    cases ran
    unfold ownResult at silent ⊢
    split
    case isTrue returns => simp [returns] at silent
    case isFalse => rfl

namespace Cursor

/-- A cursor on a result begins with the window of its row filter. -/
theorem start_windowed {plan : Plan} (plain : plan.staticRows = none ∧ plan.reshape = none)
    (result : ResultSet) :
    start plan (some result) = match plan.rowFilter with
      | none => (.ok (), { plan, result? := some result })
      | some filter => match filter.window with
        | .ok window => (.ok (), { plan, result? := some result, window? := some window })
        | .error failure => (.error failure, { plan, result? := some result }) := by
  obtain ⟨statements, tag, rowFilter, reshape, staticRows, rows, hints, master⟩ := plan
  obtain ⟨rfl, rfl⟩ := plain
  cases rowFilter with
  | none => rfl
  | some filter =>
    rw [start, prepare, Reading.get_bind_apply]
    dsimp only
    cases filter.window <;> rfl

end Cursor

namespace Session

variable {σ : Type} {server : Server σ} {session : Session} {world : World σ}

/-- What is done on the active connection ends as it ends there. -/
theorem onActive_apply {α : Type} (action : Acting σ Connection α) (session : Session)
    (world : World σ) : ∃ after, onActive (Slot.onConnection action) (session, world) =
      ((action (session.active.connection, world)).1, after,
        (action (session.active.connection, world)).2.2) := ⟨_, rfl⟩

/-- How far a plan of one statement came, by what the statement was answered. -/
def progressOf : Except Failure ResultSet → Progress
  | .ok result => ⟨1, .ok (some result)⟩
  | .error failure => ⟨0, .error failure⟩

/-- One statement is run as the last one. -/
theorem runStatements_single (stream : Bool) (statement : Statement)
    (state : Connection × World σ) :
    runStatements server stream 0 [statement] state =
      (.ok (progressOf (Connection.execute server statement stream state).1),
        (Connection.execute server statement stream state).2) := by
  unfold runStatements
  rw [Acting.bind_apply, Acting.outcome]
  cases Connection.execute server statement stream state with
  | mk answer later => cases answer <;> rfl

/-- Running a plan of one statement ends by what the statement is answered: by its failure, or with
a cursor on its result. -/
theorem runPlan_single {plan : Plan} {statement : Statement}
    (single : plan.statements = [statement]) :
    (runPlan server plan (session, world)).1 =
      match (Connection.execute server statement session.state.largeResults
        (session.active.connection, world)).1 with
      | .error failure => .error (planFailure plan 0 failure)
      | .ok result => match Cursor.start plan (some result) with
        | (.ok (), cursor) => .ok cursor
        | (.error failure, _) => .error failure := by
  obtain ⟨after, acted⟩ := onActive_apply
    (runStatements server session.state.largeResults 0 [statement]) session world
  rw [runStatements_single] at acted
  rw [runPlan, single, Acting.this_bind_apply, Acting.bind_apply, acted]
  cases (Connection.execute server statement session.state.largeResults
    (session.active.connection, world)).1 with
  | error failure =>
    change ((if decide ((0 : Nat) = 0) && failure.isReport then throw failure
      else Acting.raise (planFailure plan 0 failure) : Acting σ Session Cursor) _).1 =
        .error (planFailure plan 0 failure)
    cases report : failure.isReport with
    | true =>
      have own : planFailure plan 0 failure = failure := by simp [planFailure, report]
      rw [own]
      rfl
    | false => exact Acting.raise_apply _ _
  | ok result =>
    change (((fun ended : Except Failure Unit × Cursor => (do
      Acting.settle ended.1
      pure ended.2 : Acting σ Session Cursor)) (Cursor.start plan (some result))) _).1 =
        match Cursor.start plan (some result) with
        | (.ok (), cursor) => .ok cursor
        | (.error failure, _) => .error failure
    cases Cursor.start plan (some result) with
    | mk outcome cursor => cases outcome <;> rfl

end Session

/-- A select is compiled for a connection as it is compiled without one. -/
theorem compile_select_gives {dialect : Dialect} {context : Context} {select : Select}
    {plan : Plan} (compiles : (compilePlan dialect (.select select) context).result = .ok plan)
    (live : Bool) :
    (compile dialect { context with live } (.select select)).Gives (.ok (.done plan)) := by
  have written : (Command.select select).written? dialect context.nested =
      some (writtenQuery dialect context.nested select) := rfl
  rw [(compilePlan_gives dialect context _ written).result_eq] at compiles
  have body := compileBody_gives dialect { context with live } (.select select) written
  cases ended : writtenQuery dialect context.nested select with
  | error failure =>
    rw [ended] at compiles
    cases compiles
  | ok written =>
    rw [ended] at compiles body
    cases compiles
    change Reporting.Gives _ ((.ok (.done written.plan) : Except Failure Compilation) >>=
      fun _ => .ok _)
    refine body.bind fun compilation same => ?_
    cases same
    exact fun _ => rfl

namespace Session

variable {σ : Type} {server : Server σ} {session : Session} {world : World σ}

variable {select : Select} {plan : Plan}

/-- Compiling a select leaves nothing but records. -/
theorem compileLive_select (server : Server σ)
    (compiles : (compilePlan session.dialect (.select select)
      { master := session.master?.isSome }).result = .ok plan) (world : World σ) :
    ∃ records, compileLive server (.select select) (session, world) =
      (.ok plan, session, { world with records }) := by
  have built := compile_select_gives compiles true world.records
  refine ⟨((compile session.dialect { master := session.master?.isSome, live := true }
    (.select select)).run.run world.records).2, ?_⟩
  unfold compileLive
  rw [Acting.bind_apply]
  change (Acting.report _ >>= fun compilation => _) (session, world) = _
  rw [Acting.bind_apply, Acting.report_apply, built]
  rfl

/-- Executing a select runs its plan on the active connection. -/
theorem execute_select (server : Server σ) {tag : Tag.Source} {payload : Payload.Source}
    {args : List Value}
    (parsed : (Payload.parse tag payload args).result = .ok (.select select))
    (compiles : (compilePlan session.dialect (.select select)
      { master := session.master?.isSome }).result = .ok plan) (world : World σ) :
    ∃ records, (execute server tag payload args (session, world)).1 =
      (runPlan server plan (session, { world with records })).1 := by
  have reads : (Payload.parse tag payload args).Gives (.ok (.select select)) :=
    parsed ▸ Payload.settled_parse tag payload args
  unfold execute spanned
  rw [Acting.bind_apply]
  change ∃ records, (Acting.traced _ _ _ (session, world)).1 = _
  obtain ⟨spans, traced⟩ := Acting.traced_apply "sqlcommand.execute"
    [("db.system", .text session.dialect.name), ("db.operation", .text tag.text),
      ("sqlcommand.route", .text session.active.name)]
    (Acting.report (Payload.parse tag payload args) >>= perform server) (session, world)
  rw [traced, Acting.bind_apply, Acting.report_apply, reads world.records]
  obtain ⟨records, compiled⟩ := compileLive_select server compiles
    { world with records := ((Payload.parse tag payload args).run.run world.records).2 }
  refine ⟨records, ?_⟩
  change ((compileLive server (.select select) >>= fun plan => runPlan server plan >>= fun cursor =>
    _) (session, _)).1 = _
  rw [Acting.bind_apply, compiled]
  dsimp only
  rw [Acting.bind_apply]
  cases runPlan server plan (session, { world with records }) with
  | mk outcome later => cases outcome <;> rfl

end Session

/-- How a limit is applied where the dialect has none: by the numbers that a dialect with limits
writes into the statement. They are those of the select itself, whatever its subqueries are. -/
structure Select.Emulated (select : Select) (plan : Plan) : Prop where
  natural : ∀ offset count, select.limitNumbers = some (offset, count) → 0 ≤ offset ∧ 0 ≤ count
  filtered : plan.rowFilter = select.limitNumbers.map fun (offset, count) =>
    { skip := offset, take := some count }
  native : ∀ dialect written, dialect.table.limitSyntax = .limitOffset →
    (compilePlan dialect (.select select)).result = .ok written →
    ∃ plain, (compilePlan dialect (.select select.unlimited)).result = .ok plain ∧
      written = match select.limitNumbers with
        | none => plain
        | some (offset, count) => { plain with
          statements := plain.statements.map (·.limited offset count) }

theorem Select.emulated {dialect : Dialect} (emulated : dialect.table.limitSyntax = .emulated)
    {context : Context} (top : context.nested = false) {select : Select} {plan : Plan}
    (accepted : ∃ value, Payload.readLimit value = .accepted select.limit)
    (compiles : (compilePlan dialect (.select select) context).result = .ok plan) :
    select.Emulated plan := by
  obtain ⟨plain, -, unfiltered, rfl⟩ := compileSelect_limited top compiles
  refine ⟨fun offset count known => ?_, ?_, fun other written standard compiled => ?_⟩
  · rw [compile_select_eq, Reporting.map_ok] at compiles
    obtain ⟨written, ended, -⟩ := compiles
    obtain ⟨-, consumed, binds, -⟩ := selectLine_limited ended
    obtain ⟨value, read⟩ := accepted
    rw [known] at binds
    exact binds.nonneg fun limit given => Limit.unsigned_of_accepted (given ▸ read)
  · unfold Plan.limited
    cases select.limitNumbers with
    | none => exact unfiltered
    | some numbers => rw [emulated]; rfl
  · obtain ⟨plain, unlimited, -, rfl⟩ := compileSelect_limited rfl compiled
    refine ⟨plain, unlimited, ?_⟩
    unfold Plan.limited
    cases select.limitNumbers with
    | none => rfl
    | some numbers => rw [standard]; rfl

/-- A cursor hands out the rows that it holds, as they are exported. -/
theorem Cursor.Holds.handsOut {cursor : Cursor} {result : ResultSet} {rows : List Row}
    (holds : cursor.Holds rows) (read : cursor.result? = some result) :
    cursor.HandsOut result (rows.map cursor.plan.exportedRow) where
  first count within := by
    rw [List.length_map] at within
    rw [← List.map_take]
    exact fetchMany_take holds count (.inr within)
  all closes := by
    refine fetchAll_eq holds ?_
    rintro _ found
    cases read.symm.trans found
    exact closes

/-- Where a dialect cannot limit rows, executing a select with a limit hands out the rows that the
limit leaves of those that the server answers. Only a limit that ends behind the greatest position
fails, and it does so although the statement ran.

Proof: executing a select runs one statement, and ends as this ends. The row filter, made of the
same numbers as a limit in the text, opens the cursor with a window, and the cursor hands out the
rows inside of it. -/
theorem limits_emulated {σ : Type} (server : Server σ) {session : Session}
    (emulated : session.dialect.table.limitSyntax = .emulated)
    {tag : Tag.Source} {payload : Payload.Source} {args : List Value} {select : Select}
    {plan : Plan} (accepted : ∃ value, Payload.readLimit value = .accepted select.limit)
    (parsed : (Payload.parse tag payload args).result = .ok (.select select))
    (compiles : (compilePlan session.dialect (.select select)
      { master := session.master?.isSome }).result = .ok plan) :
    select.Emulated plan ∧ ∀ world, ∃ statement records, plan.statements = [statement] ∧
      select.Ends plan
        (Connection.execute server statement session.state.largeResults
          (session.active.connection, { world with records })).1
        (Session.execute server tag payload args (session, world)).1 := by
  have applied := Select.emulated emulated rfl accepted compiles
  refine ⟨applied, fun world => ?_⟩
  obtain ⟨records, ran⟩ := Session.execute_select server parsed compiles world
  rw [compile_select_eq, Reporting.map_ok] at compiles
  obtain ⟨written, ended, rfl⟩ := compiles
  refine ⟨written.1.statement, records, rfl, ?_⟩
  rw [ran, Session.runPlan_single rfl]
  cases executed : Connection.execute server written.1.statement session.state.largeResults
    (session.active.connection, { world with records }) with
  | mk answer later => cases answer with
    | error failure => exact .failed
    | ok result =>
      have offers : ∀ rows window?, result.rows = rows.map .ok → Cursor.Offers
          { plan := select.planOf { master := session.master?.isSome } written,
            result? := some result, window? } rows := by
        intro rows window? same
        unfold Cursor.Offers
        dsimp only
        split
        · exact same
        · have none := Connection.rows_of_execute executed (Bool.eq_false_iff.mpr ‹_›)
          rw [none] at same
          exact List.map_eq_nil_iff.mp same.symm
      dsimp only
      rw [Cursor.start_windowed ⟨rfl, rfl⟩, applied.filtered]
      cases numbers : select.limitNumbers with
      | none =>
        refine .ready (numbers ▸ trivial) fun rows same => ?_
        rw [numbers]
        exact Cursor.Holds.handsOut ⟨rows, offers rows none same, rfl⟩ rfl
      | some pair =>
        obtain ⟨offset, count⟩ := pair
        obtain ⟨begins, counts⟩ := applied.natural offset count numbers
        dsimp only [Option.map_some]
        rw [RowFilter.window_of_limit begins counts]
        by_cases within : offset + count ≤ Value.greatestIndex
        · rw [if_pos within]
          refine .ready (numbers ▸ within) fun rows same => ?_
          rw [numbers]
          exact Cursor.Holds.handsOut ⟨rows, offers rows _ same, rfl⟩ rfl
        · rw [if_neg within]
          exact .uncountable (numbers ▸ within)

/-- A session whose server cannot limit rows. -/
def reader : Session where
  dialect := Family.mssql.dialect
  primary := {
    name := "primary"
    connection := { settings := { url := "mssql://reads/" }, dialect := Family.mssql.dialect } }

/-- Two notes after the first one. -/
def pageOfNotes : Select where
  args := [.int 2]
  source := some "notes"
  limit := some (.written "1, ?")

/-- The limit of the page can be written in a payload. -/
theorem pageOfNotes_accepted :
    ∃ value, Payload.readLimit value = .accepted pageOfNotes.limit := by
  have shaped : Payload.isLimitText "1, ?" = true := by decide +kernel
  have same : Text.trimmed "1, ?" = "1, ?" := by decide +kernel
  refine ⟨.text "1, ?", ?_⟩
  rw [Payload.readLimit, if_pos shaped, same]
  rfl

/-- The page compiles to one statement without parameters. -/
theorem pageOfNotes_compiled : ∃ plan sql,
    (compilePlan Family.mssql.dialect (.select pageOfNotes)).result = .ok plan ∧
      plan.statements = [{ sql }] ∧ plan.exportRows = false := by
  have bare : ((compilePlan Family.mssql.dialect (.select pageOfNotes)).result.toOption.map
      fun plan => plan.statements.map fun statement => statement.parameters.length) = some [0] := by
    decide +kernel
  cases ended : (compilePlan Family.mssql.dialect (.select pageOfNotes)).result with
  | error failure =>
    rw [ended] at bare
    cases bare
  | ok plan =>
    rw [ended] at bare
    rw [compile_select_eq, Reporting.map_ok] at ended
    obtain ⟨written, -, rfl⟩ := ended
    have none : written.1.statement.parameters = [] := by
      simpa [Select.planOf, Except.toOption] using bare
    refine ⟨_, written.1.statement.sql, rfl, ?_, rfl⟩
    exact congrArg (fun parameters => [{ written.1.statement with parameters }]) none

/-- A page of four notes holds the second and the third one. -/
theorem pageOfNotes_emulated :
    reader.dialect.table.limitSyntax = .emulated ∧
      (∃ value, Payload.readLimit value = .accepted pageOfNotes.limit) ∧
      (Payload.parse (.resolved .select) (.built (.select pageOfNotes)) []).result =
        .ok (.select pageOfNotes) ∧
      (∃ plan, (compilePlan reader.dialect (.select pageOfNotes)
        { master := reader.master?.isSome }).result = .ok plan) ∧
      ∀ first second third fourth : Row, ∃ cursor,
        (Session.execute (Server.listing [first, second, third, fourth]) (.resolved .select)
          (.built (.select pageOfNotes)) [] (reader, { memory := () })).1 = .ok cursor ∧
        (Cursor.fetchAll cursor).1 = .ok [second, third] := by
  have emulated : reader.dialect.table.limitSyntax = .emulated := rfl
  have parsed : (Payload.parse (.resolved .select) (.built (.select pageOfNotes)) []).result =
      .ok (.select pageOfNotes) := rfl
  obtain ⟨plan, sql, compiles, single, plain⟩ := pageOfNotes_compiled
  refine ⟨emulated, pageOfNotes_accepted, parsed, ⟨plan, compiles⟩,
    fun first second third fourth => ?_⟩
  obtain ⟨-, runs⟩ := limits_emulated (Server.listing [first, second, third, fourth]) emulated
    pageOfNotes_accepted parsed compiles
  obtain ⟨statement, records, same, ends⟩ := runs { memory := () }
  obtain rfl : { sql } = statement := by
    rw [single] at same
    exact (List.cons.inj same).1
  have numbers : pageOfNotes.limitNumbers = some (1, 2) := by decide +kernel
  have answered : (Connection.execute (Server.listing [first, second, third, fourth]) { sql }
      reader.state.largeResults (reader.active.connection, { memory := (), records })).1 =
        .ok { rows := [first, second, third, fourth].map .ok, returnsRows := true } := rfl
  rw [answered] at ends
  generalize (Session.execute _ _ _ _ _).1 = outcome at ends
  cases ends with
  | uncountable beyond =>
    rw [numbers] at beyond
    exact absurd (by decide : (1 : Int) + 2 ≤ Value.greatestIndex) beyond
  | ready within hands =>
    have all := (hands [first, second, third, fourth] rfl).all rfl
    have unchanged : plan.exportedRow = id := by
      funext row
      rw [Plan.exportedRow, plain]
      rfl
    rw [numbers, unchanged, List.map_id] at all
    exact ⟨_, rfl, all⟩

end PortableSql
