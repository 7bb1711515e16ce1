import PortableSql.Proofs.Consuming
import PortableSql.Proofs.Defining
import PortableSql.Proofs.RoundTrip
import PortableSql.Proofs.Shape

/-!
# Compiling fails by reports

A command that was read compiles on every built-in dialect without a look at its tables, or is
refused by a report. What may go wrong beside that are numerals: a limit is checked for digits and
then read as a number, and not all digits make a number that can be read; the position in a token
and the sizes of a decimal column may be too long. Only then does compiling fail by a fault.
-/

namespace PortableSql

/-- An argument of a limit that consists of digits can be read as a number. -/
def Landing.Legible : Landing → Value → Prop
  | .limit, .text digits => Text.allDigits (Text.trim digits.toList) = true →
    ∃ number, Text.integer digits = .ok number
  | _, _ => True

/-- The numerals of a select and of the subqueries that tokens name can be read. -/
inductive Select.Legible (dialect : Dialect) : Select → Prop
  | intro {select} : ReadableLimit select.limit →
    Met Landing.Legible (select.landings dialect) select.args →
    (∀ digits ∈ select.tokens dialect, ∃ index, Sql.tokenIndex digits = .ok index) →
    (∀ nested, select.Names dialect nested → nested.Legible dialect) → Legible dialect select

namespace Command

/-- The row limit of a command. -/
def rowLimit : Command → Option Limit
  | select command => command.limit
  | update command => command.limit
  | delete command => command.limit
  | _ => none

/-- The numerals of a command can be read, and those that are made of its limits and of its columns
can be written. -/
structure Legible (dialect : Dialect) (nested : Bool) (command : Command) : Prop where
  limit : ReadableLimit command.rowLimit
  arguments : Met Landing.Legible (command.landings dialect) command.args
  query : ∀ select ∈ command.query?, select.Legible dialect
  limits : command.LimitsWritable dialect nested
  definitions : ∀ definition ∈ command.definitions, definition.Legible

end Command

/-! ## What is read -/

namespace Payload

theorem readIntFrom_accepted {least number : Int} {value : Value}
    (accepted : readIntFrom least value = .accepted number) : least ≤ number := by
  obtain ⟨found, -, enough⟩ := Checked.andThen_accepted.mp accepted
  split at enough
  · cases enough
  · cases enough
    exact Int.not_lt.mp ‹_›

theorem readColumn_sound {value : Value} {definition : ColumnDefinition}
    (accepted : readColumn value = .accepted definition) : definition.Sound := by
  obtain ⟨entries, accepted⟩ := readColumn_accepted accepted
  refine ⟨modelOf_unrefused accepted, ?_⟩
  obtain ⟨fields, -⟩ := modelOf_accepted accepted
  simp only [Checked.seq_accepted] at fields
  obtain ⟨_, _, ⟨_, _, ⟨_, _, ⟨_, _, ⟨_, _, ⟨_, _, ⟨_, _, ⟨_, _, ⟨_, _, ⟨_, _, ⟨_, _, toType, -,
    rfl⟩, lengths, rfl⟩, -, rfl⟩, -, rfl⟩, -, rfl⟩, -, rfl⟩, -, rfl⟩, -, rfl⟩, -, rfl⟩, -, rfl⟩, -,
    rfl⟩ := fields
  obtain ⟨_, -, rfl⟩ := Checked.map_accepted.mp toType
  rintro length given
  cases given
  obtain ⟨_, read⟩ := optional_nullable lengths
  exact readIntFrom_accepted read

/-- The column definitions of a command that was read are sound. -/
theorem definitions_sound {tag : Tag} {entries : Entries} {command : Command}
    (accepted : readCommand tag entries = .accepted command) :
    ∀ definition ∈ command.definitions, definition.Sound := by
  cases tag with
  | createTable =>
    obtain ⟨creation, read, rfl⟩ := Checked.map_accepted.mp accepted
    obtain ⟨fields, -⟩ := modelOf_accepted read
    simp only [Checked.seq_accepted] at fields
    obtain ⟨_, _, ⟨_, _, ⟨_, _, ⟨_, _, ⟨_, _, ⟨_, columns?, ⟨_, _, ⟨_, _, toTag, -, rfl⟩, -, rfl⟩,
      columns, rfl⟩, -, rfl⟩, -, rfl⟩, -, rfl⟩, -, rfl⟩, -, rfl⟩ := fields
    obtain ⟨_, -, rfl⟩ := Checked.map_accepted.mp toTag
    intro definition member
    obtain ⟨column, within, rfl⟩ := List.mem_map.mp member
    cases columns? with
    | none => cases within
    | some given =>
      obtain ⟨_, read⟩ := optional_nullable columns
      obtain ⟨_, known⟩ := readDictionary_accepted read column within
      exact readColumn_sound known
  | addColumn =>
    obtain ⟨addition, read, rfl⟩ := Checked.map_accepted.mp accepted
    obtain ⟨fields, -⟩ := modelOf_accepted read
    simp only [Checked.seq_accepted] at fields
    obtain ⟨_, _, ⟨_, _, ⟨_, _, ⟨_, _, ⟨_, _, ⟨_, _, toTag, -, rfl⟩, -, rfl⟩, -, rfl⟩,
      given, rfl⟩, -, rfl⟩, -, rfl⟩ := fields
    obtain ⟨_, -, rfl⟩ := Checked.map_accepted.mp toTag
    intro definition member
    rw [List.mem_singleton.mp member]
    obtain ⟨_, known⟩ := required_accepted given
    exact readColumn_sound known
  | _ =>
    obtain ⟨_, -, rfl⟩ := Checked.map_accepted.mp accepted
    exact List.forall_mem_nil _

end Payload

/-- Arguments are no part of column definitions. -/
theorem Command.definitions_withArgs (command : Command) (args : List Value) :
    (command.withArgs args).definitions = command.definitions := by
  cases command <;> rfl

theorem Command.Returned.definitions_sound {command : Command} (returned : command.Returned) :
    ∀ definition ∈ command.definitions, definition.Sound := by
  obtain ⟨read, entries, args, accepted, rfl⟩ := returned.readable
  rw [definitions_withArgs]
  exact Payload.definitions_sound accepted

section Writing

variable {legible : Prop} {dialect : Dialect}

/-! ## What is written -/

theorem Text.NumeralFault.failure_badValue (fault : Text.NumeralFault) (shown : String) :
    ∃ message, fault.failure shown = .fault .badValue message := by
  cases fault <;> exact ⟨_, rfl⟩

theorem integer_failsBy {text : String}
    (readable : legible → ∃ number, Text.integer text = .ok number) :
    FailsBy (Failure.OfInput legible) (Text.integer text) := by
  refine failsBy_legible (fun failure failed => ?_) readable
  unfold Text.integer at failed
  cases read : Text.readInteger text.toList with
  | ok number =>
    rw [read] at failed
    cases failed
  | error fault =>
    rw [read] at failed
    cases failed
    exact fault.failure_badValue _

theorem limitArgument_failsBy {value : Value} (readable : legible → Landing.limit.Legible value) :
    FailsBy (Failure.OfInput legible) (limitArgument value) := by
  unfold limitArgument
  cases value with
  | text digits =>
    dsimp only
    split
    case isTrue shaped => exact integer_failsBy fun given => readable given shaped
    case isFalse => exact failsBy_error (.inl rfl)
  | int number =>
    dsimp only
    split
    · exact failsBy_ok number
    · exact failsBy_error (.inl rfl)
  | _ => exact failsBy_error (.inl rfl)

theorem Dialect.quotedValue_failsBy (dialect : Dialect) (what : String) (value : Value) :
    FailsBy (Failure.OfInput legible) (dialect.quotedValue what value) := by
  refine Reporting.FailsBy.result ?_
  cases value with
  | text name => exact quoteName_failsBy _ what name
  | _ => exact Reporting.failsBy_raise (.inl rfl)

theorem Dialect.quoted_failsBy (dialect : Dialect) (what name : String) :
    FailsBy (Failure.OfInput legible) (dialect.quoted what name) :=
  Reporting.FailsBy.result (quoteName_failsBy _ what name)

theorem Dialect.quotedAll_failsBy (dialect : Dialect) (names : List String) :
    FailsBy (Failure.OfInput legible) (dialect.quotedAll names) :=
  failsBy_mapM fun name _ => dialect.quoted_failsBy _ name

/-- What is written fails by what is given, or by an argument of a limit that cannot be read. -/
theorem input_excuses (legible : Prop) (dialect : Dialect) :
    Excuses dialect (fun landing value => legible → landing.Legible value)
      (Failure.OfInput legible) where
  missing arguments clause := by
    unfold Arguments.take
    split
    · exact failsBy_ok _
    · exact failsBy_error (.inl rfl)
  surplus arguments := by
    unfold Arguments.ensureConsumed
    split
    · exact failsBy_ok ()
    · exact failsBy_error (.inl rfl)
  name what value _ := dialect.quotedValue_failsBy what value
  limit _ readable := limitArgument_failsBy readable

theorem limit_failsBy {limit : Option Limit} (readable : legible → ReadableLimit limit) :
    LimitFailsBy (Failure.OfInput legible) limit := by
  match limit, readable with
  | none, _ | some (.count _), _ => trivial
  | some (.written limit), readable =>
    exact fun part member mark => integer_failsBy fun given => readable given part member mark

theorem namedLine_failsBy {selects : List Select} {digits : List Char}
    (readable : legible → ∃ index, Sql.tokenIndex digits = .ok index)
    (nested : ∀ index select, Sql.tokenIndex digits = .ok index → selects[index]? = some select →
      FailsBy (Failure.OfInput legible) (nestedLine dialect select)) :
    FailsBy (Failure.OfInput legible) (namedLine (nestedLines dialect selects) digits) := by
  unfold namedLine
  cases known : Sql.tokenIndex digits with
  | error fault =>
    refine failsBy_error (.inr ⟨fun given => ?_, fault.failure_badValue _⟩)
    obtain ⟨index, found⟩ := readable given
    cases known.symm.trans found
  | ok index =>
    dsimp only
    rw [nestedLines_eq_map, List.getElem?_map]
    cases found : selects[index]? with
    | none => exact failsBy_error (.inl rfl)
    | some select => exact nested index select known found

theorem limitSql_failsBy {offset count : Int}
    (readable : legible → Writable offset ∧ Writable count) :
    FailsBy (Failure.OfInput legible) (limitSql offset count) := by
  refine (numeral_failsBy fun given => (readable given).2).bind fun _ _ => ?_
  split
  · exact failsBy_ok _
  · exact (numeral_failsBy fun given => (readable given).1).bind fun _ _ => failsBy_ok _

theorem limitShown_failsBy {offset count : Int}
    (readable : legible → Writable offset ∧ Writable count) :
    FailsBy (Failure.OfInput legible) (limitShown offset count) :=
  (numeral_failsBy fun given => (readable given).1).bind fun _ _ =>
    (numeral_failsBy fun given => (readable given).2).bind fun _ _ => failsBy_ok _

/-- A limit is written unless a numeral of it cannot be. -/
theorem writeLimit_failsBy {nested : Bool} {numbers : Option (Int × Int)}
    (readable : legible → LimitWritable dialect nested numbers) (body : Line) :
    FailsBy (Failure.OfInput legible) (writeLimit dialect nested body numbers) := by
  cases numbers with
  | none => exact failsBy_ok _
  | some range =>
    obtain ⟨offset, count⟩ := range
    by_cases standard : dialect.table.limitSyntax = .limitOffset
    · simp only [writeLimit, standard, if_true]
      exact (limitSql_failsBy fun given => readable given (.inl standard)).bind fun _ _ =>
        failsBy_ok _
    · by_cases inside : nested = true
      · simp only [writeLimit, standard, inside, if_false, if_true]
        exact (limitShown_failsBy fun given => readable given (.inr inside)).bind fun _ _ =>
          failsBy_ok _
      · simp only [writeLimit, standard, inside, if_false]
        exact failsBy_ok _

/-- A select is written or refused by a report, provided that this holds of the subqueries that
tokens name. -/
theorem assembledLine_failsBy {nested : Bool} {into : Option String} {select : Select}
    (readable : legible → select.Legible dialect)
    (writable : legible → LimitWritable dialect nested (select.rowRange dialect))
    (subqueries : ∀ subquery, select.Names dialect subquery →
      FailsBy (Failure.OfInput legible) (nestedLine dialect subquery)) :
    FailsBy (Failure.OfInput legible)
      (assembledLine dialect nested into (nestedLines dialect select.subqueries) select) := by
  refine (input_excuses legible dialect).assembledLine dialect (fun _ => .inl rfl)
    (fun digits member => namedLine_failsBy (fun given => ?_) fun index subquery known found =>
      subqueries subquery ⟨digits, index, member, known, found⟩)
    (limit_failsBy fun given => ?_) (fun landed member given => ?_) (writeLimit_failsBy writable)
  all_goals obtain ⟨limit, arguments, tokens, -⟩ := readable given
  · exact tokens digits member
  · exact limit
  · exact arguments landed member

theorem nestedLine_failsBy {select : Select} (readable : legible → select.Legible dialect)
    (writable : legible → select.LimitsWritable dialect true) :
    FailsBy (Failure.OfInput legible) (nestedLine dialect select) := by
  induction select using Select.induction with
  | step select inductionHypothesis =>
    rw [nestedLine_eq]
    refine (assembledLine_failsBy readable (fun given => ?_) fun subquery named => ?_).map Prod.fst
    · obtain ⟨own, -⟩ := writable given
      exact own
    · obtain ⟨_, _, _, _, found⟩ := id named
      refine inductionHypothesis subquery (List.mem_of_getElem? found) (fun given => ?_)
        fun given => ?_
      · obtain ⟨-, -, -, nested⟩ := readable given
        exact nested subquery named
      · obtain ⟨-, limits⟩ := writable given
        exact limits subquery named

theorem selectLine_failsBy {nested : Bool} {into : Option String} {select : Select}
    (readable : legible → select.Legible dialect)
    (writable : legible → select.LimitsWritable dialect nested) :
    FailsBy (Failure.OfInput legible) (selectLine dialect nested into select) := by
  refine assembledLine_failsBy readable (fun given => ?_) fun subquery named =>
    nestedLine_failsBy (fun given => ?_) fun given => ?_
  · obtain ⟨own, -⟩ := writable given
    exact own
  · obtain ⟨-, -, -, nested⟩ := readable given
    exact nested subquery named
  · obtain ⟨-, limits⟩ := writable given
    exact limits subquery named

/-- A clause without tokens is written or refused by a report. -/
theorem clauseItems_failsBy (clause : String) (use : PlaceholderUse) (text : String) :
    ∀ item ∈ clauseItems dialect clause use false text,
      item.FailsBy [] (Failure.OfInput legible) := by
  intro item member
  obtain ⟨piece, found, rfl⟩ := List.mem_map.mp member
  cases piece with
  | placeholder => cases use with
    | refused => exact .inl rfl
    | name | value => trivial
  | subquery digits => exact absurd found Sql.not_subquery_mem_pieces
  | span _ | other _ => trivial

theorem optionalItems_failsBy (clause : String) (use : PlaceholderUse) (text : Option String) :
    ∀ item ∈ optionalItems dialect clause use false text,
      item.FailsBy [] (Failure.OfInput legible) := by
  cases text with
  | none => exact List.forall_mem_nil _
  | some text =>
    by_cases blank : text.isEmpty
    · rw [optionalItems, if_pos blank]
      exact List.forall_mem_nil _
    · rw [optionalItems, if_neg blank]
      exact List.forall_mem_cons.mpr ⟨trivial, clauseItems_failsBy clause use text⟩

theorem restrictionLimit_failsBy (tag : Tag) (limit : Option Limit) {numbers : Option (Int × Int)}
    (readable : legible → RestrictionWritable dialect numbers) :
    FailsBy (Failure.OfInput legible) (restrictionLimit dialect tag limit numbers) := by
  cases numbers with
  | none => exact failsBy_ok ""
  | some range =>
    obtain ⟨offset, count⟩ := range
    by_cases first : offset = 0
    · by_cases supported : dialect.table.updateLimit
      · simp only [restrictionLimit, first, supported, if_true]
        exact limitSql_failsBy fun given => ⟨writable_zero, readable given first supported⟩
      · simp only [restrictionLimit, first, supported, Bool.false_eq_true, if_false, if_true]
        exact failsBy_ok ""
    · simp only [restrictionLimit, first, if_false]
      exact failsBy_error (.inl rfl)

/-- The restrictions of a change are written or refused by a report, unless a numeral among their
arguments is not legible. -/
theorem writeRestrictions_failsBy (tag : Tag) {condition ordering : Option String}
    {limit : Option Limit} {arguments : Arguments} (readable : legible → ReadableLimit limit)
    (met : Met (fun landing value => legible → landing.Legible value)
      (restrictionLandings dialect condition ordering limit) arguments.left)
    (writable : legible → RestrictionWritable dialect
      (Command.restrictionRange dialect condition ordering limit arguments.left)) :
    FailsBy (Failure.OfInput legible)
      ((writeRestrictions dialect tag condition ordering limit).run arguments) := by
  have excuses := input_excuses legible dialect
  unfold restrictionLandings at met
  rw [← landings_optionalItems dialect "WHERE", ← landings_optionalItems dialect "ORDER BY"] at met
  refine (excuses.writeItems (optionalItems_failsBy _ _ _)).runBind (writeItems_exactly _)
    (fun _ _ binds => binds.length_eq) met fun first following selected same wheres rest => ?_
  rw [← Arguments.left_skip same] at rest
  refine (excuses.writeItems (optionalItems_failsBy _ _ _)).runBind (writeItems_exactly _)
    (fun _ _ binds => binds.length_eq) rest fun second others ordered left orders last => ?_
  rw [← Arguments.left_skip left, ← List.append_nil (limitLandings limit)] at last
  refine (excuses.readLimit (limit_failsBy readable)).runBind (readLimit_exactly limit)
    (fun _ _ limits => limits.length_eq) last fun third more numbers remaining limits _ => ?_
  rw [Arguments.left_skip left] at remaining
  rw [Arguments.left_skip same] at left
  rw [same, left, remaining, Command.restrictionRange_eq wheres orders limits] at writable
  exact Writing.failsBy_runLift (restrictionLimit_failsBy tag limit writable) fun _ => failsBy_ok _

theorem writeAssignment_failsBy (column : String) (value : Value) :
    (writeAssignment dialect column value).FailsBy
      (fun landing value => legible → landing.Legible value) (Failure.OfInput legible) [] := by
  refine Writing.FailsBy.liftBind (dialect.quoted_failsBy _ _) fun quoted => ?_
  split
  · split
    · exact Writing.failsBy_pure _
    · exact Writing.failsBy_throw (.inl rfl) []
  · exact Writing.failsBy_pure _
  · exact Writing.failsBy_pure _

theorem fragmentAllowed_failsBy (column fragment : String) :
    FailsBy (Failure.OfInput legible) (fragmentAllowed dialect column fragment) := by
  refine Reporting.FailsBy.result ?_
  unfold refusePlaceholders
  split
  · exact Reporting.failsBy_pure ()
  · exact Reporting.failsBy_raise (.inl rfl)

theorem writeFragment_failsBy (column fragment : String) :
    (writeFragment dialect column fragment).FailsBy
      (fun landing value => legible → landing.Legible value) (Failure.OfInput legible) [] :=
  Writing.FailsBy.liftBind (fragmentAllowed_failsBy column fragment) fun _ =>
    Writing.FailsBy.liftBind (dialect.quoted_failsBy _ _) fun _ => Writing.failsBy_pure _

theorem writeUpdate_failsBy {update : Update} {nested : Bool}
    (readable : legible → (Command.update update).Legible dialect nested) :
    FailsBy (Failure.OfInput legible)
      ((writeUpdate dialect update).finish update.args "UPDATE") := by
  have assigns := fun entry : String × Value => writeAssignment_exactly dialect entry.1 entry.2
  have joins := fun entry : String × String => writeFragment_exactly dialect entry.1 entry.2
  refine (input_excuses legible dialect).finish ?_
  refine (Writing.failsBy_mapM_nil assigns fun entry _ =>
    writeAssignment_failsBy entry.1 entry.2).runBindNothing (exactly_mapM_nil assigns _) fun _ => ?_
  refine (Writing.failsBy_mapM_nil joins fun entry _ =>
    writeFragment_failsBy entry.1 entry.2).runBindNothing (exactly_mapM_nil joins _) fun _ => ?_
  refine Writing.failsBy_runLift (dialect.quoted_failsBy _ _) fun table => ?_
  exact Writing.failsBy_runBindPure _ (writeRestrictions_failsBy .update
    (fun given => (readable given).limit)
    (fun landed member given => (readable given).arguments landed member)
    fun given => (readable given).limits)

theorem writeDelete_failsBy {delete : Delete} {nested : Bool}
    (readable : legible → (Command.delete delete).Legible dialect nested) :
    FailsBy (Failure.OfInput legible)
      ((writeDelete dialect delete).finish delete.args "DELETE") := by
  refine (input_excuses legible dialect).finish ?_
  refine Writing.failsBy_runLift (dialect.quoted_failsBy _ _) fun table => ?_
  exact Writing.failsBy_runBindPure _ (writeRestrictions_failsBy .delete
    (fun given => (readable given).limit)
    (fun landed member given => (readable given).arguments landed member)
    fun given => (readable given).limits)

theorem writeSet_failsBy {setting : SetVariable} {nested : Bool}
    (readable : legible → (Command.set setting).Legible dialect nested) :
    FailsBy (Failure.OfInput legible)
      ((writeSet dialect setting).finish setting.args "SET") := by
  have excuses := input_excuses legible dialect
  have landed : Met (fun landing value => legible → landing.Legible value)
      (landings (clauseItems dialect "SET" (settingUse dialect) false setting.statement))
      setting.args := by
    rw [landings_clauseItems]
    exact fun landed member given => (readable given).arguments landed member
  exact excuses.finish ((excuses.writeItems (clauseItems_failsBy _ _ _)).bindPure _ _ landed)

theorem argumentsAllowed_failsBy (tag : Tag) (args : List Value) :
    FailsBy (Failure.OfInput legible) (argumentsAllowed tag args) :=
  Reporting.FailsBy.result (refuseArgs_failsBy tag args)

theorem writtenInsert_failsBy {insert : Insert} {nested : Bool}
    (readable : legible → (Command.insert insert).Legible dialect nested) :
    FailsBy (Failure.OfInput legible) (writtenInsert dialect insert) := by
  refine (argumentsAllowed_failsBy _ _).bind fun _ _ => ?_
  refine (dialect.quoted_failsBy _ _).bind fun table _ => ?_
  cases given : insert.select with
  | some select =>
    have named : FailsBy (Failure.OfInput legible) (columnsLine dialect insert.columns) := by
      unfold columnsLine
      split
      · exact failsBy_ok []
      · exact failsBy_ok []
      · exact (dialect.quotedAll_failsBy _).bind fun _ _ => failsBy_ok _
    refine (nestedLine_failsBy (fun all => (readable all).query select given)
      fun all => (readable all).limits select given).bind fun line _ => ?_
    exact named.bind fun _ _ => failsBy_ok _
  | none =>
    refine (failsBy_forM fun entry _ => fragmentAllowed_failsBy _ _).bind fun _ _ => ?_
    exact (dialect.quotedAll_failsBy _).bind fun _ _ => failsBy_ok _

theorem writtenTableFrom_failsBy {creation : CreateTable} {select : Select} {nested : Bool}
    (given : creation.select = some select)
    (readable : legible → (Command.createTable creation).Legible dialect nested) :
    FailsBy (Failure.OfInput legible) (writtenTableFrom dialect creation select) := by
  have own : legible → select.Legible dialect := fun all => (readable all).query select given
  have limits : legible → select.LimitsWritable dialect true := fun all =>
    (readable all).limits select given
  refine (argumentsAllowed_failsBy _ _).bind fun _ _ => ?_
  refine (dialect.quoted_failsBy _ _).bind fun table _ => ?_
  split
  · exact (nestedLine_failsBy own limits).bind fun _ _ => failsBy_ok _
  · exact (selectLine_failsBy own limits).bind fun _ _ => failsBy_ok _

/-- A written command is written or refused by a report, unless a numeral is not legible. -/
theorem Command.written_failsBy {command : Command} {nested : Bool}
    {outcome : Except Failure WrittenPlan}
    (given : command.written? dialect nested = some outcome)
    (readable : legible → command.Legible dialect nested) :
    FailsBy (Failure.OfInput legible) outcome := by
  cases command with
  | select command =>
    cases given
    exact (selectLine_failsBy (fun all => (readable all).query command rfl) fun all =>
      (readable all).limits).map _
  | insert command =>
    cases given
    exact writtenInsert_failsBy readable
  | update command =>
    cases given
    exact (writeUpdate_failsBy readable).map _
  | delete command =>
    cases given
    exact (writeDelete_failsBy readable).map _
  | set command =>
    cases given
    exact (writeSet_failsBy readable).map _
  | createTable command =>
    obtain ⟨select, known, rfl⟩ := Option.map_eq_some_iff.mp given
    exact writtenTableFrom_failsBy known readable
  | _ => cases given

end Writing

/-- A plan that is compiled is completed and nothing else can go wrong. -/
theorem compilePlan_failsBy {dialect : Dialect} {context : Context} {command : Command}
    {allowed : Failure → Prop}
    (fails : (compileBody dialect { context with live := false } command).FailsBy allowed) :
    (compilePlan dialect command context).FailsBy allowed := by
  unfold compilePlan compile
  rw [bind_assoc]
  refine fails.bind fun compilation yields => ?_
  obtain ⟨plan, rfl⟩ := compileBody_done (.inl rfl) yields
  simp only [completePlan, map_eq_pure_bind, bind_assoc, pure_bind]
  exact (Reporting.failsBy_log _).andThen fun _ => Reporting.failsBy_pure _

/-- A command that was read compiles to a plan on every built-in dialect, or is refused by a report
that something given is unacceptable. Only where a numeral of it cannot be read or written may it
fail otherwise, and then by the fault of that numeral.

Proof: a command that is written fails like its clauses, its limit and the subqueries that tokens
name; any other one takes names and sound definitions, for which the tables of the built-in dialects
have types. -/
theorem commands_compile_or_report {command : Command} (returned : command.Returned)
    (family : Family) (context : Context) :
    (∃ plan, (compilePlan family.dialect command context).result = .ok plan) ∨
    ∃ failure, (compilePlan family.dialect command context).result = .error failure ∧
      (failure.class? = some .validation ∨
        ¬command.Legible family.dialect context.nested ∧
          ∃ message, failure = .fault .badValue message) := by
  have fails : (compilePlan family.dialect command context).FailsBy
      (Failure.OfInput (command.Legible family.dialect context.nested)) := by
    cases given : command.written? family.dialect context.nested with
    | some outcome =>
      exact (compilePlan_gives family.dialect context command given).failsBy
        ((Command.written_failsBy given id).map _)
    | none =>
      exact compilePlan_failsBy (compileBody_failsBy family.complete rfl given
        returned.definitions_sound fun legible => legible.definitions)
  cases ended : (compilePlan family.dialect command context).result with
  | ok plan => exact .inl ⟨plan, rfl⟩
  | error failure => exact .inr ⟨failure, rfl, fails.result failure ended⟩

/-- A select of as many notes as an argument says. -/
def fewNotes (count : String) : Select where
  args := [.text count]
  source := some "notes"
  limit := some (.written "?")

/-- A raised two consists of digits, but is no number: compiling fails by a fault, so something is
not legible. An ordinary five is. -/
theorem raised_two_faults :
    ((Command.select (fewNotes "5")).Returned ∧
      (Command.select (fewNotes "5")).Legible Family.mysql.dialect false) ∧
    (Command.select (fewNotes "²")).Returned ∧
      ¬(Command.select (fewNotes "²")).Legible Family.mysql.dialect false ∧
      ∃ failure, (compilePlan Family.mysql.dialect (.select (fewNotes "²"))).result =
          .error failure ∧ failure.className = "ValueError" ∧
        failure.text = "invalid literal for int() with base 10: '²'" := by
  have returned : ∀ count, (Payload.parse (.resolved .select) (.value (.dictionary
      [(.text "FROM", .text "notes"), (.text "LIMIT", .text "?")])) [.text count]).Yields
        (.select (fewNotes count)) := fun count => ⟨[], rfl⟩
  have legible : (Command.select (fewNotes "5")).Legible Family.mysql.dialect false := by
    have limit : ReadableLimit (fewNotes "5").limit := by
      have parts : limitParts "?" = [['?']] := by decide +kernel
      intro part member
      rw [parts] at member
      exact fun other => absurd (List.mem_singleton.mp member) other
    have arguments : Met Landing.Legible ((fewNotes "5").landings Family.mysql.dialect)
        (fewNotes "5").args := by
      have landings : (fewNotes "5").landings Family.mysql.dialect = [.limit] := by decide +kernel
      rw [landings]
      intro landed member
      rw [List.mem_singleton.mp member]
      exact fun _ => ⟨5, rfl⟩
    have tokens : (fewNotes "5").tokens Family.mysql.dialect = [] := by decide +kernel
    have unnamed : ∀ nested, ¬(fewNotes "5").Names Family.mysql.dialect nested := by
      rintro nested ⟨digits, _, member, -⟩
      rw [tokens] at member
      cases member
    have limits : (fewNotes "5").LimitsWritable Family.mysql.dialect false := by
      have range : (fewNotes "5").rowRange Family.mysql.dialect = some (0, 5) := by decide +kernel
      refine .intro ?_ fun nested names => absurd names (unnamed nested)
      rw [range]
      exact fun _ => ⟨writable_zero, writable_iff.mpr (by decide +kernel)⟩
    refine ⟨limit, arguments, fun select same => ?_, limits, List.forall_mem_nil _⟩
    cases same
    exact .intro limit arguments (tokens ▸ List.forall_mem_nil _) fun nested names =>
      absurd names (unnamed nested)
  have known : (match (compilePlan Family.mysql.dialect (.select (fewNotes "²"))).result with
      | .error failure => (failure.className, failure.text, failure.class?.isNone)
      | .ok _ => ("", "", false)) =
        ("ValueError", "invalid literal for int() with base 10: '²'", true) := by
    decide +kernel
  rcases commands_compile_or_report (.read (returned "²")) .mysql {} with
    ⟨plan, ended⟩ | ⟨failure, ended, blamed⟩
  · rw [ended] at known
    simp only [Prod.mk.injEq] at known
    exact absurd known.1 (by decide)
  · rw [ended] at known
    simp only [Prod.mk.injEq] at known
    obtain ⟨kind, text, unreported⟩ := known
    refine ⟨⟨.read (returned "5"), legible⟩, .read (returned "²"), ?_, failure, ended, kind, text⟩
    rcases blamed with report | ⟨illegible, -⟩
    · rw [report] at unreported
      cases unreported
    · exact illegible

end PortableSql
