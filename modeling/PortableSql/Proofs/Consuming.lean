import PortableSql.Proofs.Success

/-!
# No argument is left over

A command that compiles has consumed its arguments: one for each placeholder of its clauses and of
its limit, in their order. Commands whose clauses have no placeholders refuse arguments before
anything else is looked at. The listings are the exception: they never look at their arguments, so
whatever is given to them is left over.
-/

namespace PortableSql

/-- The clauses of such commands may have placeholders. -/
def Tag.TakesArguments : Tag → Prop
  | select | update | delete | set => True
  | _ => False

/-- Such commands list or show something. -/
def Tag.Lists : Tag → Prop
  | showDatabases | showTables | showCreateDatabase | showCreateTable => True
  | _ => False

namespace Command

/-- Where the arguments of a command land, from left to right. -/
def landings (dialect : Dialect) : Command → List Landing
  | select command => command.landings dialect
  | update command => restrictionLandings dialect command.condition command.ordering command.limit
  | delete command => restrictionLandings dialect command.condition command.ordering command.limit
  | set command => clauseLandings dialect (settingUse dialect) false (some command.statement)
  | _ => []

/-- The select that a command runs or whose rows it uses. -/
def query? : Command → Option Select
  | select command => some command
  | insert command => command.select
  | createTable command => command.select
  | _ => none

/-- The offset and the count of rows to change, whose arguments stand behind those of the condition
and of the order. -/
def restrictionRange (dialect : Dialect) (condition ordering : Option String)
    (limit : Option Limit) (arguments : List Value) : Option (Int × Int) :=
  limitAt ((clauseLandings dialect .value false condition).length +
    (clauseLandings dialect .name false ordering).length) arguments limit

/-- The numbers of a change are read behind the arguments of its condition and of its order. -/
theorem restrictionRange_eq {dialect : Dialect} {condition ordering : Option String}
    {limit : Option Limit} {first second third : List Value} {selected ordered : Line}
    {numbers : Option (Int × Int)}
    (wheres : Binds dialect [] (optionalItems dialect "WHERE" .value false condition) first
      selected)
    (orders : Binds dialect [] (optionalItems dialect "ORDER BY" .name false ordering) second
      ordered)
    (limits : LimitBinds limit third numbers) (others : List Value) :
    restrictionRange dialect condition ordering limit (first ++ (second ++ (third ++ others))) =
      numbers := by
  have countedFirst := wheres.length_eq
  have countedSecond := orders.length_eq
  rw [landings_optionalItems] at countedFirst countedSecond
  rw [restrictionRange, ← countedFirst, ← countedSecond, ← List.length_append,
    ← List.append_assoc]
  exact limits.limitAt_eq (first ++ second) others

/-- The numbers that are written of the limits of a command have few enough digits. -/
def LimitsWritable (dialect : Dialect) (nested : Bool) : Command → Prop
  | select command => command.LimitsWritable dialect nested
  | insert command => ∀ select ∈ command.select, select.LimitsWritable dialect true
  | createTable command => ∀ select ∈ command.select, select.LimitsWritable dialect true
  | update command => RestrictionWritable dialect
      (restrictionRange dialect command.condition command.ordering command.limit command.args)
  | delete command => RestrictionWritable dialect
      (restrictionRange dialect command.condition command.ordering command.limit command.args)
  | _ => True

/-- Every argument of a command is consumed where it lands, and every argument of its select and of
the subqueries that tokens name. -/
structure Consumes (dialect : Dialect) (command : Command) : Prop where
  own : Fits dialect (command.landings dialect) command.args
  query : ∀ select ∈ command.query?, select.Compiles dialect true

end Command

/-- Why arguments are refused for a command without placeholders. -/
def surplusArguments (tag : Tag) (args : List Value) : Failure :=
  .validation (tag.spelling ++ " takes no placeholder arguments, " ++ toString args.length ++
    " given") "" .null .argumentMismatch

/-- A sequence whose first step fails fails by it. -/
theorem Reporting.Gives.bindError {α β : Type} {computation : Reporting α} {failure : Failure}
    (failed : computation.Gives (.error failure)) (next : α → Reporting β) :
    (computation >>= next).Gives (.error failure) := by
  have sequence := @Reporting.Gives.bind _ _ _ _ next (fun _ => .error failure) failed
  exact sequence fun _ wrong => nomatch wrong

/-- Arguments of a command without placeholders are refused before anything else. -/
theorem refuseArgs_bind_gives {α : Type} {tag : Tag} {args : List Value} {next : Unit → Reporting α}
    (given : args ≠ []) :
    (refuseArgs tag args >>= next).Gives (.error (surplusArguments tag args)) := by
  have refused : (refuseArgs tag args).Gives (.error (surplusArguments tag args)) := by
    unfold refuseArgs
    rw [if_neg (by simpa using given)]
    exact Reporting.gives_raise _
  exact refused.bindError next

section Bodies

variable {dialect : Dialect} {context : Context}

/-- A command without placeholders that is no listing refuses arguments. -/
theorem compileBody_refuses {command : Command} (bare : ¬ command.tag.TakesArguments)
    (active : ¬ command.tag.Lists) (given : command.args ≠ []) :
    (compileBody dialect context command).Gives
      (.error (surplusArguments command.tag command.args)) := by
  cases command with
  | select | update | delete | set => exact absurd trivial bare
  | showDatabases | showTables | showCreateDatabase | showCreateTable =>
    exact absurd trivial active
  | dropColumn command => exact refuseArgs_bind_gives given
  | insert | truncateTable | use | createDatabase | dropDatabase | createTable | dropTable
  | addColumn | addIndex | dropIndex | bulkImportMode =>
    exact (refuseArgs_bind_gives given).map _

/-- The restrictions of a change bind one argument for each of their placeholders. -/
theorem RestrictionsBind.fits {tag : Tag} {condition ordering : Option String}
    {limit : Option Limit} {consumed : List Value} {line : Line}
    (binds : RestrictionsBind dialect tag condition ordering limit consumed line) :
    Fits dialect (restrictionLandings dialect condition ordering limit) consumed := by
  obtain ⟨first, second, third, selected, ordered, numbers, limitText, rfl, wheres, orders, limits,
    -, -⟩ := binds
  have fitsFirst := (binds_iff.mp ⟨selected, wheres⟩).2
  have fitsSecond := (binds_iff.mp ⟨ordered, orders⟩).2
  rw [landings_optionalItems] at fitsFirst fitsSecond
  refine fits_append.mpr ⟨first, second ++ third, rfl, fitsFirst, ?_⟩
  exact fits_append.mpr ⟨second, third, rfl, fitsSecond, (limitBinds_iff.mp ⟨numbers, limits⟩).2⟩

/-- Where the restrictions of a change are written, their count can be. -/
theorem RestrictionsBind.writable {tag : Tag} {condition ordering : Option String}
    {limit : Option Limit} {arguments : List Value} {line : Line}
    (binds : RestrictionsBind dialect tag condition ordering limit arguments line) :
    RestrictionWritable dialect
      (Command.restrictionRange dialect condition ordering limit arguments) := by
  obtain ⟨first, second, third, selected, ordered, numbers, limitText, rfl, wheres, orders, limits,
    known, -⟩ := binds
  have range := Command.restrictionRange_eq wheres orders limits []
  rw [List.append_nil] at range
  rw [range]
  exact (restrictionLimit_ok.mp ⟨limitText, known⟩).2

/-- A command without placeholders of its own consumes its arguments when it has none. -/
theorem Command.consumes_bare {command : Command} (bare : ¬ command.tag.TakesArguments)
    (none : command.args = []) (query : ∀ select ∈ command.query?, select.Compiles dialect true) :
    command.Consumes dialect := by
  refine ⟨?_, query⟩
  rw [none]
  cases command with
  | select | update | delete | set => exact absurd trivial bare
  | _ => exact fits_nil.mpr rfl

/-- The select whose rows are inserted is written with all of its arguments and its limits. -/
theorem insert_query {insert : Insert} {written : WrittenPlan}
    (ended : writtenInsert dialect insert = .ok written) :
    ∀ select ∈ insert.select,
      select.Compiles dialect true ∧ select.LimitsWritable dialect true := by
  intro select given
  unfold writtenInsert at ended
  rw [Option.mem_def.mp given] at ended
  obtain ⟨_, -, ended⟩ := Reporting.bind_ok.mp ended
  obtain ⟨_, -, ended⟩ := Reporting.bind_ok.mp ended
  obtain ⟨line, nested, -⟩ := Reporting.bind_ok.mp ended
  exact (nestedLine_compiles dialect select).mp ⟨line, nested⟩

/-- The select that a table is created from is written with all of its arguments and its limits. -/
theorem tableFrom_query {creation : CreateTable} {select : Select} {written : WrittenPlan}
    (ended : writtenTableFrom dialect creation select = .ok written) :
    select.Compiles dialect true ∧ select.LimitsWritable dialect true := by
  obtain ⟨_, -, ended⟩ := Reporting.bind_ok.mp ended
  obtain ⟨table, -, ended⟩ := Reporting.bind_ok.mp ended
  split at ended
  · obtain ⟨line, nested, -⟩ := Reporting.bind_ok.mp ended
    exact (nestedLine_compiles dialect select).mp ⟨line, nested⟩
  · obtain ⟨line, selected, -⟩ := Reporting.bind_ok.mp ended
    exact (selectLine_compiles dialect).mp ⟨line, selected⟩

/-- What is written for a command that is no listing has consumed its arguments. -/
theorem Command.consumes_written {command : Command} {nested : Bool}
    {outcome : Except Failure WrittenPlan} {written : WrittenPlan}
    (given : command.written? dialect nested = some outcome) (ended : outcome = .ok written)
    (none : ¬ command.tag.TakesArguments → command.args = []) : command.Consumes dialect := by
  subst ended
  cases command with
  | select command =>
    obtain ⟨line, ended, -⟩ := Reporting.map_ok.mp (Option.some.inj given)
    have compiles := ((selectLine_compiles dialect).mp ⟨line, ended⟩).1
    refine ⟨?_, fun select same => Option.some.inj same ▸ compiles⟩
    obtain ⟨compilable, -⟩ := compiles
    exact ⟨compilable.count rfl, compilable.accepted⟩
  | insert command =>
    exact consumes_bare id (none id) fun select same =>
      (insert_query (Option.some.inj given) select same).1
  | update command =>
    obtain ⟨line, ended, -⟩ := Reporting.map_ok.mp (Option.some.inj given)
    obtain ⟨_, _, _, _, -, -, -, restricted, -⟩ := updateLine_ok.mp ended
    exact ⟨restricted.fits, fun _ wrong => nomatch wrong⟩
  | delete command =>
    obtain ⟨line, ended, -⟩ := Reporting.map_ok.mp (Option.some.inj given)
    obtain ⟨_, _, -, restricted, -⟩ := deleteLine_ok.mp ended
    exact ⟨restricted.fits, fun _ wrong => nomatch wrong⟩
  | set command =>
    obtain ⟨line, ended, -⟩ := Reporting.map_ok.mp (Option.some.inj given)
    obtain ⟨body, binds, -⟩ := setLine_ok.mp ended
    have fits := (binds_iff.mp ⟨body, binds⟩).2
    rw [landings_clauseItems] at fits
    exact ⟨fits, fun _ wrong => nomatch wrong⟩
  | createTable command =>
    obtain ⟨select, known, ended⟩ := Option.map_eq_some_iff.mp given
    refine consumes_bare id (none id) fun other same => ?_
    cases known.symm.trans same
    exact (tableFrom_query ended).1
  | _ => cases given

/-- What is written for a command is written with its limits. -/
theorem Command.limitsWritable_written {command : Command} {nested : Bool}
    {written : WrittenPlan} (given : command.written? dialect nested = some (.ok written)) :
    command.LimitsWritable dialect nested := by
  cases command with
  | select command =>
    obtain ⟨line, ended, -⟩ := Reporting.map_ok.mp (Option.some.inj given)
    exact ((selectLine_compiles dialect).mp ⟨line, ended⟩).2
  | insert command =>
    exact fun select same => (insert_query (Option.some.inj given) select same).2
  | update command =>
    obtain ⟨line, ended, -⟩ := Reporting.map_ok.mp (Option.some.inj given)
    obtain ⟨_, _, _, _, -, -, -, restricted, -⟩ := updateLine_ok.mp ended
    exact restricted.writable
  | delete command =>
    obtain ⟨line, ended, -⟩ := Reporting.map_ok.mp (Option.some.inj given)
    obtain ⟨_, _, -, restricted, -⟩ := deleteLine_ok.mp ended
    exact restricted.writable
  | createTable command =>
    obtain ⟨select, known, ended⟩ := Option.map_eq_some_iff.mp given
    intro other same
    cases known.symm.trans same
    exact (tableFrom_query ended).2
  | _ => trivial

end Bodies

/-- A listing is compiled without a look at its arguments. -/
theorem compile_listing (dialect : Dialect) (context : Context) {command : Command}
    (lists : command.tag.Lists) (args : List Value) :
    compile dialect context (command.withArgs args) = compile dialect context command := by
  cases command with
  | showDatabases | showTables | showCreateDatabase | showCreateTable => rfl
  | _ => exact lists.elim

/-- A command that is no listing compiles only when its arguments are consumed: its own, by the
placeholders of its clauses and its limit, one by each, and those of its select. A command without
such placeholders refuses arguments before anything else. Listings alone drop what is given to
them, on every dialect.

Proof: a command is written, and then its relation to its arguments says which of them land where;
or it is not, and then the check of its arguments comes first. -/
theorem arguments_consumed (dialect : Dialect) (context : Context) (command : Command) :
    (¬ command.tag.Lists → ∀ compilation,
      (compile dialect context command).result = .ok compilation → command.Consumes dialect) ∧
    (¬ command.tag.Lists → ¬ command.tag.TakesArguments → command.args ≠ [] →
      (compile dialect context command).result =
        .error (surplusArguments command.tag command.args)) ∧
    (command.tag.Lists → ∀ args,
      compile dialect context (command.withArgs args) = compile dialect context command) := by
  have refuses : ¬ command.tag.Lists → ¬ command.tag.TakesArguments → command.args ≠ [] →
      (compile dialect context command).result =
        .error (surplusArguments command.tag command.args) := fun active bare given =>
    ((compileBody_refuses bare active given).bindError _).result_eq
  refine ⟨fun active compilation compiled => ?_, refuses, compile_listing dialect context⟩
  have none : ¬ command.tag.TakesArguments → command.args = [] := by
    intro bare
    by_contra given
    cases compiled.symm.trans (refuses active bare given)
  cases given : command.written? dialect context.nested with
  | some outcome =>
    have body := compileBody_gives dialect context command given
    cases outcome with
    | ok written => exact Command.consumes_written given rfl none
    | error failure =>
      change Reporting.Gives _ (.error failure) at body
      cases compiled.symm.trans (body.bindError _).result_eq
  | none =>
    cases command with
    | select | insert | update | delete | set => cases given
    | showDatabases | showTables | showCreateDatabase | showCreateTable =>
      exact absurd trivial active
    | createTable command =>
      have columns : command.select = .none := Option.map_eq_none_iff.mp given
      refine Command.consumes_bare id (none id) fun select same => ?_
      cases columns.symm.trans same
    | truncateTable | use | createDatabase | dropDatabase | dropTable | addColumn | dropColumn
    | addIndex | dropIndex | bulkImportMode =>
      exact Command.consumes_bare id (none id) fun _ wrong => nomatch wrong

/-- The removal of a few notes of an owner; one argument is a value and one limits the rows. -/
def removalOfFew : Delete where
  table := "notes"
  condition := some "owner = ?"
  limit := some (.written "?")
  args := [.text "ann", .int 5]

/-- The arguments of a change are consumed, those of an index are refused, and those of a listing
are dropped without a failure. -/
theorem surplus_dropped_by_listings :
    ¬ Tag.delete.Lists ∧ (Command.delete removalOfFew).Consumes Family.mysql.dialect ∧
      ¬ Tag.dropIndex.Lists ∧ ¬ Tag.dropIndex.TakesArguments ∧
      (compile Family.mysql.dialect {} (.dropIndex { table := "t", name := "i", args := [.int 1] })
        ).result = .error (surplusArguments .dropIndex [.int 1]) ∧
      Tag.showDatabases.Lists ∧
      compile Family.mysql.dialect {} ((Command.showDatabases {}).withArgs [.int 1]) =
        compile Family.mysql.dialect {} (.showDatabases {}) ∧
      (compile Family.mysql.dialect {} (.showDatabases { args := [.int 1] })).result.toOption.isSome
        = true := by
  have compiles : (compile Family.mysql.dialect {} (.delete removalOfFew)).result.toOption.isSome =
      true := by
    decide +kernel
  obtain ⟨compilation, ended⟩ := Option.isSome_iff_exists.mp compiles
  have compiled := Reporting.toOption_eq_some.mp ended
  refine ⟨id, (arguments_consumed Family.mysql.dialect {} (.delete removalOfFew)).1 id compilation
    compiled, id, id, ?_, trivial, ?_, by decide +kernel⟩
  · exact (arguments_consumed Family.mysql.dialect {}
      (.dropIndex { table := "t", name := "i", args := [.int 1] })).2.1 id id
      (List.cons_ne_nil _ _)
  · exact (arguments_consumed Family.mysql.dialect {} (.showDatabases {})).2.2 trivial [.int 1]

end PortableSql
