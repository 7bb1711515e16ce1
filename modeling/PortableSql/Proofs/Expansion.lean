import PortableSql.Proofs.Success

/-!
# Expansion of subqueries

A select is composed of its clauses part by part. Each part is a statement of its own: a text, the
name or the mark that an argument becomes, or the statement of a subquery between parentheses.
Which statement a token stands for depends on the subquery that it names and on nothing else, so a
token means the same in every clause, among any other tokens and as often as it occurs.

A select compiles to a statement exactly when the statement is composed like this and the numbers of
its limit can be written where they are. The statements of subqueries are compiled on their own, so
the same holds of them, down to any depth.
-/

namespace PortableSql

/-- An item of a clause consumes exactly these arguments and is expanded to the statement, given
the subqueries that tokens may name. -/
inductive Item.Expands (dialect : Dialect) (subqueries : List Select) :
    Item → List Value → Statement → Prop
  | text {characters} : Expands dialect subqueries (.text characters) []
      { sql := String.ofList characters }
  | name {clause value quoted} : dialect.quotedValue (clause ++ " argument") value = .ok quoted →
    Expands dialect subqueries (.placeholder clause .name) [value] { sql := quoted }
  | value {clause value} : Expands dialect subqueries (.placeholder clause .value) [value]
      { sql := "?", parameters := [.infer value] }
  | subquery {digits index nested statement rowFilter} : Sql.tokenIndex digits = .ok index →
    subqueries[index]? = some nested →
    (compileSelect dialect true none nested).result = .ok (statement, rowFilter) →
    Expands dialect subqueries (.subquery digits) []
      { sql := "(" ++ statement.sql ++ ")", parameters := statement.parameters }

/-- The text of a limit, where the dialect has the standard one. -/
def limitText (dialect : Dialect) : Option (Int × Int) → String
  | none => ""
  | some (offset, count) =>
    if dialect.table.limitSyntax = .limitOffset then standardLimit offset count else ""

/-- The row filter for a limit, where the dialect cannot limit rows; a subquery has none. -/
def limitFilter (dialect : Dialect) (nested : Bool) : Option (Int × Int) → Option RowFilter
  | none => none
  | some (offset, count) =>
    if dialect.table.limitSyntax = .limitOffset || nested then none
    else some { skip := offset, take := some count }

namespace Select

/-- How a select is composed: its items, expanded one by one, and its limit consume its arguments
in their order. -/
structure Composition (dialect : Dialect) (into : Option String) (select : Select) where
  clauseArgs : List Value
  limitArgs : List Value
  divided : select.args = clauseArgs ++ limitArgs
  parts : List Statement
  expanded : Sequence (Item.Expands dialect select.subqueries) (select.items dialect into)
    clauseArgs parts
  limit : Option (Int × Int)
  limited : LimitBinds select.limit limitArgs limit

namespace Composition

variable {dialect : Dialect} {into : Option String} {select : Select}

/-- The parts in a row, and the limit behind them. -/
def statement (composition : Composition dialect into select) : Statement where
  sql := String.join (composition.parts.map Statement.sql) ++ limitText dialect composition.limit
  parameters := composition.parts.flatMap Statement.parameters

def rowFilter (composition : Composition dialect into select) (nested : Bool) :
    Option RowFilter :=
  limitFilter dialect nested composition.limit

/-- The numbers of the limit can be written where they are. -/
def Writable (composition : Composition dialect into select) (nested : Bool) : Prop :=
  LimitWritable dialect nested composition.limit

end Composition

end Select

/-! ## Compiling to what is composed -/

namespace Line

/-- The statement of lines in a row is put together from their statements. -/
theorem statement_flatten (lines : List Line) :
    statement lines.flatten = {
      sql := String.join ((lines.map statement).map Statement.sql)
      parameters := (lines.map statement).flatMap Statement.parameters } := by
  induction lines with
  | nil => rfl
  | cons first rest inductionHypothesis =>
    obtain ⟨text, parameters⟩ := Statement.mk.inj inductionHypothesis
    simp [statement, text, parameters]

end Line

section

variable {dialect : Dialect}

/-- A subquery is written as its statement says. -/
theorem nestedLine_ok {select : Select} {statement : Statement} :
    (∃ line, nestedLine dialect select = .ok line ∧ statement = line.statement) ↔
      ∃ rowFilter, (compileSelect dialect true none select).result = .ok (statement, rowFilter) := by
  rw [(compileSelect_gives dialect true none select).result_eq, nestedLine_eq]
  change (∃ line, (selectLine dialect true none select).map Prod.fst = .ok line ∧ _) ↔ _
  simp only [Reporting.map_ok, Prod.mk.injEq]
  constructor
  · rintro ⟨_, ⟨⟨line, rowFilter⟩, ended, rfl⟩, rfl⟩
    exact ⟨rowFilter, _, ended, rfl, rfl⟩
  · rintro ⟨_, ⟨line, _⟩, ended, rfl, rfl⟩
    exact ⟨line, ⟨_, ended, rfl⟩, rfl⟩

/-- An item is expanded to the statement of what is written for it. -/
theorem expands_iff (selects : List Select) (item : Item) (consumed : List Value)
    (statement : Statement) :
    item.Expands dialect selects consumed statement ↔
      ∃ line, ItemBinds dialect (nestedLines dialect selects) item consumed line ∧
        statement = line.statement := by
  constructor
  · intro expands
    cases expands with
    | text => exact ⟨_, .text, by simp [Line.statement, Line.sql]⟩
    | name known => exact ⟨_, .name known, by simp [Line.statement]⟩
    | value => exact ⟨_, .value, rfl⟩
    | subquery known found compiled =>
      obtain ⟨line, ended, rfl⟩ := nestedLine_ok.mpr ⟨_, compiled⟩
      have named := (namedLine_nestedLines dialect).mpr ⟨_, _, known, found, ended⟩
      exact ⟨_, .subquery named, by simp [Line.statement, String.append_assoc]⟩
  · rintro ⟨line, binds, rfl⟩
    cases binds with
    | text => simpa [Line.statement, Line.sql] using Item.Expands.text
    | name known => simpa [Line.statement] using Item.Expands.name known
    | value => exact .value
    | subquery named =>
      obtain ⟨index, nested, known, found, ended⟩ := (namedLine_nestedLines dialect).mp named
      obtain ⟨rowFilter, compiled⟩ := nestedLine_ok.mp ⟨_, ended, rfl⟩
      simpa [Line.statement, String.append_assoc] using
        Item.Expands.subquery known found compiled

theorem sequence_expands {selects : List Select} {items : List Item} {consumed : List Value}
    {parts : List Statement} :
    Sequence (Item.Expands dialect selects) items consumed parts ↔
      ∃ lines, Sequence (ItemBinds dialect (nestedLines dialect selects)) items consumed lines ∧
        parts = lines.map Line.statement :=
  sequence_map (expands_iff selects)

/-- The statement of a limited line. -/
theorem limited_eq (nested : Bool) (body : Line) (limit : Option (Int × Int)) :
    ((limited dialect nested body limit).1.statement, (limited dialect nested body limit).2) =
      ({ body.statement with sql := body.statement.sql ++ limitText dialect limit },
        limitFilter dialect nested limit) := by
  cases limit with
  | none => simp [limited, limitText, limitFilter, Line.statement]
  | some numbers =>
    obtain ⟨offset, count⟩ := numbers
    by_cases standard : dialect.table.limitSyntax = .limitOffset
    · simp [limited, limitText, limitFilter, standard, Line.statement]
    · cases nested <;> simp [limited, limitText, limitFilter, standard, Line.statement]

/-- A select compiles exactly to what it is composed of, if its limit can be written. -/
theorem compileSelect_ok {nested : Bool} {into : Option String} {select : Select}
    {statement : Statement} {rowFilter : Option RowFilter} :
    (compileSelect dialect nested into select).result = .ok (statement, rowFilter) ↔
      ∃ composition : select.Composition dialect into, composition.Writable nested ∧
        statement = composition.statement ∧ rowFilter = composition.rowFilter nested := by
  rw [(compileSelect_gives dialect nested into select).result_eq, Reporting.map_ok]
  simp only [selectLine, assembledLine_ok]
  constructor
  · rintro ⟨_, ⟨clauseArgs, limitArgs, body, limit, divided, binds, limited, writable, rfl⟩, same⟩
    obtain ⟨lines, sequence, rfl⟩ := binds_iff_sequence.mp binds
    have expanded := sequence_expands.mpr ⟨lines, sequence, rfl⟩
    refine ⟨⟨clauseArgs, limitArgs, divided, _, expanded, limit, limited⟩, writable, ?_⟩
    rw [limited_eq, Line.statement_flatten] at same
    exact Prod.mk.inj same
  · rintro ⟨composition, writable, rfl, rfl⟩
    obtain ⟨lines, sequence, parts⟩ := sequence_expands.mp composition.expanded
    refine ⟨_, ⟨_, _, lines.flatten, _, composition.divided, ?_, composition.limited, writable,
      rfl⟩, ?_⟩
    · exact binds_iff_sequence.mpr ⟨lines, sequence, rfl⟩
    · rw [limited_eq, Line.statement_flatten, ← parts]
      rfl

end

namespace Select

/-- The tokens of the select name the same subqueries among these as among its own. -/
def NamesAmong (dialect : Dialect) (select : Select) (others : List Select) : Prop :=
  ∀ digits ∈ select.tokens dialect, ∀ index, Sql.tokenIndex digits = .ok index →
    others[index]? = select.subqueries[index]?

theorem NamesAmong.of_item {dialect : Dialect} {into : Option String} {select : Select}
    {others : List Select} (same : select.NamesAmong dialect others) :
    ∀ item ∈ select.items dialect into, ∀ digits index, item = .subquery digits →
      Sql.tokenIndex digits = .ok index → others[index]? = select.subqueries[index]? := by
  rintro _ member digits index rfl
  exact same digits (token_of_item dialect member) index

end Select

/-- The expansion of an item depends on no subquery but the one that it names. -/
theorem Item.Expands.among {dialect : Dialect} {item : Item} {selects others : List Select}
    {consumed : List Value} {statement : Statement}
    (expands : item.Expands dialect selects consumed statement)
    (same : ∀ digits index, item = .subquery digits → Sql.tokenIndex digits = .ok index →
      others[index]? = selects[index]?) :
    item.Expands dialect others consumed statement := by
  cases expands with
  | text => exact .text
  | name known => exact .name known
  | value => exact .value
  | subquery known found compiled =>
    exact .subquery known ((same _ _ rfl known).trans found) compiled

/-- A select compiles alike with other subqueries that its tokens do not name. -/
theorem compileSelect_among {dialect : Dialect} {nested : Bool} {into : Option String}
    {select : Select} {others : List Select} (same : select.NamesAmong dialect others)
    (written : Statement × Option RowFilter) :
    (compileSelect dialect nested into { select with subqueries := others }).result = .ok written ↔
      (compileSelect dialect nested into select).result = .ok written := by
  obtain ⟨statement, rowFilter⟩ := written
  rw [compileSelect_ok, compileSelect_ok]
  constructor
  · rintro ⟨⟨clauseArgs, limitArgs, divided, parts, expanded, limit, limited⟩, writable, rfl, rfl⟩
    have own := sequence_congr (fun item member _ _ expands =>
      Item.Expands.among expands fun digits index token known =>
        (same.of_item item member digits index token known).symm) expanded
    exact ⟨⟨clauseArgs, limitArgs, divided, parts, own, limit, limited⟩, writable, rfl, rfl⟩
  · rintro ⟨⟨clauseArgs, limitArgs, divided, parts, expanded, limit, limited⟩, writable, rfl, rfl⟩
    have among := sequence_congr (fun item member _ _ expands =>
      Item.Expands.among expands (same.of_item item member)) expanded
    exact ⟨⟨clauseArgs, limitArgs, divided, parts, among, limit, limited⟩, writable, rfl, rfl⟩

/-- Only outside of all subqueries, and only where the dialect cannot limit rows, is there a row
filter. -/
theorem limitFilter_some {dialect : Dialect} {nested : Bool} {limit : Option (Int × Int)}
    (filters : limitFilter dialect nested limit ≠ none) :
    nested = false ∧ dialect.table.limitSyntax = .emulated := by
  unfold limitFilter at filters
  split at filters
  · exact absurd rfl filters
  · cases syntax_ : dialect.table.limitSyntax <;> cases nested <;> simp_all

/-! ## Plans -/

section

variable {dialect : Dialect}

/-- The plan of a select has the one statement that the select is composed of. -/
theorem compilePlan_composed {context : Context} {select : Select} {plan : Plan}
    (ended : (compilePlan dialect (.select select) context).result = .ok plan) :
    ∃ composition : select.Composition dialect none,
      plan.statements = [composition.statement] ∧
      plan.rowFilter = composition.rowFilter context.nested := by
  rw [(compilePlan_gives dialect context (.select select) rfl).result_eq, writtenQuery,
    Reporting.map_map, Reporting.map_ok] at ended
  obtain ⟨⟨line, rowFilter⟩, written, rfl⟩ := ended
  have compiled : (compileSelect dialect context.nested none select).result =
      .ok (line.statement, rowFilter) := by
    rw [(compileSelect_gives dialect context.nested none select).result_eq, written]
    rfl
  obtain ⟨composition, -, statement, filtered⟩ := compileSelect_ok.mp compiled
  exact ⟨composition, congrArg (fun one => [one]) statement, filtered⟩

/-- What is made of a select by another command has no row filter. -/
theorem written_unfiltered {nested : Bool} {command : Command} {written : WrittenPlan}
    (other : ∀ select, command ≠ .select select)
    (known : command.written? dialect nested = some (.ok written)) : written.rowFilter = none := by
  cases command with
  | select select => exact absurd rfl (other select)
  | insert insert =>
    have ended : writtenInsert dialect insert = .ok written := Option.some.inj known
    unfold writtenInsert at ended
    obtain ⟨_, -, ended⟩ := Reporting.bind_ok.mp ended
    obtain ⟨table, -, ended⟩ := Reporting.bind_ok.mp ended
    cases source : insert.select with
    | some select =>
      rw [source] at ended
      obtain ⟨line, -, ended⟩ := Reporting.bind_ok.mp ended
      obtain ⟨columns, -, ended⟩ := Reporting.bind_ok.mp ended
      cases ended
      rfl
    | none =>
      rw [source] at ended
      obtain ⟨_, -, ended⟩ := Reporting.bind_ok.mp ended
      obtain ⟨names, -, ended⟩ := Reporting.bind_ok.mp ended
      cases ended
      rfl
  | update _ | delete _ | set _ =>
    obtain ⟨line, -, rfl⟩ := Reporting.map_ok.mp (Option.some.inj known)
    rfl
  | createTable creation =>
    obtain ⟨select, -, ended⟩ := Option.map_eq_some_iff.mp known
    unfold writtenTableFrom at ended
    obtain ⟨_, -, ended⟩ := Reporting.bind_ok.mp ended
    obtain ⟨table, -, ended⟩ := Reporting.bind_ok.mp ended
    split at ended
    · obtain ⟨line, -, ended⟩ := Reporting.bind_ok.mp ended
      cases ended
      rfl
    · obtain ⟨_, -, ended⟩ := Reporting.bind_ok.mp ended
      cases ended
      rfl
  | _ => cases known

/-- Of the commands that may hold a select only the select itself has a row filter, if it is no
part of another command and the dialect cannot limit rows. -/
theorem compilePlan_filtered {context : Context} {command : Command} {plan : Plan}
    (written : (command.written? dialect context.nested).isSome = true)
    (ended : (compilePlan dialect command context).result = .ok plan)
    (filters : plan.rowFilter ≠ none) :
    (∃ select, command = .select select) ∧ context.nested = false ∧
      dialect.table.limitSyntax = .emulated := by
  by_cases query : ∃ select, command = .select select
  · obtain ⟨select, rfl⟩ := query
    obtain ⟨composition, -, filtered⟩ := compilePlan_composed ended
    exact ⟨⟨select, rfl⟩, limitFilter_some (filtered ▸ filters)⟩
  · obtain ⟨outcome, known⟩ := Option.isSome_iff_exists.mp written
    rw [(compilePlan_gives dialect context command known).result_eq, Reporting.map_ok] at ended
    obtain ⟨lines, rfl, rfl⟩ := ended
    have other : ∀ select, command ≠ .select select := fun select same => query ⟨select, same⟩
    exact absurd (written_unfiltered other known) filters

end

/-- A select compiles, in any dialect and at any depth, exactly to a statement that is composed of
its items and its limit, which has to be one that can be written: a token becomes the statement that
the named subquery compiles to on its own, between parentheses and with all its parameters at this
place, wherever and however often it stands. Subqueries that no token names do not matter. Only a
select that is no subquery and no part of another command has a row filter, and only where the
dialect cannot limit rows. -/
theorem subqueries_composed (dialect : Dialect) (nested : Bool) (into : Option String)
    (select : Select) :
    (∀ statement rowFilter,
      (compileSelect dialect nested into select).result = .ok (statement, rowFilter) ↔
        ∃ composition : select.Composition dialect into, composition.Writable nested ∧
          statement = composition.statement ∧ rowFilter = composition.rowFilter nested) ∧
    (∀ others, select.NamesAmong dialect others → ∀ written,
      (compileSelect dialect nested into { select with subqueries := others }).result =
          .ok written ↔
        (compileSelect dialect nested into select).result = .ok written) ∧
    (∀ statement rowFilter,
      (compileSelect dialect nested into select).result = .ok (statement, rowFilter) →
        rowFilter ≠ none → nested = false ∧ dialect.table.limitSyntax = .emulated) ∧
    (∀ context plan, (compilePlan dialect (.select select) context).result = .ok plan →
      ∃ composition : select.Composition dialect none,
        plan.statements = [composition.statement] ∧
        plan.rowFilter = composition.rowFilter context.nested) ∧
    ∀ (command : Command) context plan, (command.written? dialect context.nested).isSome = true →
      (compilePlan dialect command context).result = .ok plan → plan.rowFilter ≠ none →
        (∃ query, command = .select query) ∧ context.nested = false ∧
          dialect.table.limitSyntax = .emulated := by
  refine ⟨fun _ _ => compileSelect_ok, fun _ => compileSelect_among, ?_,
    fun _ _ => compilePlan_composed, fun _ _ _ => compilePlan_filtered⟩
  intro statement rowFilter ended filters
  obtain ⟨composition, -, -, rfl⟩ := compileSelect_ok.mp ended
  exact limitFilter_some filters

/-- The users of an organisation. -/
def memberIds : Select where
  args := [.int 7]
  columns := .text "id"
  source := some "users"
  condition := some "org = ?"

/-- Five notes that a member has written or a member reads, with an argument in between. -/
def notesOfMembers : Select where
  args := [.int 1]
  source := some "notes"
  condition := some "author IN {0} OR level = ? OR reader IN {0}"
  limit := some (.count 5)
  subqueries := [memberIds]

/-- A subquery that is named twice brings its parameters twice, and one that is not named does not
matter. -/
theorem notesOfMembers_composed :
    ∃ composition : notesOfMembers.Composition Family.mssql.dialect none,
      composition.statement.sql =
        "SELECT * FROM notes WHERE author IN (SELECT id FROM users WHERE org = ?) " ++
          "OR level = ? OR reader IN (SELECT id FROM users WHERE org = ?)" ∧
      composition.statement.parameters.map (fun parameter => parameter.value.plain) =
        ["7", "1", "7"] ∧
      composition.rowFilter false = some { take := some 5 } ∧
      (compileSelect Family.mssql.dialect false none
        { notesOfMembers with subqueries := [memberIds, {}] }).result =
          .ok (composition.statement, composition.rowFilter false) ∧
      Family.mssql.dialect.table.limitSyntax = .emulated ∧
      ∃ plan, (compilePlan Family.mssql.dialect (.select notesOfMembers)).result = .ok plan ∧
        plan.rowFilter = some { take := some 5 } ∧
        ∃ query, Command.select notesOfMembers = .select query := by
  obtain ⟨composed, unnamed, filtered, -, plans⟩ :=
    subqueries_composed Family.mssql.dialect false none notesOfMembers
  have known : ((compileSelect Family.mssql.dialect false none notesOfMembers).result.toOption.map
      fun written => (written.1.sql,
        written.1.parameters.map fun parameter => parameter.value.plain, written.2)) =
      some ("SELECT * FROM notes WHERE author IN (SELECT id FROM users WHERE org = ?) " ++
        "OR level = ? OR reader IN (SELECT id FROM users WHERE org = ?)", ["7", "1", "7"],
        some { take := some 5 }) := by
    decide +kernel
  obtain ⟨⟨statement, rowFilter⟩, ended, same⟩ := Option.map_eq_some_iff.mp known
  obtain ⟨sql, parameters, filter⟩ : _ ∧ _ ∧ _ := by simpa only [Prod.mk.injEq] using same
  have compiled := Reporting.toOption_eq_some.mp ended
  obtain ⟨composition, -, rfl, rfl⟩ := (composed _ _).mp compiled
  have named : notesOfMembers.NamesAmong Family.mssql.dialect [memberIds, {}] := by
    have tokens : notesOfMembers.tokens Family.mssql.dialect = [['0'], ['0']] := by decide +kernel
    intro digits member index read
    have first : Sql.tokenIndex ['0'] = .ok 0 := by cbv
    obtain rfl : digits = ['0'] := by simpa [tokens] using member
    cases first.symm.trans read
    rfl
  have emulated := (filtered _ _ compiled (by rw [filter]; simp)).2
  have planned : ((compilePlan Family.mssql.dialect (.select notesOfMembers)).result.toOption.map
      Plan.rowFilter) = some (some { take := some 5 }) := by decide +kernel
  obtain ⟨plan, endedPlan, filterPlan⟩ := Option.map_eq_some_iff.mp planned
  have plain := Reporting.toOption_eq_some.mp endedPlan
  refine ⟨composition, sql, parameters, filter, (unnamed _ named _).mpr compiled, emulated, plan,
    plain, filterPlan, (plans _ _ _ rfl plain ?_).1⟩
  rw [filterPlan]
  simp

end PortableSql
