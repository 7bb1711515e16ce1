import PortableSql.Proofs.Closed

/-!
# Marks and parameters

A driver scans the whole text of a statement and gives the first parameter to the first question
mark outside of quoted spans, the second one to the second, and so on. For a closed command this
gives every parameter to the mark that was emitted for it.

Statements begin outside of quoted spans, and a text without quotes leads there from behind a
quote. So a line is made of parts that are whole, with texts without quotes before and behind them.
-/

namespace PortableSql

namespace Line

variable {delimiters : List Sql.Delimiter}

/-- A whole line behind which another one is read like a text of its own. -/
structure Open (delimiters : List Sql.Delimiter) (line : Line) : Prop where
  whole : line.Whole delimiters
  outside : Sql.Mode.outside.after delimiters line.characters = .outside

theorem Open.append {line other : Line} (left : Open delimiters line)
    (right : Whole delimiters other) : Whole delimiters (line ++ other) :=
  Scans.append left.whole (left.outside.symm ▸ right)

/-- A closed text without placeholders is whole. -/
theorem whole_ofText {text : String} (closed : Sql.quoteClosed delimiters text = true)
    (unmarked : Sql.countPlaceholders delimiters text = 0) : Whole delimiters (ofText text) := by
  constructor
  · rw [characters_ofText, flags_ofText, Sql.flags_of_unmarked unmarked]
  · rw [characters_ofText]
    exact Sql.settled_of_quoteClosed closed

end Line

/-- What is related to the items of a list is related to one of them each. -/
theorem exists_related {α β : Type} {relation : α → β → Prop} {items : List α} {others : List β}
    (related : List.Forall₂ relation items others) {other : β} (member : other ∈ others) :
    ∃ item ∈ items, relation item other := by
  induction related with
  | nil => cases member
  | cons first _ inductionHypothesis =>
    rcases List.mem_cons.mp member with rfl | inside
    · exact ⟨_, List.mem_cons_self, first⟩
    · obtain ⟨item, within, known⟩ := inductionHypothesis inside
      exact ⟨item, List.mem_cons_of_mem _ within, known⟩

/-- A fragment that may be written as it is has no placeholders. -/
theorem placeholders_of_fragmentAllowed {dialect : Dialect} {column fragment : String}
    (allowed : fragmentAllowed dialect column fragment = .ok ()) :
    dialect.placeholders fragment = 0 := by
  unfold fragmentAllowed refusePlaceholders at allowed
  by_contra marked
  rw [if_neg marked] at allowed
  cases allowed

namespace Quoting

variable {dialect : Dialect} (quoting : Quoting dialect)

include quoting

/-- A text without quotes opens the line behind a whole one. -/
theorem open_behind {line : Line} (text : String)
    (whole : line.Whole dialect.table.quotedSpans) (plain : Plain text.toList)
    (full : text.toList ≠ []) : Line.Open dialect.table.quotedSpans (line ++ Line.ofText text) where
  whole := whole.append (quoting.steady_plain plain)
  outside := by
    rw [Line.characters_append, Sql.Mode.after_append, Line.characters_ofText,
      (quoting.scan_plain plain whole.settled).2, if_neg (by simpa using full)]

theorem open_plain (text : String) (plain : Plain text.toList) (full : text.toList ≠ []) :
    Line.Open dialect.table.quotedSpans (Line.ofText text) :=
  quoting.open_behind text Line.steady_nil.whole plain full

/-- Whole lines with commas between them are whole together. -/
theorem whole_listed {lines : List Line}
    (whole : ∀ line ∈ lines, line.Whole dialect.table.quotedSpans) :
    (Line.listed lines).Whole dialect.table.quotedSpans := by
  induction lines with
  | nil => exact Line.steady_nil.whole
  | cons first rest inductionHypothesis =>
    obtain ⟨wholeFirst, wholeRest⟩ := List.forall_mem_cons.mp whole
    cases rest with
    | nil => rwa [Line.listed, List.intercalate_singleton]
    | cons second others =>
      rw [Line.listed, List.intercalate_cons_cons]
      have comma := quoting.open_behind ", " wholeFirst (by decide) (by decide)
      exact comma.append (inductionHypothesis wholeRest)

/-- Quoted names with commas between them are whole. -/
theorem whole_names {names quoted : List String} (safe : ∀ name ∈ names, dialect.SafeName name)
    (known : dialect.quotedAll names = .ok quoted) :
    (Line.listed (quoted.map Line.ofText)).Whole dialect.table.quotedSpans := by
  refine quoting.whole_listed fun line member => ?_
  obtain ⟨text, within, rfl⟩ := List.mem_map.mp member
  obtain ⟨name, inside, ended⟩ := exists_related (Reporting.mapM_eq_ok.mp known) within
  exact (quoting.steady_name (safe name inside) ended).whole

omit quoting in
theorem whole_fragment {column fragment : String}
    (closed : Sql.quoteClosed dialect.table.quotedSpans fragment = true)
    (allowed : fragmentAllowed dialect column fragment = .ok ()) :
    (Line.ofText fragment).Whole dialect.table.quotedSpans :=
  Line.whole_ofText closed (placeholders_of_fragmentAllowed allowed)

theorem whole_assignment {column : String} {value : Value} {line : Line}
    (safe : dialect.SafeName column) (assigns : Assigns dialect column value line) :
    line.Whole dialect.table.quotedSpans := by
  cases assigns with
  | reset known _ =>
    exact (quoting.steady_name safe known).whole.append (quoting.steady_plain (by decide))
  | null known =>
    exact (quoting.steady_name safe known).whole.append (quoting.steady_plain (by decide))
  | value known _ =>
    refine Line.Whole.append ?_ (quoting.steady_marker _)
    exact (quoting.steady_name safe known).whole.append (quoting.steady_plain (by decide))

theorem whole_joining {entry : String × String} {line : Line}
    (closed : FragmentClosed dialect entry) (joins : Joins dialect entry.1 entry.2 line) :
    line.Whole dialect.table.quotedSpans := by
  obtain ⟨quoted, allowed, known, rfl⟩ := joins
  have name := (quoting.steady_name closed.1 known).whole
  exact (quoting.open_behind " = " name (by decide) (by decide)).append
    (whole_fragment closed.2 allowed)

omit quoting in
/-- Where there are no subqueries, none is named. -/
theorem unnamed (digits : List Char) (line : Line) (named : namedLine [] digits = .ok line) :
    line.Whole dialect.table.quotedSpans := by
  obtain ⟨index, -, found⟩ := namedLine_ok.mp named
  cases found

/-- What is written for restrictions can follow anything. -/
theorem steady_restrictions {tag : Tag} {condition ordering : Option String}
    {limit : Option Limit} {arguments : List Value} {line : Line}
    (closed : RestrictionsClosed dialect condition ordering limit arguments)
    (binds : RestrictionsBind dialect tag condition ordering limit arguments line) :
    line.Steady dialect.table.quotedSpans := by
  obtain ⟨first, second, third, selected, ordered, numbers, limitText, rfl, wheres, orders, -,
    known, rfl⟩ := binds
  have countedFirst := wheres.length_eq
  have countedSecond := orders.length_eq
  rw [landings_optionalItems] at countedFirst countedSecond
  obtain ⟨safeFirst, others⟩ := (met_append countedFirst).mp closed.names
  obtain ⟨safeSecond, -⟩ := (met_append countedSecond).mp others
  have steadyFirst := quoting.steady_optional (by decide) unnamed closed.whereClosed safeFirst
    wheres
  have steadySecond := quoting.steady_optional (by decide) unnamed closed.orderClosed safeSecond
    orders
  have plainLimit : Line.Steady dialect.table.quotedSpans (Line.ofText limitText) := by
    rcases restrictionLimit_text known with rfl | ⟨count, rfl⟩
    · exact quoting.steady_plain (by decide)
    · exact (quoting.steady_plain (by decide)).join (quoting.steady_plain (plain_toString count))
  split
  · exact (steadyFirst.append steadySecond).append plainLimit
  · exact steadyFirst

theorem whole_update {update : Update} {line : Line} (closed : update.Closed dialect)
    (binds : UpdateBinds dialect update update.args line) :
    line.Whole dialect.table.quotedSpans := by
  obtain ⟨values, fragments, table, restrictions, assigned, joined, known, restricted, rfl⟩ := binds
  have assignments : ∀ line ∈ values ++ fragments, line.Whole dialect.table.quotedSpans := by
    intro line member
    rcases List.mem_append.mp member with inside | inside
    · obtain ⟨entry, given, assigns⟩ := exists_related assigned inside
      exact quoting.whole_assignment (closed.values entry given) assigns
    · obtain ⟨entry, given, joins⟩ := exists_related joined inside
      exact quoting.whole_joining (closed.inline entry given) joins
  have word := quoting.open_plain "UPDATE " (by decide) (by decide)
  have named := word.append (quoting.steady_name closed.table known).whole
  have setting := quoting.open_behind " SET " named (by decide) (by decide)
  exact (setting.append (quoting.whole_listed assignments)).append
    (quoting.steady_restrictions closed.restrictions restricted)

theorem whole_delete {delete : Delete} {line : Line} (closed : delete.Closed dialect)
    (binds : DeleteBinds dialect delete delete.args line) :
    line.Whole dialect.table.quotedSpans := by
  obtain ⟨table, restrictions, known, restricted, rfl⟩ := binds
  have word := quoting.open_plain "DELETE FROM " (by decide) (by decide)
  exact (word.append (quoting.steady_name closed.table known).whole).append
    (quoting.steady_restrictions closed.restrictions restricted)

theorem whole_set {setting : SetVariable} {line : Line}
    (keyword : Plain dialect.table.setKeyword.toList)
    (closed : ClauseClosed dialect (settingUse dialect) false (some setting.statement))
    (binds : SetBinds dialect setting setting.args line) :
    line.Whole dialect.table.quotedSpans := by
  obtain ⟨body, bindsBody, rfl⟩ := binds
  have safe : NamesSafe dialect
      (clauseLandings dialect (settingUse dialect) false (some setting.statement))
      setting.args := by
    rintro ⟨landing, value⟩ within rfl
    have landed := mem_clauseLandings (List.of_mem_zip within).1
    unfold settingUse at landed
    split at landed <;> simp [PlaceholderUse.landings] at landed
  have word := (quoting.steady_plain keyword).whole
  exact (quoting.open_behind " " word (by decide) (by decide)).append
    (quoting.whole_clause unnamed closed safe bindsBody)

theorem whole_row {kinds : List (String × ValueKind)} {fragments : List String} {row : Row}
    (whole : ∀ fragment ∈ fragments, (Line.ofText fragment).Whole dialect.table.quotedSpans) :
    (rowLine kinds fragments row).Whole dialect.table.quotedSpans := by
  have parts : ∀ line ∈ (row.map fun entry =>
      ([.marker (.infer entry.2 (kinds.lookup entry.1))] : Line)) ++ fragments.map Line.ofText,
      Line.Whole dialect.table.quotedSpans line := by
    intro line member
    rcases List.mem_append.mp member with inside | inside
    · obtain ⟨entry, -, rfl⟩ := List.mem_map.mp inside
      exact (quoting.steady_marker _).whole
    · obtain ⟨fragment, given, rfl⟩ := List.mem_map.mp inside
      exact whole fragment given
  have opening := quoting.open_plain "(" (by decide) (by decide)
  exact (opening.append (quoting.whole_listed parts)).append (quoting.steady_plain (by decide))

theorem whole_batch {insert : Insert} {table : String} {names : List String} {rows : List Row}
    (wholeTable : (Line.ofText table).Whole dialect.table.quotedSpans)
    (wholeNames : (Line.listed (names.map Line.ofText)).Whole dialect.table.quotedSpans)
    (fragments : ∀ entry ∈ insert.inline,
      (Line.ofText entry.2).Whole dialect.table.quotedSpans) :
    (insertLine table names insert rows).Whole dialect.table.quotedSpans := by
  have rowsWhole : ∀ line ∈ rows.map (rowLine insert.kinds (insert.inline.map Prod.snd)),
      line.Whole dialect.table.quotedSpans := by
    intro line member
    obtain ⟨row, -, rfl⟩ := List.mem_map.mp member
    refine quoting.whole_row fun fragment inside => ?_
    obtain ⟨entry, given, rfl⟩ := List.mem_map.mp inside
    exact fragments entry given
  have word := quoting.open_plain "INSERT INTO " (by decide) (by decide)
  have opening := quoting.open_behind " (" (word.append wholeTable) (by decide)
    (by decide)
  have closing := quoting.open_behind ") VALUES " (opening.append wholeNames) (by decide)
    (by decide)
  exact closing.append (quoting.whole_listed rowsWhole)

/-- The columns before a select can follow anything. -/
theorem steady_columns {columns : Option (List String)} {line : Line}
    (safe : ∀ names ∈ columns, ∀ name ∈ names, dialect.SafeName name)
    (known : columnsLine dialect columns = .ok line) : line.Steady dialect.table.quotedSpans := by
  match columns, known with
  | none, known | some [], known =>
    cases Except.ok.inj known
    exact Line.steady_nil
  | some (first :: rest), known =>
    obtain ⟨names, quoted, ended⟩ := Reporting.bind_ok.mp known
    cases Except.ok.inj ended
    have whole := quoting.whole_names (safe _ rfl) quoted
    exact (quoting.steady_after " (" (by decide) (by decide) whole).append
      (quoting.steady_plain (by decide))

/-- Every line of an insert is whole. -/
theorem whole_insert {insert : Insert} {written : WrittenPlan} (closed : insert.Closed dialect)
    (ended : writtenInsert dialect insert = .ok written) :
    ∀ line ∈ written.lines, line.Whole dialect.table.quotedSpans := by
  obtain ⟨-, -, ended⟩ := Reporting.bind_ok.mp ended
  obtain ⟨table, known, ended⟩ := Reporting.bind_ok.mp ended
  have wholeTable := (quoting.steady_name closed.table known).whole
  cases source : insert.select with
  | some select =>
    rw [source] at ended
    obtain ⟨line, nested, ended⟩ := Reporting.bind_ok.mp ended
    obtain ⟨columns, columnsKnown, ended⟩ := Reporting.bind_ok.mp ended
    cases Except.ok.inj ended
    have word := quoting.open_plain "INSERT INTO " (by decide) (by decide)
    have named := (word.append wholeTable).append
      (quoting.steady_columns closed.columns columnsKnown)
    have blank := quoting.open_behind " " named (by decide) (by decide)
    have steady := quoting.steady_nested select (closed.select select source) line nested
    exact List.forall_mem_singleton.mpr (blank.append steady.whole)
  | none =>
    rw [source] at ended
    obtain ⟨⟨⟩, allowed, ended⟩ := Reporting.bind_ok.mp ended
    obtain ⟨names, quoted, ended⟩ := Reporting.bind_ok.mp ended
    cases Except.ok.inj ended
    have fragments := Reporting.forM_eq_ok.mp allowed
    have safe : ∀ name ∈ insert.valueColumns ++ insert.inline.map Prod.fst,
        dialect.SafeName name := by
      intro name member
      rcases List.mem_append.mp member with inside | inside
      · exact closed.values name inside
      · obtain ⟨entry, given, rfl⟩ := List.mem_map.mp inside
        exact (closed.inline entry given).1
    intro line member
    obtain ⟨rows, -, rfl⟩ := List.mem_map.mp member
    exact quoting.whole_batch wholeTable (quoting.whole_names safe quoted) fun entry given =>
      whole_fragment (closed.inline entry given).2 (fragments entry given)

omit quoting in
/-- The name of a character set or a collation has no quotes. -/
theorem plain_of_isCharset {name : String} (known : Payload.isCharset name = true) :
    Plain name.toList := by
  intro character member quote
  have apart : ∀ other ∈ '?' :: quoteCharacters,
      Payload.isCharsetCharacter other = false ∧ other ≠ '\n' :=
    forall_quoteCharacters.mpr (by decide)
  obtain ⟨foreign, noBreak⟩ := apart character quote
  unfold Payload.isCharset at known
  rw [← List.mem_reverse] at member
  have inside : ∀ body : List Char,
      (!body.isEmpty && body.all Payload.isCharsetCharacter) = true → character ∉ body := by
    intro body allowed within
    rw [Bool.and_eq_true, List.all_eq_true] at allowed
    rw [allowed.2 character within] at foreign
    cases foreign
  dsimp only at known
  split at known
  · rename_i others same
    rw [same, List.mem_cons] at member
    exact member.elim noBreak (inside others known)
  · exact inside _ known member

/-- The character set and the collation of a table can follow anything. -/
theorem steady_options {creation : CreateTable}
    (characterSet : ∀ name ∈ creation.characterSet, Payload.isCharset name = true)
    (collate : ∀ name ∈ creation.collate, Payload.isCharset name = true) :
    (Line.ofText (optionText dialect creation)).Steady dialect.table.quotedSpans := by
  have plain : ∀ option : Option String, (∀ name ∈ option, Payload.isCharset name = true) →
      Plain (option.getD "").toList := by
    intro option known
    cases option with
    | none => decide
    | some name => exact plain_of_isCharset (known name rfl)
  unfold optionText
  dsimp only
  split
  · refine Line.Steady.join ?_ ?_
    · split
      · exact quoting.steady_plain (by decide)
      · exact (quoting.steady_plain (by decide)).join (quoting.steady_plain (plain _ characterSet))
    · split
      · exact quoting.steady_plain (by decide)
      · exact (quoting.steady_plain (by decide)).join (quoting.steady_plain (plain _ collate))
  · exact quoting.steady_plain (by decide)

/-- Every line that creates a table from a select is whole. -/
theorem whole_table {creation : CreateTable} {select : Select} {written : WrittenPlan}
    (closed : creation.Closed dialect select)
    (ended : writtenTableFrom dialect creation select = .ok written) :
    ∀ line ∈ written.lines, line.Whole dialect.table.quotedSpans := by
  obtain ⟨-, -, ended⟩ := Reporting.bind_ok.mp ended
  obtain ⟨table, known, ended⟩ := Reporting.bind_ok.mp ended
  have safe : dialect.SafeName (tableName dialect creation.temporary creation.name) := by
    unfold tableName
    split
    · intro quote
      have apart := closed.name quote
      rw [String.toList_append, List.mem_append, not_or]
      exact ⟨by decide, apart⟩
    · exact closed.name
  have steadyTable := quoting.steady_name safe known
  split at ended
  · obtain ⟨line, nested, ended⟩ := Reporting.bind_ok.mp ended
    cases Except.ok.inj ended
    have words : Plain (createTableWords dialect creation.temporary).toList := by
      unfold createTableWords
      split <;> decide
    have begun := (quoting.steady_plain words).whole
    have blank := quoting.open_behind " " begun (by decide) (by decide)
    have options := (blank.append steadyTable.whole).append
      (quoting.steady_options closed.characterSet closed.collate)
    have opening := quoting.open_behind " AS " options (by decide) (by decide)
    have steady := quoting.steady_nested select closed.select line nested
    exact List.forall_mem_singleton.mpr (opening.append steady.whole)
  · obtain ⟨⟨line, rowFilter⟩, selected, ended⟩ := Reporting.bind_ok.mp ended
    cases Except.ok.inj ended
    have target : ∀ other ∈ some table,
        (Line.ofText other).Steady dialect.table.quotedSpans := by
      rintro other ⟨⟩
      exact steadyTable
    have steady := quoting.steady_selected closed.select target selected
    exact List.forall_mem_singleton.mpr steady.whole

/-- Every line that is written for a closed command is whole. -/
theorem whole_written {command : Command} {nested : Bool} {written : WrittenPlan}
    (keyword : Plain dialect.table.setKeyword.toList) (closed : command.Closed dialect)
    (ended : command.written? dialect nested = some (.ok written)) :
    ∀ line ∈ written.lines, line.Whole dialect.table.quotedSpans := by
  cases command with
  | select select =>
    obtain ⟨⟨line, rowFilter⟩, selected, rfl⟩ := Reporting.map_ok.mp (Option.some.inj ended)
    have target : ∀ table ∈ (none : Option String),
        (Line.ofText table).Steady dialect.table.quotedSpans := fun table wrong => nomatch wrong
    have steady := quoting.steady_selected closed target selected
    exact List.forall_mem_singleton.mpr steady.whole
  | insert insert => exact quoting.whole_insert closed (Option.some.inj ended)
  | update update =>
    obtain ⟨line, bound, rfl⟩ := Reporting.map_ok.mp (Option.some.inj ended)
    exact List.forall_mem_singleton.mpr (quoting.whole_update closed (updateLine_ok.mp bound))
  | delete delete =>
    obtain ⟨line, bound, rfl⟩ := Reporting.map_ok.mp (Option.some.inj ended)
    exact List.forall_mem_singleton.mpr (quoting.whole_delete closed (deleteLine_ok.mp bound))
  | set setting =>
    obtain ⟨line, bound, rfl⟩ := Reporting.map_ok.mp (Option.some.inj ended)
    exact List.forall_mem_singleton.mpr (quoting.whole_set keyword closed (setLine_ok.mp bound))
  | createTable creation =>
    obtain ⟨select, given, closed⟩ := closed
    obtain ⟨other, same, ended⟩ := Option.map_eq_some_iff.mp ended
    cases given.symm.trans same
    exact quoting.whole_table closed ended
  | _ => cases ended

end Quoting

/-- The built-in dialects set variables by plain words. -/
theorem Family.plain_setKeyword (family : Family) :
    Plain family.dialect.table.setKeyword.toList := by
  cases family <;> decide

/-- A closed command is one that is written. -/
theorem Command.Closed.written {dialect : Dialect} {command : Command}
    (closed : command.Closed dialect) (nested : Bool) :
    ∃ outcome, command.written? dialect nested = some outcome := by
  cases command with
  | select _ | insert _ | update _ | delete _ | set _ => exact ⟨_, rfl⟩
  | createTable creation =>
    obtain ⟨select, given, -⟩ := closed
    exact ⟨writtenTableFrom dialect creation select,
      Option.map_eq_some_iff.mpr ⟨select, given, rfl⟩⟩
  | _ => exact closed.elim

/-- A scan of the whole text of a line finds the marks of its parameters. -/
structure Line.Marked (dialect : Dialect) (line : Line) : Prop where
  /-- The placeholders that are found are the characters that are marks. -/
  found : (Sql.pieces { subqueries := false } dialect.table.quotedSpans
    line.sql.toList).flatMap Sql.Piece.flags = line.owners.map Option.isSome
  /-- The parameters that the marks belong to are those of the statement, in their order. -/
  owned : line.owners.reduceOption = line.statement.parameters
  counted : dialect.placeholders line.sql = line.statement.parameters.length

/-- Every statement of a closed command gives its parameters to the marks that were emitted for
them.

Proof: the plan is that of a written plan whose lines are whole, and the machine that scans a text
character by character finds the placeholders that a scan piece by piece does. -/
theorem marks_bind_parameters (family : Family) {context : Context} {command : Command}
    {plan : Plan} (closed : command.Closed family.dialect)
    (compiled : (compilePlan family.dialect command context).result = .ok plan) :
    ∃ written, command.written? family.dialect context.nested = some (.ok written) ∧
      plan.statements = written.lines.map Line.statement ∧
      ∀ line ∈ written.lines, line.Marked family.dialect := by
  obtain ⟨outcome, ended⟩ := closed.written context.nested
  have gives := (compilePlan_gives family.dialect context command ended).result_eq
  rw [compiled] at gives
  obtain ⟨written, rfl, rfl⟩ := Reporting.map_ok.mp gives.symm
  refine ⟨written, ended, rfl, fun line member => ?_⟩
  have whole := family.quoting.whole_written family.plain_setKeyword closed ended line member
  have flags := whole.flags
  refine ⟨?_, line.reduceOption_owners, ?_⟩
  · rw [line.toList_sql, ← Sql.flags_pieces, flags]
    rfl
  · rw [Dialect.placeholders, Sql.count_flags, line.toList_sql, flags, line.count_flags]
    rfl

/-- A select with a question mark in quotes, an argument that is a name, and a subquery. -/
def notesOfOwner : Select where
  source := some "?"
  condition := some "note <> '?' AND owner = ? AND owner IN {0}"
  args := [.text "notes", .int 1]
  subqueries := [{
    columns := .names ["id"]
    source := some "owners"
    condition := some "age > ?"
    args := [.int 18] }]

theorem notesOfOwner_closed : notesOfOwner.Closed Family.mysql.dialect := by
  have safe : ∀ landings arguments, NamesSafe Family.mysql.dialect landings arguments :=
    fun _ _ _ _ _ _ _ quote => absurd quote (by decide)
  have clause : ∀ use text, Sql.quoteClosed Family.mysql.dialect.table.quotedSpans
      (text.getD "") = true → ClauseClosed Family.mysql.dialect use true text := by
    intro use text closed raw given
    cases given
    exact ⟨closed, fun _ family => absurd family (by decide)⟩
  rw [Select.closed_iff]
  refine ⟨⟨by decide, ?_, safe _ _⟩, List.forall_mem_singleton.mpr ?_⟩
  · simp only [Select.clauses, List.forall_mem_cons]
    refine ⟨clause _ _ (by decide), clause _ _ (by decide), clause _ _ (by decide),
      clause _ _ (by decide), clause _ _ (by decide),
      fun entry wrong => absurd wrong List.not_mem_nil⟩
  · rw [Select.closed_iff]
    refine ⟨⟨by decide, ?_, safe _ _⟩, fun nested wrong => absurd wrong List.not_mem_nil⟩
    simp only [Select.clauses, List.forall_mem_cons]
    refine ⟨clause _ _ (by decide), clause _ _ (by decide), clause _ _ (by decide),
      clause _ _ (by decide), clause _ _ (by decide),
      fun entry wrong => absurd wrong List.not_mem_nil⟩

theorem marked_notesOfOwner :
    (Command.select notesOfOwner).Closed Family.mysql.dialect ∧
      ∃ plan, (compilePlan Family.mysql.dialect (.select notesOfOwner) {}).result = .ok plan ∧
        plan.statements.map Statement.sql =
          ["SELECT * FROM \x60notes\x60 WHERE note <> '?' AND owner = ? AND owner IN " ++
            "(SELECT id FROM owners WHERE age > ?)"] ∧
        ∃ written, (Command.select notesOfOwner).written? Family.mysql.dialect false =
            some (.ok written) ∧
          plan.statements = written.lines.map Line.statement ∧
          ∀ line ∈ written.lines, line.Marked Family.mysql.dialect := by
  have closed : (Command.select notesOfOwner).Closed Family.mysql.dialect := notesOfOwner_closed
  have texts : ((compilePlan Family.mysql.dialect (.select notesOfOwner) {}).result.toOption.map
      fun plan => plan.statements.map Statement.sql) =
        some ["SELECT * FROM \x60notes\x60 WHERE note <> '?' AND owner = ? AND owner IN " ++
          "(SELECT id FROM owners WHERE age > ?)"] := by
    decide +kernel
  obtain ⟨plan, ended, same⟩ := Option.map_eq_some_iff.mp texts
  have compiled := Reporting.toOption_eq_some.mp ended
  exact ⟨closed, plan, compiled, same, marks_bind_parameters .mysql closed compiled⟩

end PortableSql
