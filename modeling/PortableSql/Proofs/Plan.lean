import PortableSql.Compile.Command
import PortableSql.Proofs.Change

/-!
# Plans as they are written

Six kinds of commands bind values or take texts from their callers: selects, inserts, updates,
deletes, settings of variables, and tables created from a select. For each of them the lines of
its plan are written here, and the plan it compiles to is the plan of these lines.
-/

namespace PortableSql

/-- Whether a command without placeholders has no arguments. -/
def argumentsAllowed (tag : Tag) (args : List Value) : Except Failure Unit :=
  (refuseArgs tag args).result

/-- Names between quotes. -/
def Dialect.quotedAll (dialect : Dialect) (names : List String) : Except Failure (List String) :=
  names.mapM (dialect.quoted "identifier")

/-- Writes a query of its own. -/
def writtenQuery (dialect : Dialect) (nested : Bool) (select : Select) :
    Except Failure WrittenPlan :=
  (selectLine dialect nested none select).map fun (line, rowFilter) => {
    lines := [line]
    rowFilter
    exportRows := select.exportRows
    exportHints := select.exportHints }

/-- The line of one row between parentheses: a mark for each value, then the fragments. -/
def rowLine (kinds : List (String × ValueKind)) (fragments : List String) (row : Row) : Line :=
  Line.ofText "(" ++
    Line.listed ((row.map fun (column, value) => [.marker (.infer value (kinds.lookup column))]) ++
      fragments.map Line.ofText) ++
    Line.ofText ")"

/-- The line that inserts one batch. -/
def insertLine (table : String) (names : List String) (insert : Insert) (rows : List Row) : Line :=
  Line.ofText "INSERT INTO " ++ Line.ofText table ++ Line.ofText " (" ++
    Line.listed (names.map Line.ofText) ++ Line.ofText ") VALUES " ++
    Line.listed (rows.map (rowLine insert.kinds (insert.inline.map Prod.snd)))

/-- The columns that are named before a select whose rows are inserted. -/
def columnsLine (dialect : Dialect) : Option (List String) → Except Failure Line
  | none | some [] => pure []
  | some columns => do
    let names ← dialect.quotedAll columns
    pure (Line.ofText " (" ++ Line.listed (names.map Line.ofText) ++ Line.ofText ")")

/-- Writes an insert. -/
def writtenInsert (dialect : Dialect) (insert : Insert) : Except Failure WrittenPlan := do
  argumentsAllowed .insert insert.args
  let table ← dialect.quoted "table" insert.table
  match insert.select with
  | some select =>
    let line ← nestedLine dialect select
    let columns ← columnsLine dialect insert.columns
    pure { lines := [Line.ofText "INSERT INTO " ++ Line.ofText table ++ columns ++
      Line.ofText " " ++ line] }
  | none =>
    insert.inline.forM fun entry => fragmentAllowed dialect entry.1 entry.2
    let names ← dialect.quotedAll (insert.valueColumns ++ insert.inline.map Prod.fst)
    pure { lines := (insertBatches dialect insert).map (insertLine table names insert) }

/-- What placeholders in the setting of a variable stand for. -/
def settingUse (dialect : Dialect) : PlaceholderUse :=
  if dialect.table.setParameters then .value else .refused

/-- Writes the setting of a variable. -/
def writeSet (dialect : Dialect) (setting : SetVariable) : Writing Line := do
  let body ← writeItems dialect []
    (clauseItems dialect "SET" (settingUse dialect) false setting.statement)
  pure (Line.ofText dialect.table.setKeyword ++ Line.ofText " " ++ body)

/-- The character set and collation of a table, where the dialect has them. -/
def optionText (dialect : Dialect) (creation : CreateTable) : String :=
  let characters := creation.characterSet.getD ""
  let collation := creation.collate.getD ""
  if dialect.table.tableCharset then
    (if characters.isEmpty then "" else " DEFAULT CHARACTER SET " ++ characters) ++
    (if collation.isEmpty then "" else " COLLATE " ++ collation)
  else ""

/-- Writes the creation of a table from a select. -/
def writtenTableFrom (dialect : Dialect) (creation : CreateTable) (select : Select) :
    Except Failure WrittenPlan := do
  argumentsAllowed .createTable creation.args
  let table ← dialect.quoted "table" (tableName dialect creation.temporary creation.name)
  if dialect.table.createTableAs then
    let line ← nestedLine dialect select
    pure { lines := [Line.ofText (createTableWords dialect creation.temporary) ++
      Line.ofText " " ++ Line.ofText table ++ Line.ofText (optionText dialect creation) ++
      Line.ofText " AS " ++ line] }
  else
    let (line, _) ← selectLine dialect true (some table) select
    pure { lines := [line] }

/-- The written plan of a command, if it is one of those that are written. -/
def Command.written? (dialect : Dialect) (nested : Bool) :
    Command → Option (Except Failure WrittenPlan)
  | .select command => some (writtenQuery dialect nested command)
  | .insert command => some (writtenInsert dialect command)
  | .update command => some
      (((writeUpdate dialect command).finish command.args "UPDATE").map fun line =>
        { lines := [line] })
  | .delete command => some
      (((writeDelete dialect command).finish command.args "DELETE").map fun line =>
        { lines := [line] })
  | .set command => some
      (((writeSet dialect command).finish command.args "SET").map fun line => { lines := [line] })
  | .createTable command => command.select.map (writtenTableFrom dialect command)
  | _ => none

section Outcomes

variable (dialect : Dialect)

theorem gives_refuseArgs (tag : Tag) (args : List Value) :
    (refuseArgs tag args).Gives (argumentsAllowed tag args) := by
  unfold argumentsAllowed refuseArgs
  split
  · exact (Reporting.gives_pure ()).self
  · exact (Reporting.gives_raise _).self

theorem gives_quoteIdentifiers (names : List String) :
    (dialect.quoteIdentifiers names).Gives (dialect.quotedAll names) :=
  Reporting.gives_mapM fun name _ => dialect.gives_quoteIdentifier name "identifier"

theorem compileQuery_gives (nested : Bool) (select : Select) :
    (compileQuery dialect nested select).Gives
      ((writtenQuery dialect nested select).map WrittenPlan.plan) := by
  have planned := (compileSelect_gives dialect nested none select).bind fun compiled _ =>
    Reporting.gives_pure ({
      statements := [compiled.1]
      rowFilter := compiled.2
      exportRows := select.exportRows
      exportHints := select.exportHints } : Plan)
  unfold writtenQuery
  cases written : selectLine dialect nested none select
  all_goals
    rw [written] at planned
    exact planned

theorem compileSet_gives (setting : SetVariable) :
    (compileSet dialect setting).Gives
      (((writeSet dialect setting).finish setting.args "SET").map fun line =>
        WrittenPlan.plan { lines := [line] }) := by
  refine single_gives (Emitting.Follows.run ?_ setting.args "SET")
  unfold writeSet
  refine (emitClause_follows dialect none .nil _ _ _ _).bind fun body => ?_
  exact Emitting.follows_pure (by simp [Line.emitted, String.append_assoc])

theorem sql_rowLine (kinds : List (String × ValueKind)) (fragments : List String) (row : Row) :
    (rowLine kinds fragments row).sql = rowGroup fragments row := by
  simp [rowLine, rowGroup, String.append_assoc, Function.comp_def]

theorem parameters_rowLine (kinds : List (String × ValueKind)) (fragments : List String)
    (row : Row) : (rowLine kinds fragments row).parameters = rowParameters kinds row := by
  simp [rowLine, rowParameters, List.flatMap_map, ← List.map_eq_flatMap]

/-- A batch is the statement of its line. -/
theorem statement_insertLine (table : String) (names : List String) (insert : Insert)
    (rows : List Row) :
    (insertLine table names insert rows).statement = insertStatement table names insert rows := by
  have texts : (names.map Line.ofText).map Line.sql = names := by
    simp [Function.comp_def]
  have groups : (rows.map (rowLine insert.kinds (insert.inline.map Prod.snd))).map Line.sql =
      rows.map (rowGroup (insert.inline.map Prod.snd)) := by
    simp only [List.map_map, Function.comp_def, sql_rowLine]
  have values : (rows.map (rowLine insert.kinds (insert.inline.map Prod.snd))).flatMap
      Line.parameters = rows.flatMap (rowParameters insert.kinds) := by
    simp only [List.flatMap_map, parameters_rowLine]
  unfold insertLine insertStatement Line.statement
  simp only [Line.sql_append, Line.sql_ofText, Line.sql_listed, texts, groups,
    Line.parameters_append, Line.parameters_ofText, Line.parameters_listed,
    Line.flatMap_parameters_ofText, values, List.nil_append]

theorem compileInsert_gives (insert : Insert) :
    (compileInsert dialect insert).Gives
      ((writtenInsert dialect insert).map WrittenPlan.plan) := by
  unfold compileInsert writtenInsert
  refine (gives_refuseArgs .insert insert.args).bindChanged fun _ => ?_
  refine (dialect.gives_quoteIdentifier insert.table "table").bindChanged fun table => ?_
  cases insert.select with
  | some select =>
    refine (compileNested_lined dialect select).bindViewed fun line => ?_
    have ending : ∀ columns : Line, columns.parameters = [] → Reporting.Gives
        (pure ({ statements := [{ line.statement with
          sql := "INSERT INTO " ++ table ++ columns.sql ++ " " ++ line.statement.sql }] } : Plan))
        (.ok (WrittenPlan.plan { lines := [Line.ofText "INSERT INTO " ++ Line.ofText table ++
          columns ++ Line.ofText " " ++ line] })) := by
      intro columns plain
      have same : ({ line.statement with
          sql := "INSERT INTO " ++ table ++ columns.sql ++ " " ++ line.statement.sql } : Statement) =
          (Line.ofText "INSERT INTO " ++ Line.ofText table ++ columns ++ Line.ofText " " ++
            line).statement := by
        simp [Line.statement, plain, String.append_assoc]
      rw [same]
      exact Reporting.gives_pure _
    rcases insert.columns with _ | _ | ⟨first, rest⟩
    · exact ending [] rfl
    · exact ending [] rfl
    · simp only [columnsLine, bind_assoc, pure_bind]
      refine (gives_quoteIdentifiers dialect (first :: rest)).bindChanged fun names => ?_
      have ended := ending
        (Line.ofText " (" ++ Line.listed (names.map Line.ofText) ++ Line.ofText ")") (by simp)
      have text : Line.sql
          (Line.ofText " (" ++ Line.listed (names.map Line.ofText) ++ Line.ofText ")") =
            " (" ++ Text.listed names ++ ")" := by
        simp [Function.comp_def, String.append_assoc]
      rw [text] at ended
      exact ended
  | none =>
    have each := fun entry : String × String =>
      gives_refusePlaceholders dialect entry.1 entry.2
    refine (Reporting.gives_forIn each insert.inline).bindChanged fun _ => ?_
    refine (gives_quoteIdentifiers dialect _).bindChanged fun names => ?_
    have same : (insertBatches dialect insert).map (insertStatement table names insert) =
        ((insertBatches dialect insert).map (insertLine table names insert)).map
          Line.statement := by
      rw [List.map_map]
      exact List.map_congr_left fun rows _ => (statement_insertLine table names insert rows).symm
    rw [same]
    exact Reporting.gives_pure _

theorem tableOptions_gives (creation : CreateTable) :
    (tableOptions dialect creation).Gives (.ok (optionText dialect creation)) := by
  unfold tableOptions optionText
  generalize creation.characterSet.getD "" = characters
  generalize creation.collate.getD "" = collation
  dsimp only
  by_cases blank : characters.isEmpty && collation.isEmpty
  · have empty : characters.isEmpty ∧ collation.isEmpty := by simpa using blank
    simp only [empty, Bool.and_self, if_true]
    split <;> exact Reporting.gives_pure _
  · by_cases known : dialect.table.tableCharset
    · simp only [blank, known, Bool.not_true, Bool.false_eq_true, if_false, if_true]
      exact Reporting.gives_pure _
    · simp only [blank, known, Bool.not_false, Bool.false_eq_true, if_false, if_true]
      exact (Reporting.gives_log _).bind fun _ _ => Reporting.gives_pure _

theorem compileTableFrom_gives (creation : CreateTable) (select : Select)
    (given : creation.select = some select) :
    (compileCreateTable dialect creation).Gives
      ((writtenTableFrom dialect creation select).map WrittenPlan.plan) := by
  unfold compileCreateTable writtenTableFrom compileTableFrom
  refine (gives_refuseArgs .createTable creation.args).bindChanged fun _ => ?_
  refine (dialect.gives_quoteIdentifier _ "table").bindChanged fun table => ?_
  simp only [given]
  by_cases created : dialect.table.createTableAs
  · simp only [created, if_true]
    refine (compileNested_lined dialect select).bindViewed fun line => ?_
    have compiled := (tableOptions_gives dialect creation).bind fun options _ =>
      Reporting.gives_pure ({ statements := [{ line.statement with
        sql := createTableWords dialect creation.temporary ++ " " ++ table ++ options ++ " AS " ++
          line.statement.sql }] } : Plan)
    have same : ({ line.statement with
        sql := createTableWords dialect creation.temporary ++ " " ++ table ++
          optionText dialect creation ++ " AS " ++ line.statement.sql } : Statement) =
        (Line.ofText (createTableWords dialect creation.temporary) ++ Line.ofText " " ++
          Line.ofText table ++ Line.ofText (optionText dialect creation) ++ Line.ofText " AS " ++
          line).statement := by
      simp [Line.statement, String.append_assoc]
    change Reporting.Gives _ (.ok _) at compiled
    rw [same] at compiled
    exact compiled
  · simp only [created, Bool.false_eq_true, if_false]
    refine (compileSelect_gives dialect true (some table) select).bindViewed fun written => ?_
    exact Reporting.gives_pure _

/-- The body of a command compiles to its written plan. -/
theorem compileBody_gives (context : Context) (command : Command)
    {outcome : Except Failure WrittenPlan}
    (written : command.written? dialect context.nested = some outcome) :
    (compileBody dialect context command).Gives
      (outcome.map fun written => .done written.plan) := by
  suffices compiled : ∃ computation : Reporting Plan,
      compileBody dialect context command = Compilation.done <$> computation ∧
        computation.Gives (outcome.map WrittenPlan.plan) by
    obtain ⟨computation, same, gives⟩ := compiled
    have done := gives.map Compilation.done
    rw [Reporting.map_map] at done
    rwa [same]
  cases command with
  | select command =>
    cases written
    exact ⟨_, rfl, compileQuery_gives dialect context.nested command⟩
  | insert command =>
    cases written
    exact ⟨_, rfl, compileInsert_gives dialect command⟩
  | update command =>
    cases written
    rw [Reporting.map_map]
    exact ⟨_, rfl, compileUpdate_gives dialect command⟩
  | delete command =>
    cases written
    rw [Reporting.map_map]
    exact ⟨_, rfl, compileDelete_gives dialect command⟩
  | set command =>
    cases written
    rw [Reporting.map_map]
    exact ⟨_, rfl, compileSet_gives dialect command⟩
  | createTable command =>
    obtain ⟨select, given, rfl⟩ := Option.map_eq_some_iff.mp written
    exact ⟨_, rfl, compileTableFrom_gives dialect command select given⟩
  | _ => cases written

/-- A command compiles to its written plan, completed by its tag and its connection. -/
theorem compilePlan_gives (context : Context) (command : Command)
    {outcome : Except Failure WrittenPlan}
    (written : command.written? dialect context.nested = some outcome) :
    (compilePlan dialect command context).Gives
      (outcome.map fun written =>
        { written.plan with tag := some command.tag, master := context.master }) := by
  have body := compileBody_gives dialect { context with live := false } command written
  rw [compilePlan, compile, bind_assoc, ← bind_pure outcome]
  exact body.bindViewed fun written _ => rfl

end Outcomes

end PortableSql
