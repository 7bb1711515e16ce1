import PortableSql.Proofs.Naming

/-!
# Tables that are marked as temporary

Temporary tables of SQL Server are marked by a number sign before their names. Every statement for a
temporary table, whether it creates the table, fills it from a select, adds a key to it or drops it,
addresses it by one quoted name, that of the marked name.

A name is marked unless its last part is. The mark goes before the whole name, so it marks the last
part exactly if there is no other one. A name with qualifiers gets the mark on its first part
instead, and another one each time that it is marked.
-/

namespace PortableSql

open Reporting

/-! ## Marked names -/

/-- The characters begin with the mark of temporary tables. -/
def Marked (characters : List Char) : Prop := characters.head? = some '#'

instance (characters : List Char) : Decidable (Marked characters) :=
  inferInstanceAs (Decidable (characters.head? = some '#'))

/-- A part of a name with the mark, which is added to it only once. -/
def markedPart (part : List Char) : List Char := if Marked part then part else '#' :: part

/-- There is no white space around the parts of the name. -/
def Tidy (name : String) : Prop := ∀ part ∈ Text.cut '.' name.toList, Text.Tight part

/-- Marking the name marks its last part: there is no other part, or the last one has the mark. -/
def Markable (name : String) : Prop :=
  '.' ∉ name.toList ∨ Marked (Text.lastPart name).toList

instance (name : String) : Decidable (Markable name) :=
  inferInstanceAs (Decidable ('.' ∉ name.toList ∨ Marked (Text.lastPart name).toList))

/-- The name of a temporary table is marked, unless its last part is. -/
theorem tableName_mssql (name : String) : tableName Family.mssql.dialect true name =
    if Marked (Text.lastPart name).toList then name else "#" ++ name := by
  have begins : Text.begins "#" (Text.lastPart name) = true ↔
      Marked (Text.lastPart name).toList := by
    unfold Text.begins Marked
    cases (Text.lastPart name).toList with
    | nil => decide
    | cons first rest =>
      change (['#'].isPrefixOf (first :: rest)) = true ↔ some first = some '#'
      rw [List.isPrefixOf_cons_cons, List.isPrefixOf_nil_left, Bool.and_true, beq_iff_eq,
        Option.some.injEq, eq_comm]
  unfold tableName
  by_cases marked : Marked (Text.lastPart name).toList
  · rw [if_pos marked, begins.mpr marked]
    rfl
  · rw [if_neg marked, Bool.eq_false_iff.mpr fun wrong => marked (begins.mp wrong)]
    rfl

/-- The parts of a tidy name are those that it is cut into. -/
theorem Tidy.nameParts_eq {name : String} (tidy : Tidy name) :
    nameParts name = Text.cut '.' name.toList :=
  (List.map_congr_left fun part member => Text.trim_eq_self_iff.mpr (tidy part member)).trans
    (List.map_id _)

theorem cut_marked (name : String) : Text.cut '.' ("#" ++ name).toList =
    (Text.cut '.' name.toList).modifyHead ('#' :: ·) := by
  rw [String.toList_append]
  exact Text.cut_cons (by decide)

/-- A tidy name is tidy when it is marked. -/
theorem Tidy.marked {name : String} (tidy : Tidy name) : Tidy ("#" ++ name) := by
  intro part member
  rw [cut_marked] at member
  unfold Tidy at tidy
  cases known : Text.cut '.' name.toList with
  | nil => exact absurd known (Text.cut_ne_nil _ _)
  | cons first rest =>
    rw [known] at member tidy
    rcases List.mem_cons.mp member with rfl | later
    · exact (tidy first List.mem_cons_self).cons rfl
    · exact tidy part (List.mem_cons_of_mem first later)

/-- The last part of a tidy name is quoted as it is. -/
theorem Tidy.toList_lastPart {name : String} (tidy : Tidy name) :
    (Text.lastPart name).toList = (nameParts name).getLast (nameParts_ne_nil name) := by
  rw [PortableSql.toList_lastPart]
  simp only [tidy.nameParts_eq]

/-- The mark is put on the first part. -/
theorem nameParts_tableName {name : String} (tidy : Tidy name) :
    nameParts (tableName Family.mssql.dialect true name) =
      if Marked (Text.lastPart name).toList then nameParts name
      else (nameParts name).modifyHead ('#' :: ·) := by
  rw [tableName_mssql]
  split
  case isTrue => rfl
  case isFalse => rw [tidy.marked.nameParts_eq, tidy.nameParts_eq, cut_marked]

/-- A name has no dot exactly if it has one part. -/
theorem dot_notMem_iff {name : String} :
    '.' ∉ name.toList ↔ ∃ part, Text.cut '.' name.toList = [part] := by
  simp only [Text.cut_eq_singleton, exists_eq_left]

/-- The mark of the first part is that of the last one exactly if there is one part. -/
theorem modifyHead_mark_iff {parts : List (List Char)} (full : parts ≠ []) :
    parts.modifyHead ('#' :: ·) = parts.dropLast ++ ['#' :: parts.getLast full] ↔
      ∃ part, parts = [part] := by
  match parts with
  | [part] => exact iff_of_true rfl ⟨part, rfl⟩
  | first :: second :: rest =>
    refine iff_of_false (fun same => ?_) (nofun)
    have lengths := congrArg List.length (List.cons.inj same).1
    simp at lengths

/-- The mark is on the last part exactly if the name can be marked there. -/
theorem nameParts_tableName_iff {name : String} (tidy : Tidy name) :
    nameParts (tableName Family.mssql.dialect true name) = (nameParts name).dropLast ++
        [markedPart ((nameParts name).getLast (nameParts_ne_nil name))] ↔ Markable name := by
  have last := tidy.toList_lastPart
  rw [nameParts_tableName tidy, markedPart, Markable, ← last]
  by_cases marked : Marked (Text.lastPart name).toList
  · rw [if_pos marked, if_pos marked]
    refine iff_of_true ?_ (.inr marked)
    rw [last, List.dropLast_append_getLast]
  · rw [if_neg marked, if_neg marked, or_iff_left marked, dot_notMem_iff, ← tidy.nameParts_eq,
      last]
    exact modifyHead_mark_iff (nameParts_ne_nil name)

/-- A mark on the first part is one of the last part exactly if there is no other part. -/
theorem marked_getLast_modifyHead {parts : List (List Char)} (full : parts ≠ [])
    (unmarked : ¬Marked (parts.getLast full)) :
    Marked ((parts.modifyHead ('#' :: ·)).getLast (by simpa using full)) ↔
      ∃ part, parts = [part] := by
  match parts with
  | [part] => exact iff_of_true rfl ⟨part, rfl⟩
  | first :: second :: rest => exact iff_of_false unmarked nofun

/-- Marking the name twice is marking it once exactly if the name can be marked at its last part. -/
theorem tableName_twice_iff {name : String} :
    tableName Family.mssql.dialect true (tableName Family.mssql.dialect true name) =
      tableName Family.mssql.dialect true name ↔ Markable name := by
  by_cases marked : Marked (Text.lastPart name).toList
  · have once : tableName Family.mssql.dialect true name = name := by
      rw [tableName_mssql, if_pos marked]
    rw [once, once]
    exact iff_of_true rfl (.inr marked)
  · have once : tableName Family.mssql.dialect true name = "#" ++ name := by
      rw [tableName_mssql, if_neg marked]
    have last : Marked (Text.lastPart ("#" ++ name)).toList ↔ '.' ∉ name.toList := by
      rw [toList_lastPart] at marked
      rw [toList_lastPart, dot_notMem_iff, ← marked_getLast_modifyHead _ marked]
      simp only [cut_marked]
    have longer : "#" ++ ("#" ++ name) ≠ "#" ++ name := fun same => by
      simpa using congrArg String.length same
    rw [once, tableName_mssql, Markable, or_iff_left marked, ← last]
    by_cases again : Marked (Text.lastPart ("#" ++ name)).toList
    · rw [if_pos again]
      exact iff_of_true rfl again
    · rw [if_neg again]
      exact iff_of_false longer again

/-! ## Addressed tables -/

/-- A statement addresses the table of a quoted name: it creates the table, adds an index to it,
fills it with the rows of a select, or drops it with others. -/
inductive Addresses (dialect : Dialect) (table : String) : Statement → Prop
  | creation (declared : String) :
      Addresses dialect table { sql := "CREATE TABLE " ++ table ++ " (" ++ declared }
  | index (unique : Bool) (name columns : String) :
      Addresses dialect table { sql := "CREATE " ++ (if unique then "UNIQUE " else "") ++
        "INDEX " ++ dialect.quotedName name ++ " ON " ++ table ++ " (" ++ columns }
  | selection {select : Select} {first second : List Value} {columns clauses : Line}
      (selected : Binds dialect (nestedLines dialect select.subqueries)
        (clauseItems dialect "columns" .refused true select.columns.joined) first columns)
      (followed : Binds dialect (nestedLines dialect select.subqueries)
        (select.clauseItems dialect) second clauses) :
      Addresses dialect table (Line.ofText (if select.distinct then "SELECT DISTINCT "
        else "SELECT ") ++ columns ++ Line.ofText (" INTO " ++ table) ++ clauses).statement
  | removal (ifExists : Bool) {tables : List String} (member : table ∈ tables) :
      Addresses dialect table
        { sql := "DROP TABLE " ++ (if ifExists then "IF EXISTS " else "") ++ Text.listed tables }

/-- A key that SQL Server defers is added by an index on the table. -/
theorem addition_addresses {table : String} {primary : List String} {key : KeyDefinition}
    (deferred : key.fate Family.mssql.dialect primary = .deferred) :
    Addresses Family.mssql.dialect (Family.mssql.dialect.quotedName table)
      { sql := key.addition Family.mssql.dialect table } := by
  have undeclared : ¬Family.mssql.dialect.table.inlineKeys.contains key.type = true := by
    intro declared
    unfold KeyDefinition.fate at deferred
    rw [if_pos declared] at deferred
    split at deferred <;> cases deferred
  have apart : ¬(decide (Family.mssql.dialect.table.indexStatementStyle = .alterTable) ||
      decide (key.type = .primary) || decide (key.type = .foreign)) = true := by
    simp only [Bool.or_eq_true, decide_eq_true_eq]
    rintro ((wrong | primary) | foreign)
    · cases wrong
    · exact undeclared (by rw [primary]; decide)
    · exact undeclared (by rw [foreign]; decide)
  have added : Addresses Family.mssql.dialect (Family.mssql.dialect.quotedName table) _ :=
    .index (decide (key.type = .unique)) (indexName Family.mssql.dialect table key)
      (Family.mssql.dialect.quotedNames key.columns ++ ")")
  unfold KeyDefinition.addition
  rw [if_neg apart]
  simpa only [decide_eq_true_eq, String.append_assoc] using added

/-- Every statement of the outline of a temporary table addresses it. -/
theorem outline_addresses {creation : CreateTable} (temporary : creation.temporary = true)
    {columns : List (String × ColumnDefinition)} {types : List String}
    {described : TableStatement}
    (member : described ∈ creation.outline Family.mssql.dialect columns types) :
    Addresses Family.mssql.dialect
      (Family.mssql.dialect.quotedName (tableName Family.mssql.dialect true creation.name))
      (described.statement Family.mssql.dialect creation) := by
  have named : tableName Family.mssql.dialect true creation.name =
      creation.finalName Family.mssql.dialect := by
    rw [CreateTable.finalName, temporary]
  rw [named]
  rcases List.mem_append.mp member with declared | commented
  · rcases List.mem_cons.mp declared with rfl | deferred
    · have words : createTableWords Family.mssql.dialect creation.temporary ++ " " =
          "CREATE TABLE " := by
        rw [temporary]
        rfl
      rw [TableStatement.statement, TableStatement.sql, words, String.append_assoc,
        String.append_assoc]
      exact .creation _
    · obtain ⟨key, kept, rfl⟩ := List.mem_map.mp deferred
      exact addition_addresses (of_decide_eq_true (List.mem_filter.mp kept).2)
  · -- SQL Server keeps no comments, so no statement is for one.
    obtain ⟨column, -, wrong⟩ := List.mem_flatMap.mp commented
    cases wrong

/-- A select whose rows go into a table addresses it. -/
theorem selectLine_addresses {table : String} {select : Select}
    {written : Line × Option RowFilter}
    (ended : selectLine Family.mssql.dialect true (some table) select = .ok written) :
    Addresses Family.mssql.dialect table written.1.statement := by
  obtain ⟨first, second, body, numbers, -, binds, -, -, rfl⟩ := assembledLine_ok.mp ended
  have whole : limited Family.mssql.dialect true body numbers = (body, none) := by
    cases numbers <;> rfl
  rw [whole]
  obtain ⟨following, rfl, rest⟩ := binds.text_inv
  obtain ⟨_, _, columns, others, -, rfl, selected, filling⟩ := rest.append_inv
  obtain ⟨clauses, rfl, followed⟩ := filling.text_inv
  have filled : Addresses Family.mssql.dialect table _ := .selection selected followed
  rw [List.append_assoc, List.append_assoc] at filled
  exact filled

section Compiling

variable {context : Context}

/-- Creating a temporary table addresses it by the marked name. -/
theorem creation_addresses {creation : CreateTable} (temporary : creation.temporary = true)
    {plan : Plan}
    (yields : (compilePlan Family.mssql.dialect (.createTable creation) context).Yields plan) :
    plan.statements ≠ [] ∧ ∀ statement ∈ plan.statements, Addresses Family.mssql.dialect
      (Family.mssql.dialect.quotedName (tableName Family.mssql.dialect true creation.name))
      statement := by
  cases selected : creation.select with
  | none =>
    obtain ⟨types, -, statements, -⟩ := compilePlan_outline selected yields
    rw [statements]
    refine ⟨List.cons_ne_nil _ _, fun statement member => ?_⟩
    obtain ⟨described, belongs, rfl⟩ := List.mem_map.mp member
    exact outline_addresses temporary belongs
  | some select =>
    have written : (Command.createTable creation).written? Family.mssql.dialect context.nested =
        some (writtenTableFrom Family.mssql.dialect creation select) := by
      rw [Command.written?, selected]
      rfl
    have gives := (compilePlan_gives Family.mssql.dialect context _ written).yields yields
    obtain ⟨lines, ended, rfl⟩ := map_ok.mp gives
    obtain ⟨_, -, named⟩ := bind_ok.mp ended
    obtain ⟨table, quoted, chosen⟩ := bind_ok.mp named
    obtain ⟨filled, selection, same⟩ := bind_ok.mp chosen
    cases same
    rw [temporary] at quoted
    rw [← Dialect.quotedName_of_yields ⟨[], quoted⟩]
    exact ⟨List.cons_ne_nil _ _,
      List.forall_mem_singleton.mpr (selectLine_addresses selection)⟩

/-- Dropping temporary tables addresses each of them by its marked name. -/
theorem removal_addresses {removal : DropTable} (temporary : removal.temporary = true)
    {plan : Plan}
    (yields : (compilePlan Family.mssql.dialect (.dropTable removal) context).Yields plan)
    {name : String} (member : name ∈ removal.tables) :
    ∃ statement, plan.statements = [statement] ∧ Addresses Family.mssql.dialect
      (Family.mssql.dialect.quotedName (tableName Family.mssql.dialect true name))
      statement := by
  have body : compileBody Family.mssql.dialect { context with live := false }
      (.dropTable removal) =
      Compilation.done <$> compileDropTable Family.mssql.dialect removal := rfl
  rw [compilePlan_of_done body] at yields
  obtain ⟨built, dropped, yields⟩ := yields_bind yields
  obtain ⟨_, -, yields⟩ := yields_bind yields
  obtain ⟨_, -, dropped⟩ := yields_bind dropped
  obtain ⟨tables, named, dropped⟩ := yields_bind dropped
  obtain rfl := Dialect.quotedNames_of_yields named
  rw [temporary] at dropped
  rw [yields_pure.mp yields, yields_pure.mp dropped]
  refine ⟨_, rfl, .removal removal.ifExists ?_⟩
  rw [List.map_map]
  exact List.mem_map_of_mem member

end Compiling

/-- Every statement for a temporary table of SQL Server, whether it is created from columns or from
a select or dropped, addresses the table by one quoted name. Its parts are those of the name that is
given, with the mark before the first of them unless the last one has it. So the last part is the
marked one, behind the same qualifiers, exactly if the name has no qualifiers or its last part has
the mark already. These are also the names for which nothing changes when they are marked again.

Proof: the texts of a table from columns are those of its outline, and those of a table from a
select are written item by item. The quoted name is read back part by part. The mark before the
whole name is a mark before the first part, and this is the last one only if it is the only one. -/
theorem temporaryTables_addressed (context : Context) {name : String} (tidy : Tidy name) :
    let marked := tableName Family.mssql.dialect true name
    let quoted := Family.mssql.dialect.quotedName marked
    let parts := nameParts name
    let last := parts.getLast (nameParts_ne_nil name)
    (∀ creation : CreateTable, creation.temporary = true → creation.name = name →
      ∀ plan, (compilePlan Family.mssql.dialect (.createTable creation) context).Yields plan →
        plan.statements ≠ [] ∧
        ∀ statement ∈ plan.statements, Addresses Family.mssql.dialect quoted statement) ∧
    (∀ removal : DropTable, removal.temporary = true → name ∈ removal.tables →
      ∀ plan, (compilePlan Family.mssql.dialect (.dropTable removal) context).Yields plan →
        ∃ statement, plan.statements = [statement] ∧
          Addresses Family.mssql.dialect quoted statement) ∧
    Sql.readParts '[' ']' quoted.toList = some (nameParts marked, []) ∧
    nameParts marked = (if Marked last then parts else parts.modifyHead ('#' :: ·)) ∧
    (nameParts marked = parts.dropLast ++ [markedPart last] ↔ Markable name) ∧
    (tableName Family.mssql.dialect true marked = marked ↔ Markable name) := by
  refine ⟨?_, ?_, Family.mssql.readParts_quotedName _, ?_, nameParts_tableName_iff tidy,
    tableName_twice_iff⟩
  · rintro creation temporary rfl plan yields
    exact creation_addresses temporary yields
  · intro removal temporary member plan yields
    exact removal_addresses temporary yields member
  · rw [← tidy.toList_lastPart]
    exact nameParts_tableName tidy

/-- A temporary table in a schema. -/
def sessionTable : CreateTable where
  name := "db.t"
  columns := some [("a", { type := .integer })]
  temporary := true

/-- The schema of the table gets the mark instead of the table, and another one the next time. -/
theorem sessionTable_misplaced :
    Tidy "db.t" ∧
    ∃ plan, (compilePlan Family.mssql.dialect (.createTable sessionTable) {}).Yields plan ∧
      plan.texts = ["CREATE TABLE [#db].[t] ([a] INT)"] ∧
      (∀ statement ∈ plan.statements,
        Addresses Family.mssql.dialect "[#db].[t]" statement) ∧
      Sql.readParts '[' ']' "[#db].[t]".toList ≠
        some (["db".toList, "#t".toList], []) ∧
      tableName Family.mssql.dialect true (tableName Family.mssql.dialect true "db.t") ≠
        tableName Family.mssql.dialect true "db.t" := by
  have tidy : Tidy "db.t" := by
    intro part member
    have cut : Text.cut '.' "db.t".toList = ["db".toList, "t".toList] := by decide
    rw [cut] at member
    fin_cases member <;> exact Text.trim_eq_self_iff.mp (by decide)
  have unmarkable : ¬Markable "db.t" := by decide
  have named : Family.mssql.dialect.quotedName (tableName Family.mssql.dialect true "db.t") =
      "[#db].[t]" := by decide +kernel
  obtain ⟨created, -, read, -, placed, again⟩ := temporaryTables_addressed {} tidy
  have compiled : (compilePlan Family.mssql.dialect (.createTable sessionTable)
      {}).result.toOption.map Plan.texts = some ["CREATE TABLE [#db].[t] ([a] INT)"] := by
    decide +kernel
  obtain ⟨plan, ended, texts⟩ := Option.map_eq_some_iff.mp compiled
  have yields : (compilePlan Family.mssql.dialect (.createTable sessionTable) {}).Yields plan :=
    ⟨[], Reporting.toOption_eq_some.mp ended⟩
  obtain ⟨-, addressed⟩ := created sessionTable rfl rfl plan yields
  rw [named] at addressed read
  refine ⟨tidy, plan, yields, texts, addressed, fun wrong => ?_, unmarkable ∘ again.mp⟩
  rw [read, Option.some.injEq, Prod.mk.injEq, and_iff_left rfl] at wrong
  exact unmarkable (placed.mp wrong)

end PortableSql
