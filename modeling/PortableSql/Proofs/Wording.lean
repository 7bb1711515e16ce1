import PortableSql.Proofs.Marking
import PortableSql.Proofs.Running

/-!
# How statements begin

Every statement of a command begins with one of a few words, also when a driver has put its marks
into it, and no statement that begins or ends a transaction begins with one of these. So commands
cannot begin or end transactions.
-/

namespace PortableSql

/-- The words that statements of commands begin with. -/
def commandWords : List String :=
  ["SELECT", "INSERT", "UPDATE", "DELETE", "TRUNCATE", "SET ", "PRAGMA ", "USE ", "CREATE", "DROP",
   "ALTER", "ATTACH", "DETACH", "COMMENT", "SHOW"]

/-- The text begins with a word that statements of commands begin with. -/
def Ordinary (sql : String) : Prop := ∃ word ∈ commandWords, word.toList <+: sql.toList

instance (sql : String) : Decidable (Ordinary sql) :=
  inferInstanceAs (Decidable (∃ word ∈ commandWords, word.toList <+: sql.toList))

/-- What follows its first words does not matter. -/
theorem Ordinary.append {sql : String} (ordinary : Ordinary sql) (rest : String) :
    Ordinary (sql ++ rest) := by
  obtain ⟨word, known, begins⟩ := ordinary
  refine ⟨word, known, begins.trans ?_⟩
  rw [String.toList_append]
  exact List.prefix_append _ _

/-- Every statement of the plan begins as statements of commands do. -/
def Plan.Ordinary (plan : Plan) : Prop :=
  ∀ statement ∈ plan.statements, PortableSql.Ordinary statement.sql

theorem planOf_ordinary {texts : List String} (each : ∀ text ∈ texts, Ordinary text) :
    (planOf texts).Ordinary := by
  intro statement member
  obtain ⟨text, known, rfl⟩ := List.mem_map.mp member
  exact each text known

theorem ordinary_single {statement : Statement} (ordinary : Ordinary statement.sql)
    {plan : Plan} (single : plan.statements = [statement]) : plan.Ordinary := by
  intro other member
  rw [single] at member
  rw [List.mem_singleton.mp member]
  exact ordinary

namespace Emitting

variable {α β : Type}

/-- An emission ends with this value, from some binding. -/
def Yields (emission : Emitting α) (value : α) : Prop :=
  ∃ before after, (StateT.run emission before).Yields (value, after)

theorem yields_pure {value found : α} (yields : (pure value : Emitting α).Yields found) :
    found = value := by
  obtain ⟨before, after, ended⟩ := yields
  cases Reporting.yields_pure.mp ended
  rfl

/-- A sequence that ends with a value does so by the values of its steps. -/
theorem yields_bind {emission : Emitting α} {next : α → Emitting β} {found : β}
    (yields : (emission >>= next).Yields found) :
    ∃ value, emission.Yields value ∧ (next value).Yields found := by
  obtain ⟨before, after, ended⟩ := yields
  rw [StateT.run_bind] at ended
  obtain ⟨⟨value, between⟩, first, second⟩ := Reporting.yields_bind ended
  exact ⟨value, ⟨before, between, first⟩, between, after, second⟩

/-- The text of a statement is what its emission ended with. -/
theorem yields_run {arguments : List Value} {command : String} {emission : Emitting String}
    {statement : Statement} (yields : (run arguments command emission).Yields statement) :
    emission.Yields statement.sql := by
  obtain ⟨⟨sql, binding⟩, emitted, rest⟩ := Reporting.yields_bind yields
  obtain ⟨_, -, ended⟩ := Reporting.yields_bind rest
  rw [Reporting.yields_pure.mp ended]
  exact ⟨_, binding, emitted⟩

end Emitting

section

open Reporting

variable {dialect : Dialect} {plan : Plan}

theorem emitSelect_ordinary {nested : Bool} {into : Option String}
    {subqueries : List (Reporting Statement)} {select : Select} {sql : String}
    {rowFilter : Option RowFilter}
    (yields : (emitSelect dialect nested into subqueries select).Yields (sql, rowFilter)) :
    Ordinary sql := by
  obtain ⟨columns, -, yields⟩ := Emitting.yields_bind yields
  obtain ⟨source, -, yields⟩ := Emitting.yields_bind yields
  obtain ⟨condition, -, yields⟩ := Emitting.yields_bind yields
  obtain ⟨grouping, -, yields⟩ := Emitting.yields_bind yields
  obtain ⟨having, -, yields⟩ := Emitting.yields_bind yields
  obtain ⟨ordering, -, yields⟩ := Emitting.yields_bind yields
  obtain ⟨limited, -, yields⟩ := Emitting.yields_bind yields
  have begun : Ordinary (if select.distinct then "SELECT DISTINCT " else "SELECT ") := by
    split <;> decide
  have whole : Ordinary ((if select.distinct then "SELECT DISTINCT " else "SELECT ") ++ columns ++
      (into.map (" INTO " ++ ·)).getD "" ++ source ++ condition ++ grouping ++ having ++
        ordering) := by
    iterate 7 refine Ordinary.append ?_ _
    exact begun
  cases limited with
  | none =>
    cases Emitting.yields_pure yields
    exact whole
  | some limit =>
    dsimp only at yields
    split at yields
    case isTrue =>
      obtain ⟨written, -, yields⟩ := Emitting.yields_bind yields
      cases Emitting.yields_pure yields
      exact whole.append _
    case isFalse =>
      split at yields
      case isTrue =>
        obtain ⟨shown, -, yields⟩ := Emitting.yields_bind yields
        obtain ⟨_, -, yields⟩ := Emitting.yields_bind yields
        cases Emitting.yields_pure yields
        exact whole
      case isFalse =>
        cases Emitting.yields_pure yields
        exact whole

theorem compileSelect_ordinary {nested : Bool} {into : Option String} {select : Select}
    {statement : Statement} {rowFilter : Option RowFilter}
    (yields : (compileSelect dialect nested into select).Yields (statement, rowFilter)) :
    Ordinary statement.sql := by
  obtain ⟨⟨⟨sql, filter⟩, binding⟩, emitted, yields⟩ := yields_bind yields
  obtain ⟨_, -, yields⟩ := yields_bind yields
  have ordinary : Ordinary sql := emitSelect_ordinary ⟨_, binding, emitted⟩
  dsimp only at yields
  split at yields
  case isTrue =>
    cases yields_pure.mp yields
    exact ordinary
  case isFalse =>
    obtain ⟨_, -, yields⟩ := yields_bind yields
    cases yields_pure.mp yields
    exact ordinary

theorem compileQuery_ordinary {nested : Bool} {select : Select}
    (yields : (compileQuery dialect nested select).Yields plan) : plan.Ordinary := by
  obtain ⟨⟨statement, rowFilter⟩, selected, yields⟩ := yields_bind yields
  rw [yields_pure.mp yields]
  exact ordinary_single (compileSelect_ordinary selected) rfl

theorem compileInsert_ordinary {insert : Insert}
    (yields : (compileInsert dialect insert).Yields plan) : plan.Ordinary := by
  obtain ⟨_, -, yields⟩ := yields_bind yields
  obtain ⟨table, -, yields⟩ := yields_bind yields
  cases selected : insert.select with
  | some select =>
    rw [selected] at yields
    obtain ⟨statement, -, yields⟩ := yields_bind yields
    have ended : ∃ columns, (pure { statements := [{ statement with
        sql := "INSERT INTO " ++ table ++ columns ++ " " ++ statement.sql }] } :
        Reporting Plan).Yields plan := by
      dsimp only at yields
      split at yields
      · obtain ⟨columns, -, yields⟩ := yields_bind yields
        exact ⟨columns, yields⟩
      · obtain ⟨columns, -, yields⟩ := yields_bind yields
        exact ⟨columns, yields⟩
      · obtain ⟨names, -, yields⟩ := yields_bind yields
        obtain ⟨columns, -, yields⟩ := yields_bind yields
        exact ⟨columns, yields⟩
    obtain ⟨columns, ended⟩ := ended
    rw [yields_pure.mp ended]
    refine ordinary_single ?_ rfl
    iterate 4 refine Ordinary.append ?_ _
    decide
  | none =>
    rw [selected] at yields
    obtain ⟨_, -, yields⟩ := yields_bind yields
    obtain ⟨names, -, yields⟩ := yields_bind yields
    rw [yields_pure.mp yields]
    intro statement member
    obtain ⟨rows, -, rfl⟩ := List.mem_map.mp member
    change Ordinary ("INSERT INTO " ++ table ++ " (" ++ Text.listed names ++ ") VALUES " ++ _)
    iterate 5 refine Ordinary.append ?_ _
    decide

theorem compileUpdate_ordinary {update : Update}
    (yields : (compileUpdate dialect update).Yields plan) : plan.Ordinary := by
  obtain ⟨statement, ran, yields⟩ := yields_bind yields
  rw [yields_pure.mp yields]
  refine ordinary_single ?_ rfl
  have emitted := Emitting.yields_run ran
  obtain ⟨values, -, emitted⟩ := Emitting.yields_bind emitted
  obtain ⟨fragments, -, emitted⟩ := Emitting.yields_bind emitted
  obtain ⟨table, -, emitted⟩ := Emitting.yields_bind emitted
  obtain ⟨restrictions, -, emitted⟩ := Emitting.yields_bind emitted
  rw [Emitting.yields_pure emitted]
  iterate 4 refine Ordinary.append ?_ _
  decide

theorem compileDelete_ordinary {delete : Delete}
    (yields : (compileDelete dialect delete).Yields plan) : plan.Ordinary := by
  obtain ⟨statement, ran, yields⟩ := yields_bind yields
  rw [yields_pure.mp yields]
  refine ordinary_single ?_ rfl
  have emitted := Emitting.yields_run ran
  obtain ⟨table, -, emitted⟩ := Emitting.yields_bind emitted
  obtain ⟨restrictions, -, emitted⟩ := Emitting.yields_bind emitted
  rw [Emitting.yields_pure emitted]
  iterate 2 refine Ordinary.append ?_ _
  decide

/-- Texts that begin with the same words and a name each. -/
theorem ordinary_names {words : String} (ordinary : Ordinary words) (names : List String) :
    (planOf (names.map (words ++ ·))).Ordinary := by
  refine planOf_ordinary fun text member => ?_
  obtain ⟨name, -, rfl⟩ := List.mem_map.mp member
  exact ordinary.append name

/-- A single text. -/
theorem ordinary_text {text : String} (ordinary : Ordinary text) : (planOf [text]).Ordinary :=
  ordinary_single ordinary rfl

theorem compileTruncate_ordinary {truncation : TruncateTable}
    (yields : (compileTruncate dialect truncation).Yields plan) : plan.Ordinary := by
  obtain ⟨_, -, yields⟩ := yields_bind yields
  obtain ⟨tables, -, yields⟩ := yields_bind yields
  split at yields
  case isTrue =>
    rw [yields_pure.mp yields]
    exact ordinary_names (by decide) tables
  case isFalse =>
    split at yields
    case isTrue =>
      rw [yields_pure.mp yields]
      exact ordinary_text (.append (by decide) _)
    case isFalse =>
      rw [yields_pure.mp yields]
      exact ordinary_names (by decide) tables

theorem compileCreateDatabase_ordinary {creation : CreateDatabase}
    (yields : (compileCreateDatabase dialect creation).Yields plan) : plan.Ordinary := by
  obtain ⟨_, -, yields⟩ := yields_bind yields
  dsimp only at yields
  split at yields
  case h_1 =>
    obtain ⟨name, -, yields⟩ := yields_bind yields
    rw [yields_pure.mp yields]
    refine ordinary_text ?_
    iterate 3 refine Ordinary.append ?_ _
    decide
  case h_2 =>
    obtain ⟨name, -, yields⟩ := yields_bind yields
    rw [yields_pure.mp yields]
    refine ordinary_text ?_
    iterate 4 refine Ordinary.append ?_ _
    decide
  case h_3 =>
    obtain ⟨name, -, yields⟩ := yields_bind yields
    rw [yields_pure.mp yields]
    refine ordinary_text ?_
    iterate 2 refine Ordinary.append ?_ _
    decide
  case h_4 =>
    have named : (do
        let name ← dialect.quoteIdentifier creation.name "database"
        pure { statements := [{
          sql := "ATTACH DATABASE ? AS " ++ name
          parameters := [.infer (.text (creation.name ++ ".db"))] }] } : Reporting Plan).Yields
        plan := by
      split at yields
      · obtain ⟨_, -, yields⟩ := yields_bind yields
        exact yields
      · exact yields
    obtain ⟨name, -, named⟩ := yields_bind named
    rw [yields_pure.mp named]
    refine ordinary_single ?_ rfl
    exact .append (by decide) _

theorem compileDropDatabase_ordinary {removal : DropDatabase}
    (yields : (compileDropDatabase dialect removal).Yields plan) : plan.Ordinary := by
  obtain ⟨_, -, yields⟩ := yields_bind yields
  obtain ⟨name, -, yields⟩ := yields_bind yields
  split at yields
  · rw [yields_pure.mp yields]
    exact ordinary_text (.append (by decide) _)
  · rw [yields_pure.mp yields]
    exact ordinary_text (.append (.append (by decide) _) _)

theorem addKey_ordinary {table : String} {key : KeyDefinition} {statement : Statement}
    (yields : (addKey dialect table key).Yields (some statement)) : Ordinary statement.sql := by
  unfold addKey at yields
  split at yields
  case isTrue => cases yields_pure.mp yields
  case isFalse =>
    obtain ⟨quoted, -, yields⟩ := yields_bind yields
    split at yields
    case isTrue =>
      obtain ⟨clause, -, yields⟩ := yields_bind yields
      cases yields_pure.mp yields
      exact .append (.append (.append (by decide) _) _) _
    case isFalse =>
      obtain ⟨name, -, yields⟩ := yields_bind yields
      obtain ⟨columns, -, yields⟩ := yields_bind yields
      cases yields_pure.mp yields
      dsimp only
      iterate 8 refine Ordinary.append ?_ _
      decide

theorem compileColumn_ordinary {table name : String} {definition : ColumnDefinition} {key : Bool}
    {fragment : ColumnFragment}
    (yields : (compileColumn dialect table name definition key).Yields fragment) :
    ∀ statement ∈ fragment.followUp, Ordinary statement.sql := by
  obtain ⟨quoted, -, yields⟩ := yields_bind yields
  obtain ⟨head, -, yields⟩ := yields_bind yields
  obtain ⟨⟨references, constraints⟩, -, yields⟩ := yields_bind yields
  obtain ⟨⟨comments, followUp⟩, commented, yields⟩ := yields_bind yields
  rw [yields_pure.mp yields]
  change ∀ statement ∈ followUp, _
  cases given : definition.comment with
  | none =>
    rw [given] at commented
    cases yields_pure.mp commented
    exact fun _ member => nomatch member
  | some comment =>
    rw [given, columnComment] at commented
    split at commented
    · cases yields_pure.mp commented
      exact fun _ member => nomatch member
    · obtain ⟨quotedTable, -, commented⟩ := yields_bind commented
      cases yields_pure.mp commented
      intro statement member
      rw [List.mem_singleton.mp member]
      dsimp only
      iterate 5 refine Ordinary.append ?_ _
      decide
    · obtain ⟨_, -, commented⟩ := yields_bind commented
      cases yields_pure.mp commented
      exact fun _ member => nomatch member

theorem placeTableKey_ordinary {creation : CreateTable} {name : String} {primary : List String}
    {key : KeyDefinition} {placed : PlacedKeys}
    (yields : (placeTableKey dialect creation name primary key).Yields placed) :
    ∀ statement ∈ placed.deferred, Ordinary statement.sql := by
  unfold placeTableKey at yields
  split at yields
  case isTrue =>
    obtain ⟨_, -, yields⟩ := yields_bind yields
    rw [yields_pure.mp yields]
    exact fun _ member => nomatch member
  case isFalse =>
    obtain ⟨place, -, yields⟩ := yields_bind yields
    cases place with
    | inline sql =>
      rw [yields_pure.mp yields]
      exact fun _ member => nomatch member
    | deferred =>
      obtain ⟨statement?, added, yields⟩ := yields_bind yields
      rw [yields_pure.mp yields]
      intro statement member
      obtain rfl := Option.mem_toList.mp member
      exact addKey_ordinary added
    | unsupported =>
      obtain ⟨_, -, yields⟩ := yields_bind yields
      rw [yields_pure.mp yields]
      exact fun _ member => nomatch member

theorem ordinary_createTableWords (dialect : Dialect) (temporary : Bool) :
    Ordinary (createTableWords dialect temporary) := by
  unfold createTableWords
  split <;> decide

theorem compileColumns_ordinary {creation : CreateTable} {name table : String}
    {columns : List (String × ColumnDefinition)}
    (yields : (compileColumns dialect creation name table columns).Yields plan) :
    plan.Ordinary := by
  unfold compileColumns at yields
  obtain ⟨fragments, compiled, yields⟩ := yields_bind yields
  obtain ⟨primaryKey, -, yields⟩ := yields_bind yields
  obtain ⟨keys, placed, yields⟩ := yields_bind yields
  obtain ⟨options, -, yields⟩ := yields_bind yields
  rw [yields_pure.mp yields]
  intro statement member
  rcases List.mem_cons.mp member with rfl | member
  · dsimp only
    iterate 6 refine Ordinary.append ?_ _
    exact ordinary_createTableWords dialect creation.temporary
  · rcases List.mem_append.mp member with deferred | following
    · obtain ⟨key, belongs, known⟩ := List.mem_flatMap.mp deferred
      obtain ⟨_, -, placing⟩ := yields_mapM placed key belongs
      exact placeTableKey_ordinary placing statement known
    · obtain ⟨fragment, belongs, known⟩ := List.mem_flatMap.mp following
      obtain ⟨_, -, compiling⟩ := yields_mapM compiled fragment belongs
      exact compileColumn_ordinary compiling statement known

theorem compileCreateTable_ordinary {creation : CreateTable}
    (yields : (compileCreateTable dialect creation).Yields plan) : plan.Ordinary := by
  obtain ⟨_, -, yields⟩ := yields_bind yields
  obtain ⟨table, -, yields⟩ := yields_bind yields
  cases selected : creation.select with
  | none =>
    rw [selected] at yields
    exact compileColumns_ordinary yields
  | some select =>
    rw [selected] at yields
    dsimp only at yields
    unfold compileTableFrom at yields
    split at yields
    case isTrue =>
      obtain ⟨statement, -, yields⟩ := yields_bind yields
      obtain ⟨options, -, yields⟩ := yields_bind yields
      rw [yields_pure.mp yields]
      refine ordinary_single ?_ rfl
      iterate 5 refine Ordinary.append ?_ _
      exact ordinary_createTableWords dialect creation.temporary
    case isFalse =>
      obtain ⟨⟨statement, rowFilter⟩, compiled, yields⟩ := yields_bind yields
      rw [yields_pure.mp yields]
      exact ordinary_single (compileSelect_ordinary compiled) rfl

theorem compileDropTable_ordinary {removal : DropTable}
    (yields : (compileDropTable dialect removal).Yields plan) : plan.Ordinary := by
  obtain ⟨_, -, yields⟩ := yields_bind yields
  obtain ⟨tables, -, yields⟩ := yields_bind yields
  have words : Ordinary ((if removal.temporary && dialect.table.dropTemporaryKeyword then
      "DROP TEMPORARY TABLE " else "DROP TABLE ") ++
      (if removal.ifExists then "IF EXISTS " else "")) := by
    refine Ordinary.append ?_ _
    split <;> decide
  split at yields
  case isTrue =>
    rw [yields_pure.mp yields]
    exact ordinary_text (words.append _)
  case isFalse =>
    rw [yields_pure.mp yields]
    exact ordinary_names words tables

theorem compileAddColumn_ordinary {addition : AddColumn}
    (yields : (compileAddColumn dialect addition).Yields plan) : plan.Ordinary := by
  obtain ⟨_, -, yields⟩ := yields_bind yields
  obtain ⟨table, -, yields⟩ := yields_bind yields
  obtain ⟨fragment, compiled, yields⟩ := yields_bind yields
  obtain ⟨position, -, yields⟩ := yields_bind yields
  rw [yields_pure.mp yields]
  have altering : Ordinary ("ALTER TABLE " ++ table ++ " ") := .append (.append (by decide) _) _
  intro statement member
  rcases List.mem_append.mp member with own | following
  · obtain ⟨text, belongs, rfl⟩ := List.mem_map.mp own
    rcases List.mem_cons.mp belongs with rfl | belongs
    · exact ((altering.append _).append _).append _ |>.append _
    · obtain ⟨constraint, -, rfl⟩ := List.mem_map.mp belongs
      exact (altering.append _).append _
  · exact compileColumn_ordinary compiled statement following

/-- The statements that make a table anew. -/
theorem rebuildWithout_ordinary {removal : DropColumn} {columns : List Value}
    (yields : (rebuildWithout dialect removal columns).Yields plan) : plan.Ordinary := by
  unfold rebuildWithout at yields
  dsimp only at yields
  split at yields
  case isTrue =>
    obtain ⟨_, refused, -⟩ := yields_bind yields
    exact absurd refused not_yields_raise
  case isFalse =>
    split at yields
    case isTrue =>
      obtain ⟨_, refused, -⟩ := yields_bind yields
      exact absurd refused not_yields_raise
    case isFalse =>
      obtain ⟨_, -, yields⟩ := yields_bind yields
      obtain ⟨table, -, yields⟩ := yields_bind yields
      obtain ⟨rebuilt, -, yields⟩ := yields_bind yields
      obtain ⟨names, -, yields⟩ := yields_bind yields
      obtain ⟨final, -, yields⟩ := yields_bind yields
      rw [yields_pure.mp yields]
      refine planOf_ordinary fun text member => ?_
      simp only [List.mem_cons, List.not_mem_nil, or_false] at member
      rcases member with rfl | rfl | rfl
      · iterate 5 refine Ordinary.append ?_ _
        decide
      · exact .append (by decide) _
      · iterate 3 refine Ordinary.append ?_ _
        decide

/-- A compilation asks and does nothing but what commands do. -/
def Compilation.Ordinary : Compilation → Prop
  | .done plan => plan.Ordinary
  | .reading statement resume => PortableSql.Ordinary statement.sql ∧
      ∀ rows plan, (resume rows).Yields plan → plan.Ordinary

theorem compileDropColumn_ordinary {live : Bool} {removal : DropColumn}
    {compilation : Compilation}
    (yields : (compileDropColumn dialect live removal).Yields compilation) :
    compilation.Ordinary := by
  obtain ⟨_, -, yields⟩ := yields_bind yields
  split at yields
  case isTrue =>
    obtain ⟨table, -, yields⟩ := yields_bind yields
    obtain ⟨column, -, yields⟩ := yields_bind yields
    rw [yields_pure.mp yields]
    refine ordinary_text ?_
    iterate 3 refine Ordinary.append ?_ _
    decide
  case isFalse =>
    split at yields
    case h_1 =>
      unfold compileRebuild at yields
      split at yields
      case isTrue => exact absurd yields not_yields_raise
      case isFalse =>
        obtain ⟨table, -, yields⟩ := yields_bind yields
        rw [yields_pure.mp yields]
        refine ⟨.append (.append (by decide) _) _, fun rows plan resumed => ?_⟩
        obtain ⟨names, -, rebuilding⟩ := yields_bind resumed
        exact rebuildWithout_ordinary rebuilding
    case h_2 => exact absurd yields not_yields_raise

theorem compileAddIndex_ordinary {addition : AddIndex}
    (yields : (compileAddIndex dialect addition).Yields plan) : plan.Ordinary := by
  obtain ⟨_, -, yields⟩ := yields_bind yields
  obtain ⟨statement?, added, yields⟩ := yields_bind yields
  cases statement? with
  | some statement =>
    rw [yields_pure.mp yields]
    exact ordinary_single (addKey_ordinary added) rfl
  | none =>
    obtain ⟨_, -, yields⟩ := yields_bind yields
    rw [yields_pure.mp yields]
    exact fun _ member => nomatch member

theorem compileDropIndex_ordinary {removal : DropIndex}
    (yields : (compileDropIndex dialect removal).Yields plan) : plan.Ordinary := by
  obtain ⟨_, -, yields⟩ := yields_bind yields
  obtain ⟨statement, dropped, yields⟩ := yields_bind yields
  rw [yields_pure.mp yields]
  refine ordinary_single ?_ rfl
  unfold dropKey at dropped
  split at dropped
  case isTrue =>
    obtain ⟨index, -, dropped⟩ := yields_bind dropped
    obtain ⟨table, -, dropped⟩ := yields_bind dropped
    rw [yields_pure.mp dropped]
    dsimp only
    iterate 3 refine Ordinary.append ?_ _
    decide
  case isFalse =>
    obtain ⟨index, -, dropped⟩ := yields_bind dropped
    rw [yields_pure.mp dropped]
    exact .append (by decide) _

theorem compileShowDatabases_ordinary : (compileShowDatabases dialect).Ordinary := by
  unfold compileShowDatabases
  dsimp only
  split <;> exact ordinary_single (by decide) rfl

theorem compileShowTables_ordinary (full : Bool) : (compileShowTables dialect full).Ordinary := by
  unfold compileShowTables
  dsimp only
  split
  case h_1 => split <;> exact ordinary_single (by decide) rfl
  case h_2 | h_3 | h_4 =>
    refine ordinary_single ?_ rfl
    dsimp only
    iterate 3 refine Ordinary.append ?_ _
    decide

theorem compileShowCreateDatabase_ordinary {name : String}
    (yields : (compileShowCreateDatabase dialect name).Yields plan) : plan.Ordinary := by
  obtain ⟨quoted, -, yields⟩ := yields_bind yields
  split at yields
  · rw [yields_pure.mp yields]
    refine ordinary_single ?_ rfl
    exact .append (by decide) _
  · rw [yields_pure.mp yields]
    exact fun _ member => nomatch member

theorem compileShowCreateTable_ordinary {name : String}
    (yields : (compileShowCreateTable dialect name).Yields plan) : plan.Ordinary := by
  unfold compileShowCreateTable at yields
  split at yields
  case h_1 =>
    obtain ⟨quoted, -, yields⟩ := yields_bind yields
    rw [yields_pure.mp yields]
    refine ordinary_single ?_ rfl
    exact .append (by decide) _
  case h_2 | h_3 =>
    rw [yields_pure.mp yields]
    refine ordinary_single ?_ rfl
    change Ordinary (describedColumnsSql ++ _ ++ _ ++ _)
    unfold describedColumnsSql
    iterate 6 refine Ordinary.append ?_ _
    decide
  case h_4 =>
    rw [yields_pure.mp yields]
    refine ordinary_single ?_ rfl
    dsimp only
    decide

end

/-- The characters are plain text in every statement: none of them opens a quoted span or is part of
a mark. -/
def Dialect.Unmarked (dialect : Dialect) (characters : List Char) : Prop :=
  ∀ character ∈ characters, Sql.closingFor? dialect.table.quotedSpans character = none ∧
    character ∉ ['?', '%', '\x7b', '\x7d']

-- One character after the other; without this, all characters there are may be tried.
instance (dialect : Dialect) (characters : List Char) :
    Decidable (dialect.Unmarked characters) := List.decidableBAll _ characters

/-- The texts of a dialect that go into statements begin as statements of commands do, unlike those
that begin and end transactions; and the words that they begin with are plain text everywhere. -/
structure Dialect.Worded (dialect : Dialect) : Prop where
  set : Ordinary (dialect.table.setKeyword ++ " ")
  use : ∀ template, dialect.table.useStatement = some template → Ordinary template
  bulk : ∀ text ∈ dialect.table.bulkImportOn ++ dialect.table.bulkImportOff, Ordinary text
  insertId : Ordinary dialect.table.insertIdSql
  controls : ¬Ordinary dialect.table.beginStatement ∧ ¬Ordinary dialect.table.commitStatement ∧
    ¬Ordinary dialect.table.rollbackStatement
  plain : ∀ word ∈ commandWords, dialect.Unmarked word.toList

/-- The built-in dialects are of this kind. -/
theorem Family.worded (family : Family) : family.dialect.Worded where
  set := by cases family <;> decide
  use := by cases family <;> rintro template ⟨⟩ <;> decide
  bulk := by cases family <;> decide
  insertId := by cases family <;> decide
  controls := by cases family <;> decide
  plain := by cases family <;> decide

namespace Dialect.Worded

open Reporting

variable {dialect : Dialect} {plan : Plan}

theorem compileSet (worded : dialect.Worded) {setting : SetVariable}
    (yields : (PortableSql.compileSet dialect setting).Yields plan) : plan.Ordinary := by
  obtain ⟨statement, ran, yields⟩ := yields_bind yields
  obtain ⟨body, -, emitted⟩ := Emitting.yields_bind (Emitting.yields_run ran)
  rw [yields_pure.mp yields]
  refine ordinary_single ?_ rfl
  rw [Emitting.yields_pure emitted]
  exact worded.set.append body

/-- Characters that are no braces are kept in front of what a template is filled with. -/
theorem fillFields_begins {expand : List Char → Except Failure (List Char)}
    {values : List (String × Text.Term)} {word rest written : List Char}
    (plain : ∀ character ∈ word, character ≠ '\x7b' ∧ character ≠ '\x7d')
    (filled : Text.Template.fillFields expand values (word ++ rest) = .ok written) :
    word <+: written := by
  induction word generalizing written with
  | nil => exact List.nil_prefix
  | cons first others inductionHypothesis =>
    obtain ⟨notOpening, notClosing⟩ := plain first List.mem_cons_self
    have later : ∀ character ∈ others, character ≠ '\x7b' ∧ character ≠ '\x7d' :=
      fun character member => plain character (List.mem_cons_of_mem first member)
    rw [List.cons_append, Text.Template.fillFields.eq_7 _ _ _ _ (fun _ same _ => notOpening same)
      (fun _ same _ => notClosing same) (fun same _ => notOpening same) notOpening notClosing]
      at filled
    obtain ⟨following, ended, rest⟩ := bind_ok.mp filled
    cases rest
    exact List.cons_prefix_cons.mpr ⟨rfl, inductionHypothesis later ended⟩

/-- A filled template begins as the template does. -/
theorem fill (worded : dialect.Worded) {values : List (String × Text.Term)} {template sql : String}
    (ordinary : Ordinary template) (filled : Text.fill values template = .ok sql) :
    Ordinary sql := by
  obtain ⟨word, known, rest, begins⟩ := ordinary
  obtain ⟨written, ended, rfl⟩ := map_ok.mp filled
  rw [← begins] at ended
  refine ⟨word, known, ?_⟩
  rw [String.toList_ofList]
  refine fillFields_begins (fun character member => ?_) ended
  have plain := (worded.plain word known character member).2
  simp only [List.mem_cons, List.not_mem_nil, or_false, not_or] at plain
  exact plain.2.2

theorem compileUse (worded : dialect.Worded) {use : Use}
    (yields : (PortableSql.compileUse dialect use).Yields plan) : plan.Ordinary := by
  obtain ⟨_, -, yields⟩ := yields_bind yields
  cases given : dialect.table.useStatement with
  | none =>
    rw [given] at yields
    obtain ⟨_, -, yields⟩ := yields_bind yields
    rw [yields_pure.mp yields]
    exact fun _ member => nomatch member
  | some template =>
    rw [given] at yields
    obtain ⟨name, -, yields⟩ := yields_bind yields
    obtain ⟨sql, ⟨records, filled⟩, yields⟩ := yields_bind yields
    rw [gives_ofExcept _ records] at filled
    rw [yields_pure.mp yields]
    exact ordinary_text (worded.fill (worded.use template given) filled)

theorem compileBulkImport (worded : dialect.Worded) {mode : BulkImportMode}
    (yields : (PortableSql.compileBulkImport dialect mode).Yields plan) : plan.Ordinary := by
  obtain ⟨_, -, yields⟩ := yields_bind yields
  rw [yields_pure.mp yields]
  refine planOf_ordinary fun text member => worded.bulk text ?_
  split at member
  · exact List.mem_append_left _ member
  · exact List.mem_append_right _ member

/-- A body that is a plan at once begins as its plan does. -/
theorem done_ordinary {computation : Reporting Plan} {body : Compilation}
    (yields : (Compilation.done <$> computation).Yields body)
    (each : ∀ {plan}, computation.Yields plan → plan.Ordinary) : body.Ordinary := by
  obtain ⟨plan, ended, rfl⟩ := yields_map yields
  exact each ended

theorem compileBody (worded : dialect.Worded) {context : Context} {command : Command}
    {body : Compilation} (yields : (PortableSql.compileBody dialect context command).Yields body) :
    body.Ordinary := by
  cases command with
  | select command => exact done_ordinary yields compileQuery_ordinary
  | insert command => exact done_ordinary yields compileInsert_ordinary
  | update command => exact done_ordinary yields compileUpdate_ordinary
  | delete command => exact done_ordinary yields compileDelete_ordinary
  | truncateTable command => exact done_ordinary yields compileTruncate_ordinary
  | set command => exact done_ordinary yields worded.compileSet
  | use command => exact done_ordinary yields worded.compileUse
  | createDatabase command => exact done_ordinary yields compileCreateDatabase_ordinary
  | dropDatabase command => exact done_ordinary yields compileDropDatabase_ordinary
  | createTable command => exact done_ordinary yields compileCreateTable_ordinary
  | dropTable command => exact done_ordinary yields compileDropTable_ordinary
  | addColumn command => exact done_ordinary yields compileAddColumn_ordinary
  | dropColumn command => exact compileDropColumn_ordinary yields
  | addIndex command => exact done_ordinary yields compileAddIndex_ordinary
  | dropIndex command => exact done_ordinary yields compileDropIndex_ordinary
  | showDatabases command =>
    rw [yields_pure.mp yields]
    exact compileShowDatabases_ordinary
  | showTables command =>
    rw [yields_pure.mp yields]
    exact compileShowTables_ordinary command.full
  | showCreateDatabase command => exact done_ordinary yields compileShowCreateDatabase_ordinary
  | showCreateTable command => exact done_ordinary yields compileShowCreateTable_ordinary
  | bulkImportMode command => exact done_ordinary yields worded.compileBulkImport

/-- Whatever a command compiles to begins as statements of commands do. -/
theorem compile (worded : dialect.Worded) {context : Context} {command : Command}
    {compilation : Compilation}
    (yields : (PortableSql.compile dialect context command).Yields compilation) :
    compilation.Ordinary := by
  obtain ⟨body, compiled, yields⟩ := yields_bind yields
  have ordinary := worded.compileBody compiled
  cases body with
  | done plan =>
    obtain ⟨whole, completed, rfl⟩ := yields_map yields
    obtain ⟨_, -, completed⟩ := yields_bind completed
    rw [yields_pure.mp completed]
    exact ordinary
  | reading statement resume =>
    rw [yields_pure.mp yields]
    refine ⟨ordinary.1, fun rows plan resumed => ?_⟩
    obtain ⟨own, ended, completed⟩ := yields_bind resumed
    obtain ⟨_, -, completed⟩ := yields_bind completed
    rw [yields_pure.mp completed]
    exact ordinary.2 rows own ended

/-- The same holds of a plan without a connection. -/
theorem compilePlan (worded : dialect.Worded) {context : Context} {command : Command}
    (yields : (PortableSql.compilePlan dialect command context).Yields plan) : plan.Ordinary := by
  obtain ⟨compilation, compiled, yields⟩ := yields_bind yields
  have ordinary := worded.compile compiled
  cases compilation with
  | done own =>
    rw [yields_pure.mp yields]
    exact ordinary
  | reading statement resume => exact ordinary.2 [] plan yields

/-- Whatever a command sends begins as statements of commands do. -/
theorem plans (worded : dialect.Worded) {context : Context} {command : Command} {complete : Bool}
    {statements : List Statement} (plans : command.Plans dialect context complete statements) :
    ∀ statement ∈ statements, Ordinary statement.sql := by
  cases plans with
  | refused => exact fun _ member => nomatch member
  | compiled compiles => exact worded.compile compiles
  | looked compiles =>
    intro statement member
    rw [List.mem_singleton.mp member]
    exact (worded.compile compiles).1
  | rebuilt compiles resumes =>
    have both := worded.compile compiles
    exact List.forall_mem_cons.mpr ⟨both.1, both.2 _ _ resumes⟩

/-- So does what a session tells a new connection. -/
theorem replays (worded : dialect.Worded) {commands : List Command} {statements : List Statement}
    (replays : Replays dialect commands statements) :
    ∀ statement ∈ statements, Ordinary statement.sql := by
  induction replays with
  | nil => exact fun _ member => nomatch member
  | cons compiles _ inductionHypothesis =>
    intro statement member
    rcases List.mem_append.mp member with own | later
    · exact worded.compilePlan compiles statement own
    · exact inductionHypothesis statement later

/-- The statement that reads the last generated value begins as statements of commands do. -/
theorem insertIdStatement (worded : dialect.Worded) {table column : Option String}
    {statement : Statement} (yields : (dialect.insertIdStatement table column).Yields statement) :
    Ordinary statement.sql := by
  unfold Dialect.insertIdStatement at yields
  split at yields
  case isTrue =>
    rw [yields_pure.mp yields]
    exact worded.insertId
  case isFalse =>
    split at yields
    case h_1 =>
      split at yields
      case isTrue => exact absurd yields not_yields_raise
      case isFalse =>
        obtain ⟨quoted, -, yields⟩ := yields_bind yields
        rw [yields_pure.mp yields]
        exact worded.insertId
    case h_2 => exact absurd yields not_yields_raise

/-- Doubling percent signs keeps a word without any. -/
theorem doubledPercent_plain {word : List Char} (rest : List Char)
    (plain : ∀ character ∈ word, character ≠ '%') :
    doubledPercent (word ++ rest) = word ++ doubledPercent rest := by
  induction word with
  | nil => rfl
  | cons first others inductionHypothesis =>
    have later := inductionHypothesis fun character member =>
      plain character (List.mem_cons_of_mem first member)
    rw [List.cons_append, doubledPercent_cons (plain first List.mem_cons_self), later]
    rfl

/-- The marks of a driver leave how a statement begins. -/
theorem replaceMarkers (worded : dialect.Worded) {style : MarkerStyle} {parameters : Nat}
    {sql text : String} (ordinary : Ordinary sql)
    (replaced : PortableSql.replaceMarkers style dialect.table.quotedSpans parameters sql =
      .ok text) :
    Ordinary text := by
  unfold PortableSql.replaceMarkers at replaced
  split at replaced
  case isTrue =>
    cases replaced
    exact ordinary
  case isFalse =>
    obtain ⟨word, known, rest, begins⟩ := ordinary
    have plain := worded.plain word known
    simp only [Dialect.Unmarked, List.mem_cons, List.not_mem_nil, or_false, not_or] at plain
    have prepared : ∃ others, (if style.usesPercent then doubledPercent sql.toList
        else sql.toList) = word.toList ++ others := by
      rw [← begins]
      split
      · exact ⟨_, doubledPercent_plain rest fun character member => (plain character member).2.2.1⟩
      · exact ⟨rest, rfl⟩
    obtain ⟨others, prepared⟩ := prepared
    dsimp only at replaced
    rw [prepared, Sql.pieces_plain rfl others fun character member =>
      ⟨(plain character member).1, (plain character member).2.1⟩, Sql.replaceM_plain] at replaced
    obtain ⟨⟨characters, position⟩, ran, ended⟩ := bind_ok.mp replaced
    refine ⟨word, known, ?_⟩
    cases ended
    rw [String.toList_ofList]
    rw [StateT.run_map] at ran
    obtain ⟨⟨written, final⟩, -, same⟩ := map_ok.mp ran
    cases same
    exact List.prefix_append _ _

/-- A request begins as its statement does. -/
theorem renders (worded : dialect.Worded) {statement : Statement} {request : Request}
    (ordinary : Ordinary statement.sql) (renders : statement.Renders dialect request) :
    Ordinary request.sql := by
  obtain ⟨values, -, told⟩ := renders
  split at told
  case isTrue =>
    rw [told.1]
    exact ordinary
  case isFalse =>
    obtain ⟨style, bound⟩ := told
    obtain ⟨text, replaced, ended⟩ := bind_ok.mp bound
    obtain rfl : text = request.sql := congrArg Prod.fst (Except.ok.inj ended)
    exact worded.replaceMarkers ordinary replaced

/-- No statement of a command begins or ends a transaction. -/
theorem not_control (worded : dialect.Worded) {sql : String} (ordinary : Ordinary sql) :
    ¬dialect.IsControl sql := by
  obtain ⟨notBegin, notCommit, notRollback⟩ := worded.controls
  rintro (rfl | rfl | rfl)
  · exact notBegin ordinary
  · exact notCommit ordinary
  · exact notRollback ordinary

/-- Where statements of commands are sent, no transaction begins or ends. -/
theorem served (worded : dialect.Worded) {engine asked : Nat} {statements : List Statement}
    {events : List Event} {request : Request}
    (ordinary : ∀ statement ∈ statements, Ordinary statement.sql)
    (served : Served engine dialect statements events)
    (member : .executed asked request ∈ events) : ¬dialect.IsControl request.sql := by
  obtain ⟨statement, belongs, renders⟩ := served.rendered member
  exact worded.not_control (worded.renders (ordinary statement belongs) renders)

end Dialect.Worded

end PortableSql
