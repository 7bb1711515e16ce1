import PortableSql.Proofs.Plan
import PortableSql.Proofs.Typing

/-!
# Definitions of tables and databases

Commands that define tables, indexes and databases, and those that list them, take names and
column definitions only. Compiled without a look at any table, they end with a plan or are refused
by a report, unless the sizes of a decimal column are too long to be written.
-/

namespace PortableSql

/-- The column definitions in a command. -/
def Command.definitions : Command → List ColumnDefinition
  | createTable command => (command.columns.getD []).map Prod.snd
  | addColumn command => [command.definition]
  | _ => []

section

open Reporting

variable {legible : Prop} {dialect : Dialect}

theorem refuseArgs_failsBy (tag : Tag) (args : List Value) :
    (refuseArgs tag args).FailsBy (Failure.OfInput legible) := by
  unfold refuseArgs
  split
  · exact failsBy_pure ()
  · exact failsBy_raise (.inl rfl)

/-! ## Keys -/

theorem keyColumns_failsBy (columns : List String) :
    (keyColumns dialect columns).FailsBy (Failure.OfInput legible) :=
  (dialect.quoteIdentifiers_failsBy _ _).andThen fun _ => failsBy_pure _

theorem keyTarget_failsBy (key : KeyDefinition) :
    (keyTarget dialect key).FailsBy (Failure.OfInput legible) := by
  unfold keyTarget
  split
  · exact failsBy_pure _
  · exact (dialect.quoteIdentifier_failsBy _ _).andThen fun _ =>
      (keyColumns_failsBy _).andThen fun _ => failsBy_pure _

theorem constraintName_failsBy (name? : Option String) :
    (constraintName dialect name?).FailsBy (Failure.OfInput legible) := by
  unfold constraintName
  split
  · exact failsBy_pure _
  · split
    · exact failsBy_pure _
    · exact (dialect.quoteIdentifier_failsBy _ _).andThen fun _ => failsBy_pure _

theorem inlineKey_failsBy (table : String) (key : KeyDefinition) :
    (inlineKey dialect table key).FailsBy (Failure.OfInput legible) := by
  refine (keyColumns_failsBy key.columns).andThen fun columns => ?_
  dsimp only
  split
  case h_1 => exact (constraintName_failsBy _).andThen fun _ => failsBy_pure _
  case h_2 => exact (constraintName_failsBy _).andThen fun _ =>
      (keyTarget_failsBy key).andThen fun _ => failsBy_pure _
  case h_3 => exact (dialect.quoteIdentifier_failsBy _ _).andThen fun _ => failsBy_pure _

theorem placeKey_failsBy (table : String) (key : KeyDefinition) :
    (placeKey dialect table key).FailsBy (Failure.OfInput legible) := by
  unfold placeKey
  split
  · exact (inlineKey_failsBy table key).andThen fun _ => failsBy_pure _
  · split <;> exact failsBy_pure _

theorem addKey_failsBy (table : String) (key : KeyDefinition) :
    (addKey dialect table key).FailsBy (Failure.OfInput legible) := by
  unfold addKey
  split
  · exact failsBy_pure none
  · refine (dialect.quoteIdentifier_failsBy _ _).andThen fun _ => ?_
    split
    · exact (inlineKey_failsBy table key).andThen fun _ => failsBy_pure _
    · exact (dialect.quoteIdentifier_failsBy _ _).andThen fun _ =>
        (keyColumns_failsBy _).andThen fun _ => failsBy_pure _

theorem dropKey_failsBy (table name : String) :
    (dropKey dialect table name).FailsBy (Failure.OfInput legible) := by
  unfold dropKey
  split
  · exact (dialect.quoteIdentifier_failsBy _ _).andThen fun _ =>
      (dialect.quoteIdentifier_failsBy _ _).andThen fun _ => failsBy_pure _
  · exact (dialect.quoteIdentifier_failsBy _ _).andThen fun _ => failsBy_pure _

/-! ## Tables -/

theorem placeTableKey_failsBy (creation : CreateTable) (name : String) (primary : List String)
    (key : KeyDefinition) :
    (placeTableKey dialect creation name primary key).FailsBy (Failure.OfInput legible) := by
  have repeated : (repeatedPrimary dialect creation primary key).FailsBy
      (Failure.OfInput legible) := by
    unfold repeatedPrimary
    split
    · exact failsBy_log _
    · exact failsBy_raise (.inl rfl)
  unfold placeTableKey
  split
  · exact repeated.andThen fun _ => failsBy_pure _
  · refine (placeKey_failsBy name key).andThen fun placement => ?_
    cases placement with
    | inline sql => exact failsBy_pure _
    | deferred => exact (addKey_failsBy name key).andThen fun _ => failsBy_pure _
    | unsupported => exact (failsBy_log _).andThen fun _ => failsBy_pure _

theorem compileColumns_failsBy (complete : dialect.Complete) (creation : CreateTable)
    (name table : String) {columns : List (String × ColumnDefinition)}
    (sound : ∀ definition ∈ columns.map Prod.snd, definition.Sound)
    (readable : legible → ∀ definition ∈ columns.map Prod.snd, definition.Legible) :
    (compileColumns dialect creation name table columns).FailsBy (Failure.OfInput legible) := by
  have clause (primary : List String) :
      (primaryKeyClause dialect primary).FailsBy (Failure.OfInput legible) := by
    unfold primaryKeyClause
    split
    · exact (dialect.quoteIdentifiers_failsBy _ _).andThen fun _ => failsBy_pure _
    · exact failsBy_pure _
  have options : (tableOptions dialect creation).FailsBy (Failure.OfInput legible) :=
    (tableOptions_gives dialect creation).failsBy (failsBy_ok _)
  unfold compileColumns
  refine (Reporting.failsBy_mapM fun (column, _) member =>
    compileColumn_failsBy complete (sound _ (List.mem_map_of_mem member))
      (fun given => readable given _ (List.mem_map_of_mem member)) name column _).andThen
    fun fragments => ?_
  refine (clause _).andThen fun _ => ?_
  refine (Reporting.failsBy_mapM fun key _ =>
    placeTableKey_failsBy creation name _ key).andThen fun _ => ?_
  exact options.andThen fun _ => failsBy_pure _

theorem compileCreateTable_failsBy (complete : dialect.Complete) {creation : CreateTable}
    (plain : creation.select = none)
    (sound : ∀ definition ∈ (Command.createTable creation).definitions, definition.Sound)
    (readable : legible →
      ∀ definition ∈ (Command.createTable creation).definitions, definition.Legible) :
    (compileCreateTable dialect creation).FailsBy (Failure.OfInput legible) := by
  unfold compileCreateTable
  refine (refuseArgs_failsBy _ _).andThen fun _ => ?_
  refine (dialect.quoteIdentifier_failsBy _ _).andThen fun table => ?_
  rw [plain]
  exact compileColumns_failsBy complete creation _ table sound readable

theorem compileDropTable_failsBy (removal : DropTable) :
    (compileDropTable dialect removal).FailsBy (Failure.OfInput legible) := by
  refine (refuseArgs_failsBy _ _).andThen fun _ => ?_
  refine (dialect.quoteIdentifiers_failsBy _ _).andThen fun tables => ?_
  split <;> exact failsBy_pure _

theorem compileAddColumn_failsBy (complete : dialect.Complete) {addition : AddColumn}
    (sound : addition.definition.Sound) (readable : legible → addition.definition.Legible) :
    (compileAddColumn dialect addition).FailsBy (Failure.OfInput legible) := by
  have position : (columnPosition dialect addition).FailsBy (Failure.OfInput legible) := by
    unfold columnPosition
    dsimp only
    split_ifs
    · exact failsBy_pure _
    · exact (failsBy_log _).andThen fun _ => failsBy_pure _
    · exact failsBy_pure _
    · exact (dialect.quoteIdentifier_failsBy _ _).andThen fun _ => failsBy_pure _
  exact (refuseArgs_failsBy _ _).andThen fun _ =>
    (dialect.quoteIdentifier_failsBy _ _).andThen fun _ =>
      (compileColumn_failsBy complete sound readable _ _ _).andThen fun _ =>
        position.andThen fun _ => failsBy_pure _

/-- Without a look at the table, a column is removed by the dialect itself or not at all. -/
theorem compileDropColumn_failsBy (removal : DropColumn) :
    (compileDropColumn dialect false removal).FailsBy (Failure.OfInput legible) := by
  refine (refuseArgs_failsBy _ _).andThen fun _ => ?_
  split
  · exact (dialect.quoteIdentifier_failsBy _ _).andThen fun _ =>
      (dialect.quoteIdentifier_failsBy _ _).andThen fun _ => failsBy_pure _
  · split
    · exact failsBy_raise (Failure.ofInput_validation ..)
    · exact failsBy_raise (Failure.ofInput_validation ..)

theorem compileAddIndex_failsBy (addition : AddIndex) :
    (compileAddIndex dialect addition).FailsBy (Failure.OfInput legible) := by
  refine (refuseArgs_failsBy _ _).andThen fun _ => (addKey_failsBy _ _).andThen fun statement => ?_
  cases statement with
  | some statement => exact failsBy_pure _
  | none => exact (failsBy_log _).andThen fun _ => failsBy_pure _

theorem compileTruncate_failsBy (truncation : TruncateTable) :
    (compileTruncate dialect truncation).FailsBy (Failure.OfInput legible) := by
  refine (refuseArgs_failsBy _ _).andThen fun _ => ?_
  refine (dialect.quoteIdentifiers_failsBy _ _).andThen fun tables => ?_
  split_ifs
  all_goals exact failsBy_pure _

/-! ## Databases and listings -/

theorem compileUse_failsBy (complete : dialect.Complete) (use : Use) :
    (compileUse dialect use).FailsBy (Failure.OfInput legible) := by
  refine (refuseArgs_failsBy _ _).andThen fun _ => ?_
  cases given : dialect.table.useStatement with
  | none => exact (failsBy_log _).andThen fun _ => failsBy_pure _
  | some template =>
    refine (dialect.quoteIdentifier_failsBy _ _).andThen fun name => ?_
    refine (failsBy_ofExcept ?_).andThen fun _ => failsBy_pure _
    refine Text.fill_failsBy (complete.use template given) fun field member => ?_
    rw [List.mem_singleton.mp member]
    exact ⟨_, rfl, failsBy_ok name⟩

theorem compileCreateDatabase_failsBy (creation : CreateDatabase) :
    (compileCreateDatabase dialect creation).FailsBy (Failure.OfInput legible) := by
  have named : ∀ {next : String → Reporting Plan}, (∀ name, ∃ plan, next name = pure plan) →
      (dialect.quoteIdentifier creation.name "database" >>= next).FailsBy
        (Failure.OfInput legible) := by
    intro next ends
    refine (dialect.quoteIdentifier_failsBy _ _).andThen fun name => ?_
    obtain ⟨plan, same⟩ := ends name
    rw [same]
    exact failsBy_pure plan
  refine (refuseArgs_failsBy _ _).andThen fun _ => ?_
  dsimp only
  split
  · exact named fun _ => ⟨_, rfl⟩
  · exact named fun _ => ⟨_, rfl⟩
  · exact named fun _ => ⟨_, rfl⟩
  · split
    · exact (failsBy_log _).andThen fun _ => named fun _ => ⟨_, rfl⟩
    · exact named fun _ => ⟨_, rfl⟩

theorem compileDropDatabase_failsBy (removal : DropDatabase) :
    (compileDropDatabase dialect removal).FailsBy (Failure.OfInput legible) := by
  refine (refuseArgs_failsBy _ _).andThen fun _ => ?_
  refine (dialect.quoteIdentifier_failsBy _ _).andThen fun name => ?_
  split <;> exact failsBy_pure _

theorem compileShowCreateDatabase_failsBy (name : String) :
    (compileShowCreateDatabase dialect name).FailsBy (Failure.OfInput legible) := by
  refine (dialect.quoteIdentifier_failsBy _ _).andThen fun quoted => ?_
  split <;> exact failsBy_pure _

theorem compileShowCreateTable_failsBy (name : String) :
    (compileShowCreateTable dialect name).FailsBy (Failure.OfInput legible) := by
  unfold compileShowCreateTable
  split
  · exact (dialect.quoteIdentifier_failsBy _ _).andThen fun _ => failsBy_pure _
  all_goals exact failsBy_pure _

/-- A command that is not written compiles or is refused by a report, unless its sizes are too
long. -/
theorem compileBody_failsBy (complete : dialect.Complete) {context : Context} {command : Command}
    (offline : context.live = false)
    (unwritten : command.written? dialect context.nested = none)
    (sound : ∀ definition ∈ command.definitions, definition.Sound)
    (readable : legible → ∀ definition ∈ command.definitions, definition.Legible) :
    (compileBody dialect context command).FailsBy (Failure.OfInput legible) := by
  cases command with
  | select | insert | update | delete | set => cases unwritten
  | truncateTable command => exact (compileTruncate_failsBy command).map _
  | use command => exact (compileUse_failsBy complete command).map _
  | createDatabase command => exact (compileCreateDatabase_failsBy command).map _
  | dropDatabase command => exact (compileDropDatabase_failsBy command).map _
  | createTable command =>
    have plain : command.select = none := Option.map_eq_none_iff.mp unwritten
    exact (compileCreateTable_failsBy complete plain sound readable).map _
  | dropTable command => exact (compileDropTable_failsBy command).map _
  | addColumn command =>
    exact (compileAddColumn_failsBy complete (sound _ (List.mem_singleton_self _))
      fun given => readable given _ (List.mem_singleton_self _)).map _
  | dropColumn command =>
    unfold compileBody
    rw [offline]
    exact compileDropColumn_failsBy command
  | addIndex command => exact (compileAddIndex_failsBy command).map _
  | dropIndex command =>
    exact ((refuseArgs_failsBy _ _).andThen fun _ =>
      (dropKey_failsBy _ _).andThen fun _ => failsBy_pure _).map _
  | showDatabases | showTables => exact failsBy_pure _
  | showCreateDatabase command => exact (compileShowCreateDatabase_failsBy command.name).map _
  | showCreateTable command => exact (compileShowCreateTable_failsBy command.name).map _
  | bulkImportMode command =>
    exact ((refuseArgs_failsBy _ _).andThen fun _ => failsBy_pure _).map _

end

end PortableSql
