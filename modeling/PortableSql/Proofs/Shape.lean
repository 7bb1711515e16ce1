import PortableSql.Compile.Command
import PortableSql.Proofs.Outcome

/-!
# Plans that reshape rows

Only listings have their rows reshaped on the way through the cursor. Renaming columns never fails;
what may fail is the making of a text from the descriptions of columns, long after the command was
compiled.
-/

namespace PortableSql

namespace Reporting

variable {α β : Type} {property : β → Prop}

/-- Whatever the computation ends with has the property. -/
def Always (computation : Reporting α) (property : α → Prop) : Prop :=
  ∀ value, computation.Yields value → property value

theorem always_pure {value : β} (holds : property value) :
    (pure value : Reporting β).Always property := by
  intro found yields
  cases yields_pure.mp yields
  exact holds

theorem always_raise (failure : Failure) : (raise failure : Reporting β).Always property :=
  fun _ yields => absurd yields not_yields_raise

/-- The last step of a sequence decides. -/
theorem always_bind {computation : Reporting α} {next : α → Reporting β}
    (each : ∀ value, (next value).Always property) :
    (computation >>= next).Always property := by
  intro found yields
  obtain ⟨value, -, continued⟩ := yields_bind yields
  exact each value found continued

theorem Always.map {computation : Reporting α} {change : α → β}
    (always : computation.Always fun value => property (change value)) :
    (change <$> computation).Always property := by
  intro found yields
  obtain ⟨value, begun, rfl⟩ := yields_map yields
  exact always value begun

end Reporting

open Reporting

/-- The command removes a column where the table has to be made anew, for which the names of its
columns are read first. -/
def Command.Rebuilds (dialect : Dialect) : Command → Prop
  | .dropColumn _ => dialect.table.nativeDropColumn = false ∧ dialect.family = .sqlite
  | _ => False

/-- The rows of such a plan are handed out as the server sends them. -/
def Plan.Unreshaped (plan : Plan) : Prop := plan.reshape = none

/-- Whatever rows the server sends, they can be reshaped. -/
def Plan.Sure (plan : Plan) : Prop :=
  ∀ reshape, plan.reshape = some reshape → ∀ rows failure, (reshape rows).result ≠ .error failure

theorem Plan.Unreshaped.sure {plan : Plan} (unreshaped : plan.Unreshaped) : plan.Sure :=
  fun _ wrong => nomatch unreshaped.symm.trans wrong

/-- Columns can always be renamed. -/
theorem renamingPlan_sure (sql : String) (names : List String) :
    (renamingPlan sql names).Sure := by
  rintro _ ⟨⟩ rows failure wrong
  cases wrong

section

variable (dialect : Dialect)

theorem compileQuery_unreshaped (nested : Bool) (select : Select) :
    (compileQuery dialect nested select).Always Plan.Unreshaped :=
  always_bind fun _ => always_pure rfl

theorem compileInsert_unreshaped (insert : Insert) :
    (compileInsert dialect insert).Always Plan.Unreshaped := by
  refine always_bind fun _ => always_bind fun table => ?_
  split
  · refine always_bind fun statement => ?_
    dsimp only
    split
    · exact always_bind fun columns => always_pure rfl
    · exact always_bind fun columns => always_pure rfl
    · exact always_bind fun names => always_bind fun columns => always_pure rfl
  · exact always_bind fun _ => always_bind fun names => always_pure rfl

theorem compileUpdate_unreshaped (update : Update) :
    (compileUpdate dialect update).Always Plan.Unreshaped :=
  always_bind fun _ => always_pure rfl

theorem compileDelete_unreshaped (delete : Delete) :
    (compileDelete dialect delete).Always Plan.Unreshaped :=
  always_bind fun _ => always_pure rfl

theorem compileSet_unreshaped (setting : SetVariable) :
    (compileSet dialect setting).Always Plan.Unreshaped :=
  always_bind fun _ => always_pure rfl

theorem compileTruncate_unreshaped (truncation : TruncateTable) :
    (compileTruncate dialect truncation).Always Plan.Unreshaped := by
  refine always_bind fun _ => always_bind fun tables => ?_
  split
  · exact always_pure rfl
  · split <;> exact always_pure rfl

theorem compileUse_unreshaped (use : Use) :
    (compileUse dialect use).Always Plan.Unreshaped := by
  refine always_bind fun _ => ?_
  split
  · exact always_bind fun _ => always_pure rfl
  · exact always_bind fun name => always_bind fun text => always_pure rfl

theorem compileCreateDatabase_unreshaped (creation : CreateDatabase) :
    (compileCreateDatabase dialect creation).Always Plan.Unreshaped := by
  refine always_bind fun _ => ?_
  split
  · exact always_bind fun name => always_pure rfl
  · exact always_bind fun name => always_pure rfl
  · exact always_bind fun name => always_pure rfl
  · dsimp only
    split
    · exact always_bind fun _ => always_bind fun name => always_pure rfl
    · exact always_bind fun name => always_pure rfl

theorem compileDropDatabase_unreshaped (removal : DropDatabase) :
    (compileDropDatabase dialect removal).Always Plan.Unreshaped := by
  refine always_bind fun _ => always_bind fun name => ?_
  split <;> exact always_pure rfl

theorem compileCreateTable_unreshaped (creation : CreateTable) :
    (compileCreateTable dialect creation).Always Plan.Unreshaped := by
  refine always_bind fun _ => always_bind fun table => ?_
  split
  · unfold compileTableFrom
    split
    · exact always_bind fun statement => always_bind fun options => always_pure rfl
    · exact always_bind fun statement => always_pure rfl
  · refine always_bind fun fragments => always_bind fun primaryKey => always_bind fun keys =>
      always_bind fun options => always_pure rfl

theorem compileDropTable_unreshaped (removal : DropTable) :
    (compileDropTable dialect removal).Always Plan.Unreshaped := by
  refine always_bind fun _ => always_bind fun tables => ?_
  split <;> exact always_pure rfl

theorem compileAddColumn_unreshaped (addition : AddColumn) :
    (compileAddColumn dialect addition).Always Plan.Unreshaped :=
  always_bind fun _ => always_bind fun _ => always_bind fun _ => always_bind fun _ =>
    always_pure rfl

theorem compileDropColumn_unreshaped (live : Bool) (removal : DropColumn) :
    (compileDropColumn dialect live removal).Always fun compilation =>
      ∀ plan, compilation = .done plan → plan.Unreshaped := by
  refine always_bind fun _ => ?_
  split
  · refine always_bind fun table => always_bind fun column => always_pure ?_
    rintro _ ⟨⟩
    rfl
  · split
    · unfold compileRebuild
      split
      · exact always_raise _
      · refine always_bind fun table => always_pure ?_
        rintro _ ⟨⟩
    · exact always_raise _

theorem compileAddIndex_unreshaped (addition : AddIndex) :
    (compileAddIndex dialect addition).Always Plan.Unreshaped := by
  refine always_bind fun _ => always_bind fun statement => ?_
  split
  · exact always_pure rfl
  · exact always_bind fun _ => always_pure rfl

theorem compileDropIndex_unreshaped (removal : DropIndex) :
    (compileDropIndex dialect removal).Always Plan.Unreshaped :=
  always_bind fun _ => always_bind fun _ => always_pure rfl

theorem compileBulkImport_unreshaped (mode : BulkImportMode) :
    (compileBulkImport dialect mode).Always Plan.Unreshaped :=
  always_bind fun _ => always_pure rfl

theorem compileShowDatabases_sure : (compileShowDatabases dialect).Sure := by
  unfold compileShowDatabases
  split
  · exact renamingPlan_sure _ _
  all_goals exact Plan.Unreshaped.sure rfl

theorem compileShowTables_sure (full : Bool) : (compileShowTables dialect full).Sure := by
  unfold compileShowTables
  dsimp only
  split
  · split <;> exact renamingPlan_sure _ _
  all_goals exact Plan.Unreshaped.sure rfl

theorem compileShowCreateDatabase_sure (name : String) :
    (compileShowCreateDatabase dialect name).Always Plan.Sure := by
  refine always_bind fun quoted => ?_
  split
  · exact always_pure (renamingPlan_sure _ _)
  · exact always_pure (Plan.Unreshaped.sure rfl)

/-- The plan makes a text of what the server answers about the columns of a table. -/
def Plan.Describes (dialect : Dialect) (command : Command) (plan : Plan) : Prop :=
  ∃ showing schema, command = .showCreateTable showing ∧
    (dialect.family = .postgresql ∨ dialect.family = .mssql) ∧
    plan.statements = (describingPlan dialect showing.name schema).statements ∧
    plan.reshape = some (tableCreation showing.name dialect.table.identifierQuote)

theorem compileShowCreateTable_shape (showing : ShowCreateTable) :
    (compileShowCreateTable dialect showing.name).Always fun plan =>
      plan.Sure ∨ plan.Describes dialect (.showCreateTable showing) := by
  unfold compileShowCreateTable
  split
  case h_1 => exact always_bind fun quoted => always_pure (.inl (renamingPlan_sure _ _))
  case h_2 family =>
    exact always_pure (.inr ⟨showing, "current_schema()", rfl, .inl family, rfl, rfl⟩)
  case h_3 family =>
    exact always_pure (.inr ⟨showing, "SCHEMA_NAME()", rfl, .inr family, rfl, rfl⟩)
  case h_4 => exact always_pure (.inl (Plan.Unreshaped.sure rfl))

variable {dialect} {context : Context} {command : Command}

/-- A command compiles to a plan at once, unless a table has to be looked at and can be. -/
theorem compileBody_done {compilation : Compilation}
    (planned : context.live = false ∨ ¬command.Rebuilds dialect)
    (yields : (compileBody dialect context command).Yields compilation) :
    ∃ plan, compilation = .done plan := by
  have mapped : ∀ {computation : Reporting Plan}, (Compilation.done <$> computation).Always
      fun compilation => ∃ plan, compilation = .done plan :=
    Always.map fun plan _ => ⟨plan, rfl⟩
  cases command with
  | dropColumn command =>
    unfold compileBody at yields
    obtain ⟨_, -, yields⟩ := yields_bind yields
    split at yields
    · obtain ⟨_, -, yields⟩ := yields_bind yields
      obtain ⟨_, -, yields⟩ := yields_bind yields
      exact ⟨_, yields_pure.mp yields⟩
    · rename_i emulated
      split at yields
      case h_1 family =>
        have offline : context.live = false := planned.resolve_right fun native =>
          native ⟨by simpa using emulated, family⟩
        rw [compileRebuild, if_pos (by rw [offline]; rfl)] at yields
        exact absurd yields not_yields_raise
      case h_2 => exact absurd yields not_yields_raise
  | showDatabases | showTables => exact ⟨_, yields_pure.mp yields⟩
  | _ => exact mapped _ yields

/-- Only where a table is described can the reshaping of the rows fail. -/
theorem compileBody_shape {plan : Plan}
    (yields : (compileBody dialect context command).Yields (.done plan)) :
    plan.Sure ∨ plan.Describes dialect command := by
  have mapped : ∀ {computation : Reporting Plan} {property : Plan → Prop},
      computation.Always property → (Compilation.done <$> computation).Yields (.done plan) →
      property plan := by
    intro computation property always yields
    obtain ⟨_, begun, ⟨⟩⟩ := yields_map yields
    exact always plan begun
  have unreshaped : ∀ {computation : Reporting Plan}, computation.Always Plan.Unreshaped →
      (Compilation.done <$> computation).Yields (.done plan) → plan.Sure :=
    fun always yields => (mapped always yields).sure
  cases command with
  | select => exact .inl (unreshaped (compileQuery_unreshaped _ _ _) yields)
  | insert => exact .inl (unreshaped (compileInsert_unreshaped _ _) yields)
  | update => exact .inl (unreshaped (compileUpdate_unreshaped _ _) yields)
  | delete => exact .inl (unreshaped (compileDelete_unreshaped _ _) yields)
  | truncateTable => exact .inl (unreshaped (compileTruncate_unreshaped _ _) yields)
  | set => exact .inl (unreshaped (compileSet_unreshaped _ _) yields)
  | use => exact .inl (unreshaped (compileUse_unreshaped _ _) yields)
  | createDatabase => exact .inl (unreshaped (compileCreateDatabase_unreshaped _ _) yields)
  | dropDatabase => exact .inl (unreshaped (compileDropDatabase_unreshaped _ _) yields)
  | createTable => exact .inl (unreshaped (compileCreateTable_unreshaped _ _) yields)
  | dropTable => exact .inl (unreshaped (compileDropTable_unreshaped _ _) yields)
  | addColumn => exact .inl (unreshaped (compileAddColumn_unreshaped _ _) yields)
  | dropColumn => exact .inl (compileDropColumn_unreshaped _ _ _ _ yields plan rfl).sure
  | addIndex => exact .inl (unreshaped (compileAddIndex_unreshaped _ _) yields)
  | dropIndex => exact .inl (unreshaped (compileDropIndex_unreshaped _ _) yields)
  | showDatabases =>
    cases yields_pure.mp yields
    exact .inl (compileShowDatabases_sure _)
  | showTables =>
    cases yields_pure.mp yields
    exact .inl (compileShowTables_sure _ _)
  | showCreateDatabase => exact .inl (mapped (compileShowCreateDatabase_sure _ _) yields)
  | showCreateTable => exact mapped (compileShowCreateTable_shape _ _) yields
  | bulkImportMode => exact .inl (unreshaped (compileBulkImport_unreshaped _ _) yields)

/-- A plan is completed by the tag of its command, and sends and reshapes the same. -/
theorem completePlan_always (tag : Tag) (plan : Plan) :
    (completePlan dialect context tag plan).Always fun completed =>
      completed.tag = some tag ∧ completed.statements = plan.statements ∧
        completed.reshape = plan.reshape :=
  always_bind fun _ => always_pure ⟨rfl, rfl, rfl⟩

/-- What a command compiles to where no table has to be looked at: a plan with its tag, whose rows
can be reshaped unless it describes a table. -/
theorem compile_shape {compilation : Compilation}
    (planned : context.live = false ∨ ¬command.Rebuilds dialect)
    (yields : (compile dialect context command).Yields compilation) :
    ∃ plan, compilation = .done plan ∧ plan.tag = some command.tag ∧
      (plan.Sure ∨ plan.Describes dialect command) := by
  obtain ⟨body, began, yields⟩ := yields_bind yields
  obtain ⟨plan, rfl⟩ := compileBody_done planned began
  obtain ⟨completed, completes, rfl⟩ := yields_map yields
  obtain ⟨tagged, statements, reshape⟩ := completePlan_always _ _ completed completes
  refine ⟨completed, rfl, tagged, (compileBody_shape began).imp ?_ ?_⟩
  · intro sure
    rwa [Plan.Sure, reshape]
  · intro describes
    rwa [Plan.Describes, statements, reshape]

end

end PortableSql
