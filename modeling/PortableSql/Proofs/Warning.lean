import PortableSql.Proofs.Outline

/-!
# The warnings about a new table

Compiling a table leaves records of several kinds. Among them are the warnings about keys that no
statement creates: there is one for each key that is dropped, and no other. Everything else that
compiles a table is quiet in this respect, step by step.

Together with the outline this accounts for each column and each key of a new table.
-/

namespace PortableSql

namespace Reporting

variable {α β : Type} {heard : Log.Record → Bool}

/-- A computation that ends well has added these records to those that are heard. -/
def Logs (heard : Log.Record → Bool) (computation : Reporting α) (expected : List Log.Record) :
    Prop :=
  ∀ before value after, computation.run.run before = (.ok value, after) →
    after.filter heard = before.filter heard ++ expected

/-- A computation that ends well has added nothing that is heard. -/
def Quiet (heard : Log.Record → Bool) (computation : Reporting α) : Prop :=
  computation.Logs heard []

theorem quiet_pure (value : α) : (pure value : Reporting α).Quiet heard := by
  rintro before _ _ ⟨⟩
  exact (List.append_nil _).symm

theorem quiet_throw (failure : Failure) : (throw failure : Reporting α).Quiet heard := nofun

/-- Raising never ends well. -/
theorem quiet_raise (failure : Failure) : (raise failure : Reporting α).Quiet heard := by
  intro before value after ran
  have ended := gives_raise (α := α) failure before
  rw [ran] at ended
  cases ended

theorem logs_log (record : Log.Record) : (log record).Logs heard ([record].filter heard) := by
  rintro before _ _ ⟨⟩
  exact List.filter_append before [record]

/-- A record that is not heard may be logged quietly. -/
theorem quiet_log {record : Log.Record} (unheard : heard record = false) :
    (log record).Quiet heard := by
  have logs : (log record).Logs heard _ := logs_log record
  rwa [List.filter_cons_of_neg (Bool.not_eq_true _ ▸ unheard), List.filter_nil] at logs

theorem quiet_ofExcept (outcome : Except Failure α) : (ofExcept outcome).Quiet heard := by
  cases outcome with
  | ok value => exact quiet_pure value
  | error failure => exact quiet_raise failure

/-- A sequence adds what its steps add. -/
theorem Logs.bind {computation : Reporting α} {next : α → Reporting β}
    {earlier later : List Log.Record} (first : computation.Logs heard earlier)
    (second : ∀ value, computation.Yields value → (next value).Logs heard later) :
    (computation >>= next).Logs heard (earlier ++ later) := by
  intro before found last ran
  rw [ExceptT.run_bind, StateT.run_bind] at ran
  cases began : computation.run.run before with
  | mk ending between =>
    rw [began] at ran
    cases ending with
    | error failure => cases ran
    | ok value =>
      rw [second value ⟨before, congrArg Prod.fst began⟩ between found last ran,
        first before value between began, List.append_assoc]

/-- A sequence of quiet steps is quiet. -/
theorem Quiet.bind {computation : Reporting α} {next : α → Reporting β}
    (first : computation.Quiet heard) (second : ∀ value, (next value).Quiet heard) :
    (computation >>= next).Quiet heard := Logs.bind first fun value _ => second value

/-- A quiet step may come before anything. -/
theorem Quiet.then {computation : Reporting α} {next : α → Reporting β}
    {expected : List Log.Record} (first : computation.Quiet heard)
    (second : ∀ value, computation.Yields value → (next value).Logs heard expected) :
    (computation >>= next).Logs heard expected := Logs.bind first second

/-- A quiet step may come behind anything. -/
theorem Logs.followed {computation : Reporting α} {next : α → Reporting β}
    {expected : List Log.Record} (first : computation.Logs heard expected)
    (second : ∀ value, (next value).Quiet heard) :
    (computation >>= next).Logs heard expected := by
  have both := first.bind fun value _ => second value
  rwa [List.append_nil] at both

/-- Computations for the items of a list add what they add item by item. -/
theorem logs_mapM {computation : α → Reporting β} {expected : α → List Log.Record}
    (each : ∀ item, (computation item).Logs heard (expected item)) (items : List α) :
    (items.mapM computation).Logs heard (items.flatMap expected) := by
  induction items with
  | nil => exact quiet_pure []
  | cons first rest inductionHypothesis =>
    rw [List.mapM_cons, List.flatMap_cons]
    exact (each first).bind fun value _ =>
      inductionHypothesis.followed fun values => quiet_pure (value :: values)

theorem quiet_mapM {computation : α → Reporting β}
    (each : ∀ item, (computation item).Quiet heard) (items : List α) :
    (items.mapM computation).Quiet heard := by
  have logs := logs_mapM each items
  have nothing : (items.flatMap fun _ => ([] : List Log.Record)) = [] := by simp
  rwa [nothing] at logs

end Reporting

open Reporting

/-- A warning about what becomes of a table. -/
def tableWarning (record : Log.Record) : Bool :=
  record.level = .warning && record.speaker = "sqlcommand.query_builder.base"

/-- The computation leaves no warning about what becomes of a table. -/
abbrev Reporting.Unwarned {α : Type} (computation : Reporting α) : Prop :=
  computation.Quiet tableWarning

section Columns

variable {dialect : Dialect} {definition : ColumnDefinition} {name : String}

/-- Records about columns are no warnings about what becomes of a table. -/
theorem columnRecord_unwarned {level : Log.Level} {message : String}
    {fields : List (String × Value)} :
    (log (columnRecord dialect level message name fields)).Unwarned :=
  quiet_log (by simp [tableWarning, columnRecord])

theorem quoteIdentifier_unwarned {what : String} :
    (dialect.quoteIdentifier name what).Unwarned := by
  refine (quiet_mapM (fun part => ?_) _).bind fun _ => quiet_pure _
  unfold quotePart
  split
  · exact quiet_raise _
  · exact quiet_pure _

theorem integerType_unwarned : (integerType dialect definition name).Unwarned := by
  have wanted : (wantedWidth dialect definition name).Unwarned := by
    unfold wantedWidth
    generalize integerWidth definition + (if widened dialect definition then 1 else 0) = wanted
    dsimp only
    split
    · exact quiet_pure _
    generalize widest? _ = widest
    cases widest with
    | none => exact quiet_throw _
    | some widest =>
      dsimp only
      split
      · exact columnRecord_unwarned.bind fun _ => quiet_pure _
      · exact quiet_pure _
  refine wanted.bind fun width => ?_
  split
  · exact quiet_pure _
  · exact quiet_pure _
  · dsimp only
    split
    · exact columnRecord_unwarned.bind fun _ => quiet_pure _
    · exact quiet_raise _

theorem floatType_unwarned : (floatType dialect definition name).Unwarned := by
  unfold floatType
  dsimp only
  split
  · exact quiet_pure _
  · exact quiet_raise _

theorem decimalType_unwarned : (decimalType dialect definition name).Unwarned := by
  unfold decimalType
  dsimp only
  split
  · refine (quiet_ofExcept _).bind fun _ => (quiet_ofExcept _).bind fun _ =>
      columnRecord_unwarned.bind fun _ => ?_
    exact (quiet_ofExcept _).bind fun _ => quiet_pure _
  · exact (quiet_ofExcept _).bind fun _ => quiet_pure _

theorem sizedType_unwarned {types : SizedTypes} :
    (sizedType dialect types definition name).Unwarned := by
  unfold sizedType
  dsimp only
  split
  · exact quiet_ofExcept _
  split
  · exact quiet_ofExcept _
  have varying : (do
      if types.longest < definition.length.getD 0 then
        Reporting.log (columnRecord dialect .debug
          "Variable-width column longer than dialect maximum, using unbounded type" name
          [("length", .int (definition.length.getD 0))])
        Reporting.ofExcept (typeOfClass types.classes 2)
      else Reporting.ofExcept (Text.fill [("length", .whole (definition.length.getD 0))]
        (← Reporting.ofExcept (typeOfClass types.classes 1))) : Reporting String).Unwarned := by
    split
    · exact columnRecord_unwarned.bind fun _ => quiet_ofExcept _
    · exact (quiet_ofExcept _).bind fun _ => quiet_ofExcept _
  split
  · exact columnRecord_unwarned.bind fun _ => varying
  · exact varying

theorem columnType_unwarned : (columnType dialect definition name).Unwarned := by
  unfold columnType
  split
  · exact integerType_unwarned
  · exact floatType_unwarned
  · exact decimalType_unwarned
  · exact sizedType_unwarned
  · exact sizedType_unwarned
  · exact quiet_pure _
  all_goals
    split
    · exact quiet_pure _
    · exact quiet_throw _

/-- Compiling a column leaves no warning about what becomes of the table. -/
theorem compileColumn_unwarned {table : String} {inlineKey : Bool} :
    (compileColumn dialect table name definition inlineKey).Unwarned := by
  have head : (columnHead dialect name definition inlineKey).Unwarned := by
    unfold columnHead
    split
    · split
      · exact quiet_pure _
      · exact quiet_raise _
    · exact columnType_unwarned
  have reference : ∀ quoted, (columnReference dialect quoted definition.references).Unwarned := by
    intro quoted
    unfold columnReference
    split
    · exact quiet_pure _
    · refine (quoteIdentifier_unwarned.bind fun _ => quoteIdentifier_unwarned.bind fun _ =>
        quiet_pure _).bind fun target => ?_
      split <;> exact quiet_pure _
  have comment : ∀ quoted,
      (columnComment dialect table name quoted definition.comment).Unwarned := by
    intro quoted
    unfold columnComment
    split
    · exact quiet_pure _
    split
    · exact quiet_pure _
    · exact quoteIdentifier_unwarned.bind fun _ => quiet_pure _
    · exact columnRecord_unwarned.bind fun _ => quiet_pure _
  exact quoteIdentifier_unwarned.bind fun quoted => head.bind fun _ =>
    (reference quoted).bind fun _ => (comment quoted).bind fun _ => quiet_pure _

end Columns

section Keys

variable {dialect : Dialect} {table : String} {key : KeyDefinition}

theorem quoteIdentifiers_unwarned {names : List String} {what : String} :
    (dialect.quoteIdentifiers names what).Unwarned :=
  quiet_mapM (fun _ => quoteIdentifier_unwarned) names

theorem keyColumns_unwarned {columns : List String} : (keyColumns dialect columns).Unwarned :=
  quoteIdentifiers_unwarned.bind fun _ => quiet_pure _

theorem inlineKey_unwarned : (inlineKey dialect table key).Unwarned := by
  have constraint : ∀ name?, (constraintName dialect name?).Unwarned := by
    intro name?
    unfold constraintName
    split
    · exact quiet_pure _
    · split
      · exact quiet_pure _
      · exact quoteIdentifier_unwarned.bind fun _ => quiet_pure _
  have target : (keyTarget dialect key).Unwarned := by
    unfold keyTarget
    split
    · exact quiet_pure _
    · exact quoteIdentifier_unwarned.bind fun _ => keyColumns_unwarned.bind fun _ =>
        quiet_pure _
  refine keyColumns_unwarned.bind fun columns => ?_
  dsimp only
  split
  · exact (constraint _).bind fun _ => quiet_pure _
  · exact (constraint _).bind fun _ => target.bind fun _ => quiet_pure _
  · exact quoteIdentifier_unwarned.bind fun _ => quiet_pure _

theorem addKey_unwarned : (addKey dialect table key).Unwarned := by
  unfold addKey
  split
  · exact quiet_pure _
  · refine quoteIdentifier_unwarned.bind fun _ => ?_
    split
    · exact inlineKey_unwarned.bind fun _ => quiet_pure _
    · exact quoteIdentifier_unwarned.bind fun _ => keyColumns_unwarned.bind fun _ =>
        quiet_pure _

end Keys

/-! ## Tables -/

section Tables

variable {dialect : Dialect} {creation : CreateTable}

/-- The warning about a key that no statement creates. -/
def CreateTable.dropRecord (dialect : Dialect) (creation : CreateTable) (key : KeyDefinition) :
    Log.Record :=
  tableRecord dialect .warning
    (key.type.spelling ++ " key is not supported by " ++ dialect.name ++ " and was dropped")
    creation.name [("key.columns", .list (key.columns.map .text))]

/-- Only warnings are warnings about what becomes of a table. -/
theorem log_unwarned {record : Log.Record} (harmless : record.level ≠ .warning) :
    (log record).Unwarned :=
  quiet_log (by simp [tableWarning, harmless])

/-- Placing a key leaves a warning when the key is dropped. -/
theorem placeTableKey_logs {table : String} {primary : List String} (key : KeyDefinition) :
    (placeTableKey dialect creation table primary key).Logs tableWarning
      (if key.fate dialect primary = .dropped then [creation.dropRecord dialect key] else []) := by
  unfold placeTableKey KeyDefinition.fate
  split
  case isTrue =>
    refine Quiet.bind ?_ fun _ => quiet_pure _
    unfold repeatedPrimary
    split
    · exact log_unwarned nofun
    · exact quiet_raise _
  case isFalse =>
    unfold placeKey
    split
    case isTrue =>
      exact (inlineKey_unwarned.bind fun _ => quiet_pure _).then fun place placing => by
        obtain ⟨clause, -, placing⟩ := yields_bind placing
        obtain rfl := yields_pure.mp placing
        exact quiet_pure _
    case isFalse =>
      split
      case isTrue =>
        rw [pure_bind]
        exact addKey_unwarned.bind fun _ => quiet_pure _
      case isFalse =>
        rw [pure_bind]
        exact (logs_log (creation.dropRecord dialect key)).followed fun _ => quiet_pure _

/-- Compiling a table leaves a warning for each key that is dropped, in the order of the keys. -/
theorem compileColumns_logs {table : String} {columns : List (String × ColumnDefinition)} :
    (compileColumns dialect creation (creation.finalName dialect) table columns).Logs tableWarning
      ((creation.keysOf dialect columns .dropped).map (creation.dropRecord dialect)) := by
  have keys : (creation.keys.mapM (placeTableKey dialect creation (creation.finalName dialect)
      (primaryColumns dialect columns))).Logs tableWarning _ :=
    logs_mapM placeTableKey_logs creation.keys
  rw [flatMap_ite] at keys
  have options : (tableOptions dialect creation).Unwarned := by
    unfold tableOptions
    dsimp only
    split
    · exact quiet_pure _
    split
    · refine Quiet.bind (log_unwarned ?_) fun _ => quiet_pure _
      exact nofun
    · exact quiet_pure _
  have clause : (primaryKeyClause dialect (primaryColumns dialect columns)).Unwarned := by
    unfold primaryKeyClause
    split
    · exact Quiet.bind quoteIdentifiers_unwarned fun _ => quiet_pure _
    · exact quiet_pure _
  unfold compileColumns
  refine Quiet.then (quiet_mapM (fun _ => compileColumn_unwarned) columns) fun fragments _ => ?_
  refine Quiet.then clause fun primaryKey _ => ?_
  exact keys.followed fun _ => options.bind fun _ => quiet_pure _

/-- The plan of a new table consists of the statements of its outline. It creates the table with an
entry for each column, for a primary key of several columns, for each reference that is no option,
and for each key that is declared inside; then it adds the deferred keys and keeps the comments, all
of them in the order in which they are given. A key that is left out has the columns of the primary
key that the columns make up, and for each key that is dropped there is one warning.

Proof: names and clauses have one text each, so columns and keys are compiled one by one to the
texts of their entries, and each key is placed by its fate. No other step leaves a warning about
what becomes of a table. -/
theorem createTable_outlined (dialect : Dialect) (context : Context) {creation : CreateTable}
    {columns : List (String × ColumnDefinition)} {plan : Plan} {records : List Log.Record}
    (given : creation.columns = some columns) (plain : creation.select = none)
    (compiled : (compilePlan dialect (.createTable creation) context).start = (.ok plan, records)) :
    (∃ types, ColumnTypes dialect (!composite dialect columns) columns types ∧
      plan.statements = (creation.outline dialect columns types).map
        (TableStatement.statement dialect creation)) ∧
      (∀ key ∈ creation.keysOf dialect columns .repeated,
        key.columns.Perm (primaryColumns dialect columns)) ∧
      records.filter tableWarning =
        (creation.keysOf dialect columns .dropped).map (creation.dropRecord dialect) := by
  have yields : (compilePlan dialect (.createTable creation) context).Yields plan :=
    ⟨[], congrArg Prod.fst compiled⟩
  have logs : (compilePlan dialect (.createTable creation) context).Logs tableWarning
      ((creation.keysOf dialect columns .dropped).map (creation.dropRecord dialect)) := by
    rw [compilePlan_createTable given plain]
    have allowed : (refuseArgs .createTable creation.args).Unwarned := by
      unfold refuseArgs
      split
      · exact quiet_pure _
      · exact quiet_raise _
    refine allowed.then fun _ _ => quoteIdentifier_unwarned.then fun table _ => ?_
    refine compileColumns_logs.followed fun built => ?_
    refine Quiet.bind (log_unwarned ?_) fun _ => quiet_pure _
    exact nofun
  obtain ⟨types, headed, statements, repeats⟩ := compilePlan_outlined given plain yields
  exact ⟨⟨types, headed, statements⟩, repeats, logs [] plan records compiled⟩

/-- A table of accounts with a comment, and keys of all fates but one. -/
def accountsTable : CreateTable where
  name := "accounts"
  columns := some [
    ("number", { type := .integer, primaryKey := true }),
    ("owner", { type := .integer, comment := some "who pays" })]
  keys := [
    { type := .fulltext, columns := ["owner"] },
    { type := .unique, columns := ["number", "owner"] },
    { type := .foreign, columns := ["owner"],
      references := some { table := "owners", columns := ["number"] } }]

/-- The table is created with its reference, gets its unique key and its comment afterwards, and one
key is dropped with a warning. -/
theorem accountsTable_outlined : ∃ plan records,
    (compilePlan Family.postgresql.dialect (.createTable accountsTable)).start =
      (.ok plan, records) ∧
    plan.statements.length = 3 ∧ (records.filter tableWarning).length = 1 := by
  obtain ⟨plan, compiled⟩ := Option.isSome_iff_exists.mp (show Option.isSome (compilePlan
    Family.postgresql.dialect (.createTable accountsTable)).result.toOption = true
    by decide +kernel)
  have started : (compilePlan Family.postgresql.dialect (.createTable accountsTable)).start =
      (.ok plan, (compilePlan Family.postgresql.dialect (.createTable accountsTable)).records) :=
    Prod.ext (Reporting.toOption_eq_some.mp compiled) rfl
  obtain ⟨⟨types, headed, statements⟩, -, warned⟩ :=
    createTable_outlined Family.postgresql.dialect {} rfl rfl started
  refine ⟨plan, _, started, ?_, ?_⟩
  · rw [statements, List.length_map]
    rfl
  · rw [warned]
    rfl

end Tables

end PortableSql
