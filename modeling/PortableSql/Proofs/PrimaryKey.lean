import PortableSql.Proofs.Outline

/-!
# The primary keys of a new table

A primary key is declared by an option of a column, by an entry for several columns, or by a key of
the list, inside the table or by a statement of its own. The outline of a table shows all of these
places. Columns that make up a primary key declare it exactly once, and then no key of the list
declares another one. Without such columns every primary key of the list is declared.
-/

namespace PortableSql

open Reporting

variable {dialect : Dialect}

/-! ## Declared primary keys -/

/-- The columns of the primary key that an option of a column declares. -/
def ColumnOption.primaryKeys (column : String) : ColumnOption → List (List String)
  | primaryKey _ => [[column]]
  | _ => []

/-- The columns of a key that is a primary key. -/
def KeyDefinition.primaryKeys (key : KeyDefinition) : List (List String) :=
  if key.type = .primary then [key.columns] else []

/-- The columns of the primary keys that an entry declares. -/
def TableEntry.primaryKeys : TableEntry → List (List String)
  | column name _ options => options.flatMap (ColumnOption.primaryKeys name)
  | primaryKey columns => [columns]
  | foreignKey _ _ => []
  | key definition => definition.primaryKeys

/-- The columns of the primary keys that a statement declares. -/
def TableStatement.primaryKeys : TableStatement → List (List String)
  | create entries => entries.flatMap TableEntry.primaryKeys
  | addKey key => key.primaryKeys
  | comment _ _ => []

/-- A column belongs to the primary key that the columns make up. -/
def ColumnDefinition.isPrimary (dialect : Dialect) (definition : ColumnDefinition) : Bool :=
  definition.primaryKey || definition.generatedBy dialect .rowid

/-! ## What columns declare -/

theorem primaryKeys_optionWhen {option : ColumnOption} {name : String}
    (other : option.primaryKeys name = []) (condition : Bool) :
    (ColumnDefinition.optionWhen condition option).flatMap (ColumnOption.primaryKeys name) =
      [] := by
  cases condition
  · rfl
  · exact (List.append_nil _).trans other

theorem primaryKeys_map {α : Type} {option : α → ColumnOption} {name : String}
    (other : ∀ item, (option item).primaryKeys name = []) (items : List α) :
    (items.map option).flatMap (ColumnOption.primaryKeys name) = [] := by
  simp [List.flatMap_map, other]

/-- A column declares itself as the primary key when its values are row identifiers, or when it is
marked and may be the primary key by itself. -/
theorem primaryKeys_options (definition : ColumnDefinition) (name : String) (inlineKey : Bool) :
    (definition.options dialect inlineKey).flatMap (ColumnOption.primaryKeys name) =
      if definition.generatedBy dialect .rowid || (definition.primaryKey && inlineKey) then [[name]]
      else [] := by
  have defaults : (definition.default?.toList.map ColumnOption.default).flatMap
      (ColumnOption.primaryKeys name) = [] := primaryKeys_map (fun _ => rfl) _
  have references : (if dialect.table.inlineReferences then
      definition.references.toList.map ColumnOption.references else []).flatMap
        (ColumnOption.primaryKeys name) = [] := by
    split
    · exact primaryKeys_map (fun _ => rfl) _
    · rfl
  have comments : (if dialect.table.commentStyle = .inline then
      definition.comment.toList.map ColumnOption.comment else []).flatMap
        (ColumnOption.primaryKeys name) = [] := by
    split
    · exact primaryKeys_map (fun _ => rfl) _
    · rfl
  unfold ColumnDefinition.options
  simp only [List.flatMap_append,
    primaryKeys_optionWhen (rfl : ColumnOption.identity.primaryKeys name = []),
    primaryKeys_optionWhen (rfl : ColumnOption.notNull.primaryKeys name = []),
    primaryKeys_optionWhen (rfl : ColumnOption.autoIncrement.primaryKeys name = []),
    primaryKeys_optionWhen (rfl : ColumnOption.unique.primaryKeys name = []),
    defaults, references, comments, List.nil_append, List.append_nil]
  cases definition.generatedBy dialect .rowid
  · cases definition.primaryKey && inlineKey <;> rfl
  · rfl

theorem primaryColumns_eq (columns : List (String × ColumnDefinition)) :
    primaryColumns dialect columns =
      (columns.filter fun column => column.2.isPrimary dialect).map Prod.fst := rfl

/-- Columns that may be the primary key by themselves declare those that are primary. -/
theorem primaryKeys_columnEntries {columns : List (String × ColumnDefinition)}
    {types : List String} (typed : columns.length = types.length) :
    (columnEntries dialect true columns types).flatMap TableEntry.primaryKeys =
      (primaryColumns dialect columns).map fun name => [name] := by
  rw [primaryColumns_eq]
  induction columns generalizing types with
  | nil => rfl
  | cons column rest inductionHypothesis =>
    obtain ⟨name, definition⟩ := column
    cases types with
    | nil => cases typed
    | cons type others =>
      have later := inductionHypothesis (Nat.succ.inj typed)
      unfold columnEntries at later ⊢
      rw [List.zipWith_cons_cons, List.flatMap_cons, later, List.filter_cons]
      dsimp only
      rw [TableEntry.primaryKeys, primaryKeys_options, Bool.and_true, Bool.or_comm]
      change (if definition.isPrimary dialect then [[name]] else []) ++ _ = _
      cases definition.isPrimary dialect <;> rfl

/-- Columns of a primary key of several columns declare none by themselves: where values are row
identifiers such a column is refused. -/
theorem primaryKeys_columnEntries_composite {columns : List (String × ColumnDefinition)}
    {types : List String} (typed : ColumnTypes dialect false columns types) :
    (columnEntries dialect false columns types).flatMap TableEntry.primaryKeys = [] := by
  induction typed with
  | nil => rfl
  | @cons column type _ _ head _ inductionHypothesis =>
    obtain ⟨name, definition⟩ := column
    have manual : definition.generatedBy dialect .rowid = false := by
      cases generated : definition.generatedBy dialect .rowid with
      | false => rfl
      | true =>
        dsimp only at head
        unfold ColumnDefinition.generatedBy at generated
        rw [columnHead, if_pos generated, if_neg Bool.false_ne_true] at head
        exact absurd head not_yields_raise
    unfold columnEntries at inductionHypothesis ⊢
    rw [List.zipWith_cons_cons, List.flatMap_cons, inductionHypothesis]
    dsimp only
    rw [TableEntry.primaryKeys, primaryKeys_options, manual, Bool.and_false]
    rfl

/-! ## What a table declares -/

/-- The columns of the primary keys among some keys. -/
def listedPrimaryKeys (keys : List KeyDefinition) : List (List String) :=
  (keys.filter fun key => key.type = .primary).map KeyDefinition.columns

theorem primaryKeys_keys (keys : List KeyDefinition) :
    keys.flatMap KeyDefinition.primaryKeys = listedPrimaryKeys keys :=
  flatMap_ite (fun key : KeyDefinition => key.type = .primary) KeyDefinition.columns keys

theorem primaryKeys_foreignEntries (column : String × ColumnDefinition) :
    (foreignEntries dialect column).flatMap TableEntry.primaryKeys = [] := by
  unfold foreignEntries
  dsimp only
  split
  · rfl
  · simp [List.flatMap_map, TableEntry.primaryKeys]

theorem primaryKeys_commentStatements (column : String × ColumnDefinition) :
    (commentStatements dialect column).flatMap TableStatement.primaryKeys = [] := by
  unfold commentStatements
  dsimp only
  split
  · simp [List.flatMap_map, TableStatement.primaryKeys]
  · rfl

section Outline

variable {creation : CreateTable} {columns : List (String × ColumnDefinition)}
  {types : List String}

/-- The columns and their own primary key declare what the columns make up, once. -/
theorem primaryKeys_columns
    (typed : ColumnTypes dialect (!composite dialect columns) columns types) :
    (columnEntries dialect (!composite dialect columns) columns types ++
        primaryEntries dialect columns).flatMap TableEntry.primaryKeys =
      if primaryColumns dialect columns = [] then [] else [primaryColumns dialect columns] := by
  rw [List.flatMap_append]
  unfold primaryEntries
  cases several : composite dialect columns with
  | true =>
    rw [several] at typed
    have filled : primaryColumns dialect columns ≠ [] := by
      intro nothing
      rw [composite, nothing] at several
      cases several
    rw [if_neg filled, Bool.not_true, primaryKeys_columnEntries_composite typed]
    rfl
  | false =>
    have short : (primaryColumns dialect columns).length ≤ 1 :=
      Nat.le_of_not_lt (of_decide_eq_false several)
    rw [Bool.not_false, primaryKeys_columnEntries typed.length_eq]
    rcases primary : primaryColumns dialect columns with _ | ⟨name, _ | ⟨other, rest⟩⟩
    · rfl
    · rfl
    · rw [primary] at short
      simp at short

/-- The keys of the list that are declared, in the table or by statements, declare their own primary
keys. When columns make up a primary key there is none among them. -/
theorem primaryKeys_keysOf (fate : KeyFate) (apart : fate ≠ .repeated) :
    (creation.keysOf dialect columns fate).flatMap KeyDefinition.primaryKeys =
      if primaryColumns dialect columns = [] then
        listedPrimaryKeys (creation.keysOf dialect columns fate)
      else [] := by
  rw [primaryKeys_keys]
  split
  case isTrue => rfl
  case isFalse filled =>
    rw [listedPrimaryKeys, List.map_eq_nil_iff, List.filter_eq_nil_iff]
    intro key member primary
    have known := of_decide_eq_true (List.mem_filter.mp member).2
    have again : key.type = .primary && !(primaryColumns dialect columns).isEmpty := by
      simp [of_decide_eq_true primary, filled]
    rw [KeyDefinition.fate, if_pos again] at known
    exact apart known.symm

/-- The primary keys that the outline of a table declares: what the columns make up, or else the
primary keys of the list that are not dropped. -/
theorem primaryKeys_outline
    (typed : ColumnTypes dialect (!composite dialect columns) columns types) :
    (creation.outline dialect columns types).flatMap TableStatement.primaryKeys =
      if primaryColumns dialect columns = [] then
        listedPrimaryKeys (creation.keysOf dialect columns .inline) ++
          listedPrimaryKeys (creation.keysOf dialect columns .deferred)
      else [primaryColumns dialect columns] := by
  have references : (columns.flatMap (foreignEntries dialect)).flatMap TableEntry.primaryKeys =
      [] := by
    simp [List.flatMap_assoc, primaryKeys_foreignEntries]
  have comments : (columns.flatMap (commentStatements dialect)).flatMap
      TableStatement.primaryKeys = [] := by
    simp [List.flatMap_assoc, primaryKeys_commentStatements]
  have inline : ((creation.keysOf dialect columns .inline).map TableEntry.key).flatMap
      TableEntry.primaryKeys = _ :=
    (List.flatMap_map _ _ _).trans (primaryKeys_keysOf .inline nofun)
  have deferred : ((creation.keysOf dialect columns .deferred).map TableStatement.addKey).flatMap
      TableStatement.primaryKeys = _ :=
    (List.flatMap_map _ _ _).trans (primaryKeys_keysOf .deferred nofun)
  unfold CreateTable.outline
  rw [List.cons_append, List.flatMap_cons, List.flatMap_append, deferred, comments,
    TableStatement.primaryKeys, List.flatMap_append, List.flatMap_append, primaryKeys_columns typed,
    references, inline]
  split
  · simp
  · rfl

end Outline

/-! ## Built-in dialects -/

/-- The columns that make up the primary key of a table in a built-in dialect: those that are
marked, and where generated values are row identifiers also those with generated values. -/
def Family.primaryColumns (family : Family) (columns : List (String × ColumnDefinition)) :
    List String :=
  (columns.filter fun (_, definition) => definition.primaryKey ||
    (definition.autoIncrement && family = .sqlite)).map Prod.fst

theorem Family.primaryColumns_eq (family : Family) (columns : List (String × ColumnDefinition)) :
    family.primaryColumns columns = PortableSql.primaryColumns family.dialect columns := by
  cases family <;> rfl

/-- Without a primary key of the columns, the built-in dialects declare the primary keys of the list
inside the table. -/
theorem listedPrimaryKeys_family {family : Family} {creation : CreateTable}
    {columns : List (String × ColumnDefinition)}
    (free : primaryColumns family.dialect columns = []) :
    listedPrimaryKeys (creation.keysOf family.dialect columns .inline) ++
        listedPrimaryKeys (creation.keysOf family.dialect columns .deferred) =
      listedPrimaryKeys creation.keys := by
  have declared : ∀ key : KeyDefinition, key.type = .primary →
      key.fate family.dialect (primaryColumns family.dialect columns) = .inline := by
    intro key primary
    have known : family.dialect.table.inlineKeys.contains KeyType.primary = true := by
      cases family <;> rfl
    rw [KeyDefinition.fate, free, primary, known]
    rfl
  have inline : listedPrimaryKeys (creation.keysOf family.dialect columns .inline) =
      listedPrimaryKeys creation.keys := by
    unfold listedPrimaryKeys CreateTable.keysOf
    rw [List.filter_filter]
    refine congrArg (List.map _) (List.filter_congr fun key _ => ?_)
    by_cases primary : key.type = .primary
    · simp [primary, declared key primary]
    · simp [primary]
  have deferred : listedPrimaryKeys (creation.keysOf family.dialect columns .deferred) = [] := by
    unfold listedPrimaryKeys CreateTable.keysOf
    rw [List.map_eq_nil_iff, List.filter_eq_nil_iff]
    intro key member primary
    have fate := of_decide_eq_true (List.mem_filter.mp member).2
    rw [declared key (of_decide_eq_true primary)] at fate
    cases fate
  rw [inline, deferred, List.append_nil]

/-- A table that is created in a built-in dialect declares one primary key when columns make one up,
over exactly these columns. Otherwise it declares every primary key of its list. So it declares at
most one primary key exactly when columns make one up, or its list has no two of them.

Proof: columns that make up a primary key declare it by an option, or by an entry when there are
several; any primary key of the list repeats it and is left out. Without such columns each primary
key of the list is declared inside the table, and nothing compares one of them with another. -/
theorem createTable_primaryKeys (family : Family) (context : Context) {creation : CreateTable}
    {columns : List (String × ColumnDefinition)} {plan : Plan}
    (given : creation.columns = some columns) (plain : creation.select = none)
    (compiled : (compilePlan family.dialect (.createTable creation) context).result = .ok plan) :
    ∃ types, ColumnTypes family.dialect (!composite family.dialect columns) columns types ∧
      plan.statements = (creation.outline family.dialect columns types).map
        (TableStatement.statement family.dialect creation) ∧
      let declared := (creation.outline family.dialect columns types).flatMap
        TableStatement.primaryKeys
      declared = (if family.primaryColumns columns = [] then listedPrimaryKeys creation.keys
        else [family.primaryColumns columns]) ∧
      (declared.length ≤ 1 ↔
        family.primaryColumns columns ≠ [] ∨ (listedPrimaryKeys creation.keys).length ≤ 1) := by
  obtain ⟨types, typed, statements, -⟩ := compilePlan_outlined given plain ⟨[], compiled⟩
  have declared : (creation.outline family.dialect columns types).flatMap
      TableStatement.primaryKeys = (if family.primaryColumns columns = [] then
        listedPrimaryKeys creation.keys else [family.primaryColumns columns]) := by
    rw [primaryKeys_outline typed, family.primaryColumns_eq]
    split
    case isTrue free => exact listedPrimaryKeys_family free
    case isFalse => rfl
  refine ⟨types, typed, statements, declared, ?_⟩
  rw [declared]
  split
  case isTrue free => simp [free]
  case isFalse filled => simp [filled]

/-- A table with two primary keys in its list. -/
def twiceKeyed : CreateTable where
  name := "t"
  columns := some [("a", { type := .integer }), ("b", { type := .integer })]
  keys := [{ type := .primary, columns := ["a"] }, { type := .primary, columns := ["b"] }]

/-- Both primary keys of the list are declared. -/
theorem twiceKeyed_primaryKeys : ∃ plan types,
    (compilePlan Family.mysql.dialect (.createTable twiceKeyed)).result = .ok plan ∧
    let outline := twiceKeyed.outline Family.mysql.dialect (twiceKeyed.columns.getD []) types
    plan.statements = outline.map (TableStatement.statement Family.mysql.dialect twiceKeyed) ∧
    outline.flatMap TableStatement.primaryKeys = [["a"], ["b"]] := by
  obtain ⟨plan, compiled⟩ := Option.isSome_iff_exists.mp (show
    (compilePlan Family.mysql.dialect (.createTable twiceKeyed)).result.toOption.isSome = true
    by decide +kernel)
  have ended := Reporting.toOption_eq_some.mp compiled
  obtain ⟨types, -, statements, declared, -⟩ := createTable_primaryKeys .mysql {} rfl rfl ended
  exact ⟨plan, types, ended, statements, declared⟩

end PortableSql
