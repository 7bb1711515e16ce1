import PortableSql.Proofs.Legible
import PortableSql.Proofs.Quotation

/-!
# The outline of a new table

The statements for a new table are described here as data: what the table declares, entry by entry,
and which statements follow. Each kind of entry has one text. A table that compiles does so to the
texts of its outline, so what it declares can be read off the outline instead of the texts, where a
name or a comment may hold any words.

Each key of the table has one fate. It is declared inside the table, added by a statement of its
own, left out because the columns declare it already, or dropped with a warning.
-/

namespace PortableSql

open Reporting

variable {dialect : Dialect}

/-! ## Names -/

namespace Dialect

/-- A name between quotes, part by part. -/
def quotedName (dialect : Dialect) (name : String) : String :=
  String.ofList (['.'].intercalate ((nameParts name).map (enclosed dialect.table.identifierQuote)))

/-- Names between quotes, one after the other. -/
def quotedNames (dialect : Dialect) (names : List String) : String :=
  Text.listed (names.map dialect.quotedName)

theorem quotedName_of_yields {name what quoted : String}
    (yields : (dialect.quoteIdentifier name what).Yields quoted) :
    quoted = dialect.quotedName name := by
  have ended := quoteName_ok ((dialect.gives_quoteIdentifier name what).yields yields)
  rw [quotedName, ← ended, String.ofList_toList]

theorem quotedNames_of_yields {names quoted : List String} {what : String}
    (yields : (dialect.quoteIdentifiers names what).Yields quoted) :
    quoted = names.map dialect.quotedName := by
  have each := yields_each yields
  clear yields
  induction each with
  | nil => rfl
  | cons head _ inductionHypothesis =>
    rw [List.map_cons, quotedName_of_yields head, inductionHypothesis]

end Dialect

theorem keyColumns_of_yields {columns : List String} {text : String}
    (yields : (keyColumns dialect columns).Yields text) : text = dialect.quotedNames columns := by
  obtain ⟨quoted, named, yields⟩ := yields_bind yields
  rw [yields_pure.mp yields, Dialect.quotedNames_of_yields named]
  rfl

/-! ## Keys -/

/-- The beginning of a constraint with a name. -/
def Dialect.constraintText (dialect : Dialect) : Option String → String
  | none => ""
  | some name => if name.isEmpty then "" else "CONSTRAINT " ++ dialect.quotedName name ++ " "

/-- The target of a foreign key and its actions. -/
def KeyDefinition.targetText (dialect : Dialect) (key : KeyDefinition) : String :=
  match key.references with
  | none => ""
  | some target => "REFERENCES " ++ dialect.quotedName target.table ++ " (" ++
      dialect.quotedNames target.columns ++ ")" ++ keyAction " ON DELETE " key.onDelete ++
      keyAction " ON UPDATE " key.onUpdate

/-- A key as a table declares it. -/
def KeyDefinition.clause (dialect : Dialect) (table : String) (key : KeyDefinition) : String :=
  let altering := dialect.table.indexStatementStyle = .alterTable
  let columns := dialect.quotedNames key.columns
  let name := dialect.quotedName (indexName dialect table key)
  match key.type with
  | .primary =>
    dialect.constraintText (if altering then none else key.name) ++
      "PRIMARY KEY (" ++ columns ++ ")"
  | .foreign =>
    dialect.constraintText key.name ++ "FOREIGN KEY (" ++ columns ++ ") " ++ key.targetText dialect
  | .unique =>
    if altering then "UNIQUE KEY " ++ name ++ " (" ++ columns ++ ")"
    else "CONSTRAINT " ++ name ++ " UNIQUE (" ++ columns ++ ")"
  | .fulltext => "FULLTEXT KEY " ++ name ++ " (" ++ columns ++ ")"
  | .key => "KEY " ++ name ++ " (" ++ columns ++ ")"

/-- The statement that adds a key to a table. -/
def KeyDefinition.addition (dialect : Dialect) (table : String) (key : KeyDefinition) : String :=
  if dialect.table.indexStatementStyle = .alterTable || key.type = .primary ||
      key.type = .foreign then
    "ALTER TABLE " ++ dialect.quotedName table ++ " ADD " ++ key.clause dialect table
  else
    "CREATE " ++ (if key.type = .unique then "UNIQUE " else "") ++ "INDEX " ++
      dialect.quotedName (indexName dialect table key) ++ " ON " ++ dialect.quotedName table ++
      " (" ++ dialect.quotedNames key.columns ++ ")"

theorem constraintName_of_yields {name? : Option String} {text : String}
    (yields : (constraintName dialect name?).Yields text) :
    text = dialect.constraintText name? := by
  unfold constraintName at yields
  unfold Dialect.constraintText
  cases name? with
  | none => exact yields_pure.mp yields
  | some name =>
    dsimp only at yields ⊢
    split at yields
    case isTrue blank =>
      rw [if_pos blank]
      exact yields_pure.mp yields
    case isFalse filled =>
      obtain ⟨quoted, named, yields⟩ := yields_bind yields
      rw [if_neg filled, yields_pure.mp yields, Dialect.quotedName_of_yields named]

theorem keyTarget_of_yields {key : KeyDefinition} {text : String}
    (yields : (keyTarget dialect key).Yields text) : text = key.targetText dialect := by
  unfold keyTarget at yields
  unfold KeyDefinition.targetText
  cases target? : key.references with
  | none =>
    rw [target?] at yields
    exact yields_pure.mp yields
  | some target =>
    rw [target?] at yields
    obtain ⟨table, named, yields⟩ := yields_bind yields
    obtain ⟨columns, listed, yields⟩ := yields_bind yields
    rw [yields_pure.mp yields, Dialect.quotedName_of_yields named, keyColumns_of_yields listed]

theorem inlineKey_of_yields {table : String} {key : KeyDefinition} {text : String}
    (yields : (inlineKey dialect table key).Yields text) : text = key.clause dialect table := by
  obtain ⟨columns, listed, yields⟩ := yields_bind yields
  obtain rfl := keyColumns_of_yields listed
  unfold KeyDefinition.clause
  cases type : key.type with
  | primary =>
    rw [type] at yields
    obtain ⟨constraint, named, yields⟩ := yields_bind yields
    rw [yields_pure.mp yields, constraintName_of_yields named]
  | foreign =>
    rw [type] at yields
    obtain ⟨constraint, named, yields⟩ := yields_bind yields
    obtain ⟨target, targeted, yields⟩ := yields_bind yields
    rw [yields_pure.mp yields, constraintName_of_yields named, keyTarget_of_yields targeted]
  | key | unique | fulltext =>
    rw [type] at yields
    obtain ⟨name, named, yields⟩ := yields_bind yields
    rw [yields_pure.mp yields, Dialect.quotedName_of_yields named]

/-- A key that the dialect adds by statements is added by one. -/
theorem addKey_of_yields {table : String} {key : KeyDefinition} {statement? : Option Statement}
    (separate : dialect.table.separateKeys.contains key.type = true)
    (yields : (addKey dialect table key).Yields statement?) :
    statement? = some { sql := key.addition dialect table } := by
  unfold addKey at yields
  rw [separate] at yields
  obtain ⟨quotedTable, tableNamed, yields⟩ := yields_bind yields
  obtain rfl := Dialect.quotedName_of_yields tableNamed
  unfold KeyDefinition.addition
  split at yields
  case isTrue altered =>
    obtain ⟨clause, written, yields⟩ := yields_bind yields
    rw [if_pos altered, yields_pure.mp yields, inlineKey_of_yields written]
  case isFalse created =>
    obtain ⟨name, named, yields⟩ := yields_bind yields
    obtain ⟨columns, listed, yields⟩ := yields_bind yields
    rw [if_neg created, yields_pure.mp yields, Dialect.quotedName_of_yields named,
      keyColumns_of_yields listed]

/-! ## Columns -/

/-- An option of a column. -/
inductive ColumnOption where
  /-- The server generates the values. -/
  | identity
  | notNull
  | default (value : Value)
  | autoIncrement
  /-- The column is the primary key; its values may be row identifiers that the server
  generates. -/
  | primaryKey (generated : Bool)
  | unique
  | references (target : ColumnReference)
  | comment (text : String)

/-- The target of a reference. -/
def ColumnReference.sql (dialect : Dialect) (reference : ColumnReference) : String :=
  dialect.quotedName reference.table ++ " (" ++ dialect.quotedName reference.column ++ ")"

/-- An option as it is written. -/
def ColumnOption.sql (dialect : Dialect) : ColumnOption → String
  | identity => "IDENTITY(1,1)"
  | notNull => "NOT NULL"
  | default value => "DEFAULT " ++ dialect.quoteLiteral value
  | autoIncrement => "AUTO_INCREMENT"
  | primaryKey true => "PRIMARY KEY AUTOINCREMENT"
  | primaryKey false => "PRIMARY KEY"
  | unique => "UNIQUE"
  | references target => "REFERENCES " ++ target.sql dialect
  | comment text => "COMMENT " ++ dialect.quoteLiteral (.text text)

namespace ColumnDefinition

/-- An option when a condition holds. -/
def optionWhen (condition : Bool) (option : ColumnOption) : List ColumnOption :=
  if condition then [option] else []

/-- The values of the column are generated in this style. -/
def generatedBy (definition : ColumnDefinition) (dialect : Dialect) (style : AutoIncrementStyle) :
    Bool :=
  definition.autoIncrement && dialect.table.autoIncrementStyle = style

/-- The options of a column; `inlineKey` says that it may be the primary key by itself. -/
def options (definition : ColumnDefinition) (dialect : Dialect) (inlineKey : Bool) :
    List ColumnOption :=
  optionWhen (definition.generatedBy dialect .identity) .identity ++
  optionWhen definition.notNull .notNull ++
  definition.default?.toList.map .default ++
  optionWhen (definition.generatedBy dialect .keyword) .autoIncrement ++
  (if definition.generatedBy dialect .rowid then [.primaryKey true]
   else optionWhen (definition.primaryKey && inlineKey) (.primaryKey false)) ++
  optionWhen definition.uniqueKey .unique ++
  (if dialect.table.inlineReferences then definition.references.toList.map .references else []) ++
  (if dialect.table.commentStyle = .inline then definition.comment.toList.map .comment else [])

end ColumnDefinition

/-! ## Tables -/

/-- The name that a new table gets. -/
def CreateTable.finalName (dialect : Dialect) (creation : CreateTable) : String :=
  tableName dialect creation.temporary creation.name

/-- What a new table declares. -/
inductive TableEntry where
  | column (name type : String) (options : List ColumnOption)
  | primaryKey (columns : List String)
  | foreignKey (column : String) (target : ColumnReference)
  | key (definition : KeyDefinition)

/-- An entry as it is written in the table of this name. -/
def TableEntry.sql (dialect : Dialect) (table : String) : TableEntry → String
  | column name type options =>
    dialect.quotedName name ++ " " ++
      " ".intercalate (type :: options.map (ColumnOption.sql dialect))
  | primaryKey columns => "PRIMARY KEY (" ++ dialect.quotedNames columns ++ ")"
  | foreignKey name target =>
    "FOREIGN KEY (" ++ dialect.quotedName name ++ ") REFERENCES " ++ target.sql dialect
  | key definition => definition.clause dialect table

/-- What the plan for a new table does, statement by statement. -/
inductive TableStatement where
  | create (entries : List TableEntry)
  | addKey (key : KeyDefinition)
  | comment (column text : String)

/-- The statement that keeps a comment of a column. -/
def commentSql (dialect : Dialect) (table column text : String) : String :=
  "COMMENT ON COLUMN " ++ dialect.quotedName table ++ "." ++ dialect.quotedName column ++ " IS " ++
    dialect.quoteLiteral (.text text)

/-- A statement as it is written for a new table. -/
def TableStatement.sql (dialect : Dialect) (creation : CreateTable) : TableStatement → String
  | create entries =>
    createTableWords dialect creation.temporary ++ " " ++
      dialect.quotedName (creation.finalName dialect) ++ " (" ++
      Text.listed (entries.map (TableEntry.sql dialect (creation.finalName dialect))) ++ ")" ++
      optionText dialect creation
  | addKey key => key.addition dialect (creation.finalName dialect)
  | comment column text => commentSql dialect (creation.finalName dialect) column text

/-- A statement of the plan for a new table. -/
def TableStatement.statement (dialect : Dialect) (creation : CreateTable)
    (statement : TableStatement) : Statement where
  sql := statement.sql dialect creation

/-- What becomes of a key of a new table. -/
inductive KeyFate where
  /-- It is declared inside the table. -/
  | inline
  /-- It is added by a statement of its own. -/
  | deferred
  /-- The columns declare this primary key already. -/
  | repeated
  /-- The dialect has no such keys. -/
  | dropped
deriving DecidableEq

/-- The fate of a key of a table whose columns make up this primary key. -/
def KeyDefinition.fate (dialect : Dialect) (primary : List String) (key : KeyDefinition) :
    KeyFate :=
  if key.type = .primary && !primary.isEmpty then .repeated
  else if dialect.table.inlineKeys.contains key.type then .inline
  else if dialect.table.separateKeys.contains key.type then .deferred
  else .dropped

/-- The keys of a new table that have a fate. -/
def CreateTable.keysOf (dialect : Dialect) (creation : CreateTable)
    (columns : List (String × ColumnDefinition)) (fate : KeyFate) : List KeyDefinition :=
  creation.keys.filter fun key => key.fate dialect (primaryColumns dialect columns) = fate

/-- More than one column belongs to the primary key that the columns make up. -/
def composite (dialect : Dialect) (columns : List (String × ColumnDefinition)) : Bool :=
  1 < (primaryColumns dialect columns).length

/-- These are the types that columns begin with, one for each of them. -/
def ColumnTypes (dialect : Dialect) (inlineKey : Bool) :
    List (String × ColumnDefinition) → List String → Prop :=
  List.Forall₂ fun (name, definition) type =>
    (columnHead dialect name definition inlineKey).Yields type

/-- The entries of columns of these types. -/
def columnEntries (dialect : Dialect) (inlineKey : Bool)
    (columns : List (String × ColumnDefinition)) (types : List String) : List TableEntry :=
  List.zipWith (fun (name, definition) type =>
    .column name type (definition.options dialect inlineKey)) columns types

/-- The entry of the primary key that several columns make up. -/
def primaryEntries (dialect : Dialect) (columns : List (String × ColumnDefinition)) :
    List TableEntry :=
  if composite dialect columns then [.primaryKey (primaryColumns dialect columns)] else []

/-- The entry for the reference of a column, where the dialect does not allow it as an option. -/
def foreignEntries (dialect : Dialect) : String × ColumnDefinition → List TableEntry
  | (name, definition) =>
    if dialect.table.inlineReferences then []
    else definition.references.toList.map (.foreignKey name)

/-- The statement for the comment of a column, where the dialect has such statements. -/
def commentStatements (dialect : Dialect) : String × ColumnDefinition → List TableStatement
  | (name, definition) =>
    if dialect.table.commentStyle = .statement then definition.comment.toList.map (.comment name)
    else []

/-- The outline of a new table with columns of these types. -/
def CreateTable.outline (dialect : Dialect) (creation : CreateTable)
    (columns : List (String × ColumnDefinition)) (types : List String) : List TableStatement :=
  .create (columnEntries dialect (!composite dialect columns) columns types ++
    primaryEntries dialect columns ++ columns.flatMap (foreignEntries dialect) ++
    (creation.keysOf dialect columns .inline).map .key) ::
  (creation.keysOf dialect columns .deferred).map .addKey ++
  columns.flatMap (commentStatements dialect)

/-! ## Compiling to the outline -/

theorem ColumnDefinition.map_optionWhen (condition : Bool) (option : ColumnOption) :
    (optionWhen condition option).map (ColumnOption.sql dialect) =
      textWhen condition (option.sql dialect) := by
  cases condition <;> rfl

/-- The options of a column are written in the order of its outline. -/
theorem ColumnDefinition.map_options (definition : ColumnDefinition) (inlineKey : Bool) :
    (definition.options dialect inlineKey).map (ColumnOption.sql dialect) =
      columnOptions dialect definition inlineKey ++
      (if dialect.table.inlineReferences then
        definition.references.toList.map fun target => "REFERENCES " ++ target.sql dialect
      else []) ++
      (if dialect.table.commentStyle = .inline then
        definition.comment.toList.map fun text => "COMMENT " ++ dialect.quoteLiteral (.text text)
      else []) := by
  have defaults : (definition.default?.toList.map ColumnOption.default).map
      (ColumnOption.sql dialect) =
      textWhen definition.hasDefault ("DEFAULT " ++ defaultLiteral dialect definition) := by
    unfold ColumnDefinition.hasDefault defaultLiteral
    cases definition.default? <;> rfl
  have keys : (if definition.generatedBy dialect .rowid then [ColumnOption.primaryKey true]
      else optionWhen (definition.primaryKey && inlineKey) (.primaryKey false)).map
        (ColumnOption.sql dialect) =
      if definition.generatedBy dialect .rowid then ["PRIMARY KEY AUTOINCREMENT"]
      else textWhen (definition.primaryKey && inlineKey) "PRIMARY KEY" := by
    split
    · rfl
    · exact map_optionWhen _ _
  have references : (if dialect.table.inlineReferences then
      definition.references.toList.map ColumnOption.references else []).map
        (ColumnOption.sql dialect) =
      if dialect.table.inlineReferences then
        definition.references.toList.map fun target => "REFERENCES " ++ target.sql dialect
      else [] := by
    split
    · exact List.map_map
    · rfl
  have comments : (if dialect.table.commentStyle = .inline then
      definition.comment.toList.map ColumnOption.comment else []).map (ColumnOption.sql dialect) =
      if dialect.table.commentStyle = .inline then
        definition.comment.toList.map fun text => "COMMENT " ++ dialect.quoteLiteral (.text text)
      else [] := by
    split
    · exact List.map_map
    · rfl
  unfold options
  simp only [List.map_append, map_optionWhen, defaults, keys, references, comments]
  rfl

theorem referenceTarget_of_yields {reference : ColumnReference} {text : String}
    (yields : (referenceTarget dialect reference).Yields text) : text = reference.sql dialect := by
  obtain ⟨table, tableNamed, yields⟩ := yields_bind yields
  obtain ⟨column, columnNamed, yields⟩ := yields_bind yields
  rw [yields_pure.mp yields, Dialect.quotedName_of_yields tableNamed,
    Dialect.quotedName_of_yields columnNamed]
  rfl

/-- A reference is an option or an entry of the table. -/
theorem columnReference_of_yields {name : String} {reference? : Option ColumnReference}
    {written : List String × List String}
    (yields : (columnReference dialect (dialect.quotedName name) reference?).Yields written) :
    written =
      (if dialect.table.inlineReferences then
        reference?.toList.map fun target => "REFERENCES " ++ target.sql dialect
      else [],
      if dialect.table.inlineReferences then []
      else reference?.toList.map fun target =>
        (TableEntry.foreignKey name target).sql dialect "") := by
  cases reference? with
  | none =>
    rw [yields_pure.mp yields]
    cases dialect.table.inlineReferences <;> rfl
  | some reference =>
    obtain ⟨target, targeted, yields⟩ := yields_bind yields
    rw [referenceTarget_of_yields targeted] at yields
    split at yields
    case isTrue inline =>
      rw [if_pos inline, if_pos inline]
      exact yields_pure.mp yields
    case isFalse apart =>
      rw [if_neg apart, if_neg apart]
      exact yields_pure.mp yields

/-- A comment is an option or a statement. -/
theorem columnComment_of_yields {table name : String} {comment? : Option String}
    {written : List String × List Statement}
    (yields : (columnComment dialect table name (dialect.quotedName name) comment?).Yields
      written) :
    written =
      (if dialect.table.commentStyle = .inline then
        comment?.toList.map fun text => "COMMENT " ++ dialect.quoteLiteral (.text text)
      else [],
      if dialect.table.commentStyle = .statement then
        comment?.toList.map fun text => { sql := commentSql dialect table name text }
      else []) := by
  cases comment? with
  | none =>
    rw [yields_pure.mp yields]
    cases dialect.table.commentStyle <;> rfl
  | some comment =>
    unfold columnComment at yields
    cases style : dialect.table.commentStyle with
    | inline =>
      rw [style] at yields
      exact yields_pure.mp yields
    | statement =>
      rw [style] at yields
      obtain ⟨quotedTable, tableNamed, yields⟩ := yields_bind yields
      rw [yields_pure.mp yields, Dialect.quotedName_of_yields tableNamed]
      rfl
    | none =>
      rw [style] at yields
      obtain ⟨_, -, yields⟩ := yields_bind yields
      exact yields_pure.mp yields

section Columns

variable {creation : CreateTable}

/-- A column is compiled to its part of the outline. -/
theorem compileColumn_of_yields {name : String} {definition : ColumnDefinition} {inlineKey : Bool}
    {fragment : ColumnFragment}
    (yields : (compileColumn dialect (creation.finalName dialect) name definition inlineKey).Yields
      fragment) :
    ∃ type, (columnHead dialect name definition inlineKey).Yields type ∧
      fragment.sql = TableEntry.sql dialect (creation.finalName dialect)
        (.column name type (definition.options dialect inlineKey)) ∧
      fragment.constraints = (foreignEntries dialect (name, definition)).map
        (TableEntry.sql dialect (creation.finalName dialect)) ∧
      fragment.followUp = (commentStatements dialect (name, definition)).map
        (TableStatement.statement dialect creation) := by
  obtain ⟨quoted, named, yields⟩ := yields_bind yields
  obtain rfl := Dialect.quotedName_of_yields named
  obtain ⟨type, headed, yields⟩ := yields_bind yields
  obtain ⟨⟨references, constraints⟩, referred, yields⟩ := yields_bind yields
  obtain ⟨⟨comments, followUp⟩, commented, yields⟩ := yields_bind yields
  obtain ⟨rfl, rfl⟩ := Prod.mk.inj (columnReference_of_yields referred)
  obtain ⟨rfl, rfl⟩ := Prod.mk.inj (columnComment_of_yields commented)
  rw [yields_pure.mp yields]
  refine ⟨type, headed, ?_, ?_, ?_⟩
  · change _ = dialect.quotedName name ++ " " ++
      " ".intercalate (type :: (definition.options dialect inlineKey).map (ColumnOption.sql dialect))
    rw [ColumnDefinition.map_options]
  · unfold foreignEntries
    dsimp only
    split
    · rfl
    · rw [List.map_map]
      rfl
  · unfold commentStatements
    dsimp only
    split
    · rw [List.map_map]
      rfl
    · rfl

/-- Columns are compiled one after the other to their parts of the outline. -/
theorem compileColumns_of_yields {inlineKey : Bool} {columns : List (String × ColumnDefinition)}
    {fragments : List ColumnFragment}
    (yields : (columns.mapM fun (name, definition) =>
      compileColumn dialect (creation.finalName dialect) name definition inlineKey).Yields
        fragments) :
    ∃ types, ColumnTypes dialect inlineKey columns types ∧
      fragments.map ColumnFragment.sql = (columnEntries dialect inlineKey columns types).map
        (TableEntry.sql dialect (creation.finalName dialect)) ∧
      fragments.flatMap ColumnFragment.constraints = (columns.flatMap (foreignEntries dialect)).map
        (TableEntry.sql dialect (creation.finalName dialect)) ∧
      fragments.flatMap ColumnFragment.followUp = (columns.flatMap (commentStatements dialect)).map
        (TableStatement.statement dialect creation) := by
  have each := yields_each yields
  clear yields
  induction each with
  | nil => exact ⟨[], .nil, rfl, rfl, rfl⟩
  | cons head _ inductionHypothesis =>
    obtain ⟨type, headed, sql, constraints, followUp⟩ := compileColumn_of_yields head
    obtain ⟨types, others, sqls, laterConstraints, laterFollowUp⟩ := inductionHypothesis
    refine ⟨type :: types, .cons headed others, ?_, ?_, ?_⟩
    · rw [List.map_cons, sql, sqls]
      rfl
    · rw [List.flatMap_cons, List.flatMap_cons, List.map_append, constraints, laterConstraints]
    · rw [List.flatMap_cons, List.flatMap_cons, List.map_append, followUp, laterFollowUp]

end Columns

/-- A filtered list is made of the items that pass. -/
theorem flatMap_ite {α β : Type} (passes : α → Prop) [DecidablePred passes] (change : α → β)
    (items : List α) :
    (items.flatMap fun item => if passes item then [change item] else []) =
      (items.filter fun item => passes item).map change := by
  induction items with
  | nil => rfl
  | cons first rest inductionHypothesis =>
    rw [List.flatMap_cons, inductionHypothesis, List.filter_cons]
    by_cases passing : passes first <;> simp [passing]

section Keys

variable {creation : CreateTable} {primary : List String}

theorem ordered_perm (names : List String) : (ordered names).Perm names :=
  List.mergeSort_perm names _

/-- A key as it is placed by its fate. -/
def KeyDefinition.placed (dialect : Dialect) (table : String) (primary : List String)
    (key : KeyDefinition) : PlacedKeys where
  inline := if key.fate dialect primary = .inline then [key.clause dialect table] else []
  deferred := if key.fate dialect primary = .deferred then [{ sql := key.addition dialect table }]
    else []

/-- A key is placed by its fate, and what repeats the primary key of the columns has the columns of
it. -/
theorem placeTableKey_of_yields {table : String} {key : KeyDefinition} {placed : PlacedKeys}
    (yields : (placeTableKey dialect creation table primary key).Yields placed) :
    placed = key.placed dialect table primary ∧
      (key.fate dialect primary = .repeated → key.columns.Perm primary) := by
  unfold placeTableKey at yields
  unfold KeyDefinition.placed KeyDefinition.fate
  split at yields
  case isTrue again =>
    obtain ⟨_, repeats, yields⟩ := yields_bind yields
    rw [if_pos again, yields_pure.mp yields]
    refine ⟨rfl, fun _ => ?_⟩
    unfold repeatedPrimary at repeats
    split at repeats
    case isTrue same =>
      have reordered := ordered_perm key.columns
      rw [same] at reordered
      exact reordered.symm.trans (ordered_perm primary)
    case isFalse => exact absurd repeats not_yields_raise
  case isFalse fresh =>
    obtain ⟨place, placing, yields⟩ := yields_bind yields
    unfold placeKey at placing
    rw [if_neg fresh]
    split at placing
    case isTrue inline =>
      obtain ⟨clause, written, placing⟩ := yields_bind placing
      obtain rfl := yields_pure.mp placing
      rw [yields_pure.mp yields, inlineKey_of_yields written, if_pos inline]
      exact ⟨rfl, nofun⟩
    case isFalse apart =>
      rw [if_neg apart]
      split at placing
      case isTrue separate =>
        obtain rfl := yields_pure.mp placing
        obtain ⟨statement?, added, yields⟩ := yields_bind yields
        rw [yields_pure.mp yields, addKey_of_yields separate added, if_pos separate]
        exact ⟨rfl, nofun⟩
      case isFalse unknown =>
        obtain rfl := yields_pure.mp placing
        obtain ⟨_, -, yields⟩ := yields_bind yields
        rw [yields_pure.mp yields, if_neg unknown]
        exact ⟨rfl, nofun⟩

/-- The keys of a table are placed one after the other by their fates. -/
theorem placeTableKeys_of_yields {table : String} {keys : List KeyDefinition}
    {placed : List PlacedKeys}
    (yields : (keys.mapM (placeTableKey dialect creation table primary)).Yields placed) :
    placed = keys.map (KeyDefinition.placed dialect table primary) ∧
      ∀ key ∈ keys, key.fate dialect primary = .repeated → key.columns.Perm primary := by
  have each := yields_each yields
  clear yields
  induction each with
  | nil => exact ⟨rfl, fun _ member => nomatch member⟩
  | cons head _ inductionHypothesis =>
    obtain ⟨rfl, repeats⟩ := placeTableKey_of_yields head
    obtain ⟨rfl, others⟩ := inductionHypothesis
    exact ⟨rfl, List.forall_mem_cons.mpr ⟨repeats, others⟩⟩

/-- The clauses of the keys that are placed inside a table. -/
theorem inline_placed (table : String) (keys : List KeyDefinition) :
    (keys.map (KeyDefinition.placed dialect table primary)).flatMap PlacedKeys.inline =
      (keys.filter fun key => key.fate dialect primary = .inline).map
        (KeyDefinition.clause dialect table) := by
  rw [List.flatMap_map]
  exact flatMap_ite _ _ keys

/-- The statements of the keys that are added to a table behind its creation. -/
theorem deferred_placed (table : String) (keys : List KeyDefinition) :
    (keys.map (KeyDefinition.placed dialect table primary)).flatMap PlacedKeys.deferred =
      (keys.filter fun key => key.fate dialect primary = .deferred).map
        fun key => { sql := key.addition dialect table } := by
  rw [List.flatMap_map]
  exact flatMap_ite _ _ keys

end Keys

/-- The clause of the primary key of the columns is an entry of its own. -/
theorem primaryKeyClause_of_yields (table : String)
    {columns : List (String × ColumnDefinition)} {clause : List String}
    (yields : (primaryKeyClause dialect (primaryColumns dialect columns)).Yields clause) :
    clause = (primaryEntries dialect columns).map (TableEntry.sql dialect table) := by
  unfold primaryKeyClause at yields
  unfold primaryEntries composite
  split at yields
  case isTrue several =>
    obtain ⟨names, quoted, yields⟩ := yields_bind yields
    rw [yields_pure.mp yields, Dialect.quotedNames_of_yields quoted, if_pos (decide_eq_true several)]
    rfl
  case isFalse single =>
    rw [yields_pure.mp yields, if_neg (by rw [decide_eq_false single]; exact Bool.false_ne_true)]
    rfl

/-- A table is compiled to its outline. -/
theorem compileColumns_outlined {creation : CreateTable}
    {columns : List (String × ColumnDefinition)} {plan : Plan}
    (yields : (compileColumns dialect creation (creation.finalName dialect)
      (dialect.quotedName (creation.finalName dialect)) columns).Yields plan) :
    ∃ types, ColumnTypes dialect (!composite dialect columns) columns types ∧
      plan.statements = (creation.outline dialect columns types).map
        (TableStatement.statement dialect creation) ∧
      ∀ key ∈ creation.keysOf dialect columns .repeated,
        key.columns.Perm (primaryColumns dialect columns) := by
  unfold compileColumns at yields
  obtain ⟨fragments, compiled, yields⟩ := yields_bind yields
  obtain ⟨primaryKey, clause, yields⟩ := yields_bind yields
  obtain ⟨keys, placed, yields⟩ := yields_bind yields
  obtain ⟨options, described, yields⟩ := yields_bind yields
  obtain ⟨types, headed, sqls, constraints, followUp⟩ := compileColumns_of_yields compiled
  obtain rfl := primaryKeyClause_of_yields (creation.finalName dialect) clause
  obtain ⟨rfl, repeats⟩ := placeTableKeys_of_yields placed
  obtain rfl := Except.ok.inj ((tableOptions_gives dialect creation).yields described)
  refine ⟨types, headed, ?_, fun key member => ?_⟩
  · rw [yields_pure.mp yields, tablePlan, sqls, constraints, followUp, inline_placed,
      deferred_placed]
    simp only [CreateTable.outline, TableStatement.statement, TableStatement.sql, List.cons_append,
      List.map_cons, List.map_append, List.map_map]
    rfl
  · obtain ⟨within, fate⟩ := List.mem_filter.mp member
    exact repeats key within (of_decide_eq_true fate)

/-- A command whose plan is built without reading a table is compiled to the completed plan. -/
theorem compilePlan_of_done {command : Command} {context : Context} {build : Reporting Plan}
    (body : compileBody dialect { context with live := false } command =
      Compilation.done <$> build) :
    compilePlan dialect command context = (do
      let built ← build
      completePlan dialect { context with live := false } command.tag built) := by
  unfold compilePlan compile
  rw [body]
  simp only [map_eq_pure_bind, bind_assoc, pure_bind, bind_pure]

/-- A table that is not created from a select is compiled from its columns once its name is quoted,
and the plan is completed. -/
theorem compilePlan_fromColumns {creation : CreateTable} {context : Context}
    (plain : creation.select = none) :
    compilePlan dialect (.createTable creation) context = (do
      refuseArgs .createTable creation.args
      let table ← dialect.quoteIdentifier (creation.finalName dialect) "table"
      let built ← compileColumns dialect creation (creation.finalName dialect) table
        (creation.columns.getD [])
      completePlan dialect { context with live := false } .createTable built) := by
  have body : compileBody dialect { context with live := false } (.createTable creation) =
      Compilation.done <$> compileCreateTable dialect creation := rfl
  rw [compilePlan_of_done body]
  unfold compileCreateTable
  rw [plain]
  simp only [bind_assoc]
  rfl

/-- The same where the columns are given. -/
theorem compilePlan_createTable {creation : CreateTable} {context : Context}
    {columns : List (String × ColumnDefinition)}
    (given : creation.columns = some columns) (plain : creation.select = none) :
    compilePlan dialect (.createTable creation) context = (do
      refuseArgs .createTable creation.args
      let table ← dialect.quoteIdentifier (creation.finalName dialect) "table"
      let built ← compileColumns dialect creation (creation.finalName dialect) table columns
      completePlan dialect { context with live := false } .createTable built) := by
  rw [compilePlan_fromColumns plain, given, Option.getD_some]

/-- A command that does not create a table from a select is compiled to the outline of the table. -/
theorem compilePlan_outline {creation : CreateTable} {context : Context} {plan : Plan}
    (plain : creation.select = none)
    (yields : (compilePlan dialect (.createTable creation) context).Yields plan) :
    let columns := creation.columns.getD []
    ∃ types, ColumnTypes dialect (!composite dialect columns) columns types ∧
      plan.statements = (creation.outline dialect columns types).map
        (TableStatement.statement dialect creation) ∧
      ∀ key ∈ creation.keysOf dialect columns .repeated,
        key.columns.Perm (primaryColumns dialect columns) := by
  rw [compilePlan_fromColumns plain] at yields
  obtain ⟨_, -, yields⟩ := yields_bind yields
  obtain ⟨table, named, yields⟩ := yields_bind yields
  obtain rfl := Dialect.quotedName_of_yields named
  obtain ⟨built, columnsYield, yields⟩ := yields_bind yields
  obtain ⟨_, -, yields⟩ := yields_bind yields
  obtain ⟨types, headed, statements, repeats⟩ := compileColumns_outlined columnsYield
  exact ⟨types, headed, yields_pure.mp yields ▸ statements, repeats⟩

/-- The same where the columns are given. -/
theorem compilePlan_outlined {creation : CreateTable} {context : Context}
    {columns : List (String × ColumnDefinition)} {plan : Plan}
    (given : creation.columns = some columns) (plain : creation.select = none)
    (yields : (compilePlan dialect (.createTable creation) context).Yields plan) :
    ∃ types, ColumnTypes dialect (!composite dialect columns) columns types ∧
      plan.statements = (creation.outline dialect columns types).map
        (TableStatement.statement dialect creation) ∧
      ∀ key ∈ creation.keysOf dialect columns .repeated,
        key.columns.Perm (primaryColumns dialect columns) := by
  have outlined := compilePlan_outline plain yields
  rwa [given] at outlined

end PortableSql
