import PortableSql.Compile.Change
import PortableSql.Compile.Column
import PortableSql.Compile.Key

/-!
# Compiling tables

A new table is one statement with its columns and the keys that the dialect declares inside a
table, followed by the statements for the other keys and for what columns leave to be done.
Removing a column may need the current columns of the table: then compilation stops at a
statement to be run and goes on with its rows.
-/

namespace PortableSql

/-- The state of a compilation that may have to look at a table. -/
inductive Compilation where
  | done (plan : Plan)
  /-- The rows of a statement are needed to go on. -/
  | reading (statement : Statement) (resume : List Row → Reporting Plan)

/-- Compiles the creation of a database. -/
def compileCreateDatabase (dialect : Dialect) (creation : CreateDatabase) : Reporting Plan := do
  refuseArgs .createDatabase creation.args
  let characters := creation.characterSet.filter (!·.isEmpty)
  let collation := creation.collate.filter (!·.isEmpty)
  let option := fun (words : String) (value : Option String) => (value.map (words ++ ·)).getD ""
  let literal := fun (value : Option String) =>
    value.map fun text => dialect.quoteLiteral (.text text)
  match dialect.family with
  | .mysql => do
    let name ← dialect.quoteIdentifier creation.name "database"
    pure (planOf ["CREATE DATABASE " ++ name ++ option " DEFAULT CHARACTER SET " characters ++
      option " COLLATE " collation])
  | .postgresql => do
    let name ← dialect.quoteIdentifier creation.name "database"
    let template := if characters.isSome || collation.isSome then " TEMPLATE template0" else ""
    pure (planOf ["CREATE DATABASE " ++ name ++ template ++
      option " ENCODING " (literal characters) ++ option " LC_COLLATE " (literal collation)])
  | .mssql => do
    let name ← dialect.quoteIdentifier creation.name "database"
    pure (planOf ["CREATE DATABASE " ++ name ++ option " COLLATE " collation])
  | .sqlite => do
    if characters.isSome || collation.isSome then
      Reporting.log {
        level := .debug
        speaker := "sqlcommand.query_builder.sqlite.builder"
        message := "CREATE DATABASE character set ignored"
        fields := [("db.dialect", .text dialect.name), ("database", .text creation.name)] }
    let name ← dialect.quoteIdentifier creation.name "database"
    pure { statements := [{
      sql := "ATTACH DATABASE ? AS " ++ name
      parameters := [.infer (.text (creation.name ++ ".db"))] }] }

/-- Compiles the removal of a database. -/
def compileDropDatabase (dialect : Dialect) (removal : DropDatabase) : Reporting Plan := do
  refuseArgs .dropDatabase removal.args
  let name ← dialect.quoteIdentifier removal.name "database"
  match dialect.family with
  | .sqlite => pure (planOf ["DETACH DATABASE " ++ name])
  | _ => pure (planOf ["DROP DATABASE " ++ (if removal.ifExists then "IF EXISTS " else "") ++ name])

/-- The name of a table, marked where the dialect marks temporary tables by name. -/
def tableName (dialect : Dialect) (temporary : Bool) (name : String) : String :=
  if temporary && dialect.table.temporaryStyle = .numberSign &&
      !Text.begins "#" (Text.lastPart name) then "#" ++ name
  else name

/-- The words that begin the creation of a table. -/
def createTableWords (dialect : Dialect) (temporary : Bool) : String :=
  if temporary && dialect.table.temporaryStyle = .keyword then "CREATE TEMPORARY TABLE"
  else "CREATE TABLE"

/-- A record about the creation of a table. -/
def tableRecord (dialect : Dialect) (level : Log.Level) (message table : String)
    (fields : List (String × Value) := []) : Log.Record where
  level
  speaker := "sqlcommand.query_builder.base"
  message
  fields := [("db.dialect", .text dialect.name), ("table", .text table)] ++ fields

/-- The character set and collation of a table. -/
def tableOptions (dialect : Dialect) (creation : CreateTable) : Reporting String := do
  let characters := creation.characterSet.getD ""
  let collation := creation.collate.getD ""
  if characters.isEmpty && collation.isEmpty then pure ""
  else if !dialect.table.tableCharset then
    Reporting.log
      (tableRecord dialect .debug "Table CHARACTER SET/COLLATE ignored" creation.name)
    pure ""
  else pure (
    (if characters.isEmpty then "" else " DEFAULT CHARACTER SET " ++ characters) ++
    (if collation.isEmpty then "" else " COLLATE " ++ collation))

/-- The columns of a table that make up its primary key by themselves. -/
def primaryColumns (dialect : Dialect) (columns : List (String × ColumnDefinition)) :
    List String :=
  (columns.filter fun (_, definition) => definition.primaryKey ||
    (definition.autoIncrement && dialect.table.autoIncrementStyle = .rowid)).map Prod.fst

/-- Names in the order of their code points. -/
def ordered (names : List String) : List String :=
  names.mergeSort fun first second => first ≤ second

/-- The keys of a new table, declared inside it and deferred. -/
structure PlacedKeys where
  inline : List String := []
  deferred : List Statement := []

/-- A primary key repeats the one that columns make up, or contradicts it. -/
def repeatedPrimary (dialect : Dialect) (creation : CreateTable) (primary : List String)
    (key : KeyDefinition) : Reporting Unit :=
  if ordered key.columns = ordered primary then
    Reporting.log (tableRecord dialect .debug
      "PRIMARY key duplicates column-level primary key, skipped" creation.name)
  else .raise (.validation
    ("table " ++ Text.quoted creation.name ++ " declares conflicting primary keys") "keys")

/-- Places one key of a new table. -/
def placeTableKey (dialect : Dialect) (creation : CreateTable) (name : String)
    (primary : List String) (key : KeyDefinition) : Reporting PlacedKeys := do
  if key.type = .primary && !primary.isEmpty then
    repeatedPrimary dialect creation primary key
    pure {}
  else match ← placeKey dialect name key with
    | .inline sql => pure { inline := [sql] }
    | .deferred => do pure { deferred := (← addKey dialect name key).toList }
    | .unsupported => do
      Reporting.log (tableRecord dialect .warning
        (key.type.spelling ++ " key is not supported by " ++ dialect.name ++ " and was dropped")
        creation.name [("key.columns", .list (key.columns.map .text))])
      pure {}

/-- The clause of a primary key that more than one column makes up. -/
def primaryKeyClause (dialect : Dialect) (primary : List String) : Reporting (List String) :=
  if 1 < primary.length then do
    pure ["PRIMARY KEY (" ++ Text.listed (← dialect.quoteIdentifiers primary) ++ ")"]
  else pure []

/-- The plan of a new table whose parts are written. -/
def tablePlan (dialect : Dialect) (creation : CreateTable) (table : String)
    (fragments : List ColumnFragment) (primaryKey : List String) (keys : List PlacedKeys)
    (options : String) : Plan where
  statements :=
    { sql := createTableWords dialect creation.temporary ++ " " ++ table ++ " (" ++
        Text.listed (fragments.map ColumnFragment.sql ++ primaryKey ++
          fragments.flatMap ColumnFragment.constraints ++ keys.flatMap PlacedKeys.inline) ++
        ")" ++ options } ::
      keys.flatMap PlacedKeys.deferred ++ fragments.flatMap ColumnFragment.followUp

/-- Compiles the creation of a table from its columns. -/
def compileColumns (dialect : Dialect) (creation : CreateTable) (name table : String)
    (columns : List (String × ColumnDefinition)) : Reporting Plan := do
  let primary := primaryColumns dialect columns
  let fragments ← columns.mapM fun (column, definition) =>
    compileColumn dialect name column definition !decide (1 < primary.length)
  let primaryKey ← primaryKeyClause dialect primary
  let keys ← creation.keys.mapM (placeTableKey dialect creation name primary)
  let options ← tableOptions dialect creation
  pure (tablePlan dialect creation table fragments primaryKey keys options)

/-- Compiles the creation of a table from a select. -/
def compileTableFrom (dialect : Dialect) (creation : CreateTable) (table : String)
    (select : Select) : Reporting Plan := do
  if dialect.table.createTableAs then
    let statement ← compileNested dialect select
    let options ← tableOptions dialect creation
    pure { statements := [{ statement with
      sql := createTableWords dialect creation.temporary ++ " " ++ table ++ options ++ " AS " ++
        statement.sql }] }
  else
    let (statement, _) ← compileSelect dialect true (some table) select
    pure { statements := [statement] }

/-- Compiles the creation of a table. -/
def compileCreateTable (dialect : Dialect) (creation : CreateTable) : Reporting Plan := do
  refuseArgs .createTable creation.args
  let name := tableName dialect creation.temporary creation.name
  let table ← dialect.quoteIdentifier name "table"
  match creation.select with
  | some select => compileTableFrom dialect creation table select
  | none => compileColumns dialect creation name table (creation.columns.getD [])

/-- Compiles the removal of tables. -/
def compileDropTable (dialect : Dialect) (removal : DropTable) : Reporting Plan := do
  refuseArgs .dropTable removal.args
  let words := (if removal.temporary && dialect.table.dropTemporaryKeyword then
    "DROP TEMPORARY TABLE " else "DROP TABLE ") ++ (if removal.ifExists then "IF EXISTS " else "")
  let tables ← dialect.quoteIdentifiers (removal.tables.map (tableName dialect removal.temporary))
    "table"
  if dialect.table.dropMultipleTables then pure (planOf [words ++ Text.listed tables])
  else pure (planOf (tables.map (words ++ ·)))

/-- The place of a new column, where the dialect allows one. -/
def columnPosition (dialect : Dialect) (addition : AddColumn) : Reporting String := do
  let after := addition.after.getD ""
  if !addition.first && after.isEmpty then pure ""
  else if !dialect.table.addColumnPosition then
    Reporting.log (tableRecord dialect .warning "ADD COLUMN position ignored" addition.table
      [("column", .text addition.name)])
    pure ""
  else if addition.first then pure " FIRST"
  else pure (" AFTER " ++ (← dialect.quoteIdentifier after))

/-- Compiles the addition of a column. -/
def compileAddColumn (dialect : Dialect) (addition : AddColumn) : Reporting Plan := do
  refuseArgs .addColumn addition.args
  let table ← dialect.quoteIdentifier addition.table "table"
  let fragment ← compileColumn dialect addition.table addition.name addition.definition
  let position ← columnPosition dialect addition
  let altering := "ALTER TABLE " ++ table ++ " "
  let texts := (altering ++ dialect.table.addColumnKeyword ++ " " ++ fragment.sql ++ position) ::
    fragment.constraints.map (altering ++ "ADD " ++ ·)
  pure { statements := texts.map (fun sql => { sql }) ++ fragment.followUp }

/-- The names that the rows of a table description give to its columns. -/
def describedColumns (rows : List Row) : Reporting (List Value) :=
  rows.mapM fun row => match row.lookup "name" with
    | some name => pure name
    | none => throw (.fault .missingKey "'name'")

/-- The value is the given text. -/
def isText (text : String) : Value → Bool
  | .text characters => characters = text
  | _ => false

/-- Makes a table anew without one of its columns, given the names of all of them. -/
def rebuildWithout (dialect : Dialect) (removal : DropColumn) (columns : List Value) :
    Reporting Plan := do
  let refuse := fun (message : String) =>
    Reporting.raise (α := Unit) (.validation message "name" (.text removal.name))
  let kept := columns.filter (!isText removal.name ·)
  if !columns.any (isText removal.name) then
    refuse ("column " ++ Text.quoted removal.name ++ " does not exist in table " ++
      Text.quoted removal.table)
  else if kept.isEmpty then
    refuse ("cannot drop " ++ Text.quoted removal.name ++ ", the only column of table " ++
      Text.quoted removal.table)
  Reporting.log {
    level := .warning
    speaker := "sqlcommand.query_builder.sqlite.builder"
    message :=
      "sqlite DROP COLUMN recreates the table, constraints and indexes are not preserved"
    fields := [("db.dialect", .text dialect.name), ("table", .text removal.table),
      ("column", .text removal.name)] }
  let base := Text.lastPart removal.table
  let temporary := ".".intercalate
    (qualifiers removal.table ++ ["_sqlcommand_" ++ base ++ "_tmp"])
  let table ← dialect.quoteIdentifier removal.table "table"
  let rebuilt ← dialect.quoteIdentifier temporary "table"
  let names ← kept.mapM (quoteNameValue dialect.table.identifierQuote "identifier")
  let final ← dialect.quoteIdentifier base "table"
  pure (planOf
    ["CREATE TABLE " ++ rebuilt ++ " AS SELECT " ++ Text.listed names ++ " FROM " ++ table,
     "DROP TABLE " ++ table,
     "ALTER TABLE " ++ rebuilt ++ " RENAME TO " ++ final])

/-- Compiles the removal of a column where a table has to be made anew; `live` says that the
table can be looked at. -/
def compileRebuild (dialect : Dialect) (live : Bool) (removal : DropColumn) :
    Reporting Compilation := do
  if !live then
    Reporting.raise (.validation
      "sqlite DROP COLUMN needs a live connection to read the table definition" "table"
      (.text removal.table))
  else
    let table ← dialect.quoteIdentifier removal.table "table"
    pure (.reading { sql := "PRAGMA table_info(" ++ table ++ ")" } fun rows => do
      rebuildWithout dialect removal (← describedColumns rows))

/-- Compiles the removal of a column. -/
def compileDropColumn (dialect : Dialect) (live : Bool) (removal : DropColumn) :
    Reporting Compilation := do
  refuseArgs .dropColumn removal.args
  if dialect.table.nativeDropColumn then
    let table ← dialect.quoteIdentifier removal.table "table"
    let column ← dialect.quoteIdentifier removal.name
    pure (.done (planOf ["ALTER TABLE " ++ table ++ " DROP COLUMN " ++ column]))
  else match dialect.family with
    | .sqlite => compileRebuild dialect live removal
    | _ => .raise (.validation
        (dialect.name ++ " cannot drop column " ++ Text.quoted removal.name) "name"
        (.text removal.name))

/-- Compiles the addition of an index. -/
def compileAddIndex (dialect : Dialect) (addition : AddIndex) : Reporting Plan := do
  refuseArgs .addIndex addition.args
  match ← addKey dialect addition.table addition.key with
  | some statement => pure { statements := [statement] }
  | none =>
    Reporting.log (tableRecord dialect .warning
      (addition.key.type.spelling ++ " key is not supported by " ++ dialect.name ++
        ", ADD INDEX ignored") addition.table)
    pure {}

/-- Compiles the removal of an index. -/
def compileDropIndex (dialect : Dialect) (removal : DropIndex) : Reporting Plan := do
  refuseArgs .dropIndex removal.args
  pure { statements := [← dropKey dialect removal.table removal.name] }

end PortableSql
