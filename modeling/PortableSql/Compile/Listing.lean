import PortableSql.Command.Basic
import PortableSql.Sql.Reshape

/-!
# Compiling listings

Databases and tables are listed as rows with a name, and shown with the text that creates them.
Where a server has other columns, the rows are reshaped on their way through the cursor.
-/

namespace PortableSql

/-- The plan of one statement whose columns are renamed by position. -/
def renamingPlan (sql : String) (names : List String) : Plan where
  statements := [{ sql }]
  reshape := some (renamedRows names)

/-- Compiles the listing of databases. -/
def compileShowDatabases (dialect : Dialect) : Plan :=
  let reading := fun (sql : String) => { statements := [{ sql }] }
  match dialect.family with
  | .mysql => renamingPlan "SHOW DATABASES" ["name"]
  | .postgresql => reading
      "SELECT datname AS name FROM pg_database WHERE NOT datistemplate ORDER BY datname"
  | .sqlite => reading "SELECT name AS name FROM pragma_database_list ORDER BY seq"
  | .mssql => reading "SELECT name AS name FROM sys.databases ORDER BY name"

/-- Compiles the listing of tables. -/
def compileShowTables (dialect : Dialect) (full : Bool) : Plan :=
  let reading := fun (columns types source : String) =>
    { statements := [{
      sql := "SELECT " ++ columns ++ (if full then ", " ++ types else "") ++ source }] }
  match dialect.family with
  | .mysql =>
    if full then renamingPlan "SHOW FULL TABLES" ["name", "type"]
    else renamingPlan "SHOW TABLES" ["name"]
  | .postgresql => reading "table_name AS name" "table_type AS type"
      (" FROM information_schema.tables WHERE table_schema = current_schema()" ++
        " ORDER BY table_name")
  | .sqlite => reading "name AS name" "CASE type WHEN 'view' THEN 'VIEW' ELSE 'BASE TABLE' END AS type"
      (" FROM sqlite_master WHERE type IN ('table', 'view') AND name NOT LIKE 'sqlite_%'" ++
        " ORDER BY name")
  | .mssql => reading "TABLE_NAME AS name" "TABLE_TYPE AS type"
      (" FROM INFORMATION_SCHEMA.TABLES WHERE TABLE_CATALOG = DB_NAME()" ++
        " AND TABLE_SCHEMA = SCHEMA_NAME() ORDER BY TABLE_NAME")

/-- Compiles the showing of a database. Only one family of servers answers it; elsewhere the row
is made here. -/
def compileShowCreateDatabase (dialect : Dialect) (name : String) : Reporting Plan := do
  let quoted ← dialect.quoteIdentifier name "database"
  match dialect.family with
  | .mysql => pure (renamingPlan ("SHOW CREATE DATABASE " ++ quoted) ["name", "sql"])
  | _ =>
    let row : Row := [("name", .text name), ("sql", .text ("CREATE DATABASE " ++ quoted))]
    pure { staticRows := some [row] }

/-- The text that reads the descriptions of columns. -/
def describedColumnsSql : String :=
  "SELECT column_name AS column_name, data_type AS data_type, " ++
  "character_maximum_length AS character_maximum_length, " ++
  "numeric_precision AS numeric_precision, numeric_scale AS numeric_scale, " ++
  "is_nullable AS is_nullable, column_default AS column_default FROM information_schema.columns"

/-- The plan that makes the text of a table from the descriptions of its columns. -/
def describingPlan (dialect : Dialect) (name schema : String) : Plan where
  statements := [{
    sql := describedColumnsSql ++ " WHERE table_schema = " ++ schema ++
      " AND table_name = ? ORDER BY ordinal_position"
    parameters := [.infer (.text (Text.lastPart name))] }]
  reshape := some (tableCreation name dialect.table.identifierQuote)

/-- Compiles the showing of a table. -/
def compileShowCreateTable (dialect : Dialect) (name : String) : Reporting Plan :=
  match dialect.family with
  | .mysql => do
    let quoted ← dialect.quoteIdentifier name "table"
    pure (renamingPlan ("SHOW CREATE TABLE " ++ quoted) ["name", "sql"])
  | .postgresql => pure (describingPlan dialect name "current_schema()")
  | .mssql => pure (describingPlan dialect name "SCHEMA_NAME()")
  | .sqlite => pure { statements := [{
      sql := "SELECT name AS name, sql AS sql FROM sqlite_master WHERE type = 'table' AND name = ?"
      parameters := [.infer (.text name)] }] }

end PortableSql
