import PortableSql.Compile.Change
import PortableSql.Text.Template

/-!
# Compiling commands for the environment

Variables, the current database and the integrity checks of a connection, and the statement that
reads the last generated value.
-/

namespace PortableSql

/-- Compiles the setting of a variable. -/
def compileSet (dialect : Dialect) (setting : SetVariable) : Reporting Plan := do
  let use := if dialect.table.setParameters then .value else .refused
  let statement ← Emitting.run setting.args "SET" do
    let body ← emitClause dialect "SET" use none setting.statement
    pure (dialect.table.setKeyword ++ " " ++ body)
  pure { statements := [statement] }

/-- Compiles the selection of the current database; a dialect without a statement for it only
remembers the name. -/
def compileUse (dialect : Dialect) (use : Use) : Reporting Plan := do
  refuseArgs .use use.args
  match dialect.table.useStatement with
  | none =>
    Reporting.log {
      level := .debug
      speaker := "sqlcommand.query_builder.base"
      message := "USE has no statement on this dialect, only session state changes"
      fields := [("db.dialect", .text dialect.name)] }
    pure {}
  | some template =>
    let name ← dialect.quoteIdentifier use.database "database"
    pure (planOf [← Reporting.ofExcept (Text.fill [("name", .text name)] template)])

/-- Compiles the switching of integrity checks. -/
def compileBulkImport (dialect : Dialect) (mode : BulkImportMode) : Reporting Plan := do
  refuseArgs .bulkImportMode mode.args
  pure (planOf (if mode.enabled then dialect.table.bulkImportOn else dialect.table.bulkImportOff))

namespace Dialect

/-- The statement that reads the last generated value, for the table and the column of the last
insert. -/
def insertIdStatement (dialect : Dialect) (table column : Option String) : Reporting Statement :=
  if !dialect.table.insertIdRequiresColumn then pure { sql := dialect.table.insertIdSql }
  else match table, column with
    | some table, some column =>
      if table.isEmpty || column.isEmpty then unknown
      else do
        let quoted ← dialect.quoteIdentifier table "table"
        pure {
          sql := dialect.table.insertIdSql
          parameters := [.infer (.text quoted), .infer (.text column)] }
    | _, _ => unknown
where
  /-- The column of the last insert has to be known. -/
  unknown : Reporting Statement :=
    .raise (.validation (dialect.name ++
      " needs the AUTO INCREMENT column of the last INSERT to read its id") "AUTO INCREMENT")

end Dialect

end PortableSql
