import PortableSql.Compile.Environment
import PortableSql.Compile.Listing
import PortableSql.Compile.Table

/-!
# Compiling commands

Every command compiles to a plan in every dialect, or is refused by a report. Nothing is sent to
a server while a command compiles, with one exception: a column is removed from a table of the
`sqlite` family by reading the names of its columns first.
-/

namespace PortableSql

/-- What a compilation depends on beside the command and the dialect. -/
structure Context where
  /-- The plan is meant for the master connection. -/
  master : Bool := false
  /-- The command is a part of another one. -/
  nested : Bool := false
  /-- Tables can be looked at. -/
  live : Bool := false

/-- Compiles a select as a command of its own. -/
def compileQuery (dialect : Dialect) (nested : Bool) (select : Select) : Reporting Plan := do
  let (statement, rowFilter) ← compileSelect dialect nested none select
  pure {
    statements := [statement]
    rowFilter
    exportRows := select.exportRows
    exportHints := select.exportHints }

/-- Compiles the body of a command. -/
def compileBody (dialect : Dialect) (context : Context) : Command → Reporting Compilation
  | .select command => .done <$> compileQuery dialect context.nested command
  | .insert command => .done <$> compileInsert dialect command
  | .update command => .done <$> compileUpdate dialect command
  | .delete command => .done <$> compileDelete dialect command
  | .truncateTable command => .done <$> compileTruncate dialect command
  | .set command => .done <$> compileSet dialect command
  | .use command => .done <$> compileUse dialect command
  | .createDatabase command => .done <$> compileCreateDatabase dialect command
  | .dropDatabase command => .done <$> compileDropDatabase dialect command
  | .createTable command => .done <$> compileCreateTable dialect command
  | .dropTable command => .done <$> compileDropTable dialect command
  | .addColumn command => .done <$> compileAddColumn dialect command
  | .dropColumn command => compileDropColumn dialect context.live command
  | .addIndex command => .done <$> compileAddIndex dialect command
  | .dropIndex command => .done <$> compileDropIndex dialect command
  | .showDatabases _ => pure (.done (compileShowDatabases dialect))
  | .showTables command => pure (.done (compileShowTables dialect command.full))
  | .showCreateDatabase command => .done <$> compileShowCreateDatabase dialect command.name
  | .showCreateTable command => .done <$> compileShowCreateTable dialect command.name
  | .bulkImportMode command => .done <$> compileBulkImport dialect command

/-- Completes a plan by its tag and its connection, and reports it. -/
def completePlan (dialect : Dialect) (context : Context) (tag : Tag) (plan : Plan) :
    Reporting Plan := do
  Reporting.log {
    level := .debug
    speaker := "sqlcommand.query_builder.base"
    message := "Compiled command"
    fields := [("db.dialect", .text dialect.name), ("db.operation", .text tag.spelling),
      ("statement.count", .int plan.statements.length)] }
  pure { plan with tag := some tag, master := context.master }

/-- Compiles a command, up to the reading of a table if one is needed. -/
def compile (dialect : Dialect) (context : Context) (command : Command) :
    Reporting Compilation := do
  match ← compileBody dialect context command with
  | .done plan => .done <$> completePlan dialect context command.tag plan
  | .reading statement resume => pure (.reading statement fun rows => do
      completePlan dialect context command.tag (← resume rows))

/-- Compiles a command without a connection. -/
def compilePlan (dialect : Dialect) (command : Command) (context : Context := {}) :
    Reporting Plan := do
  match ← compile dialect { context with live := false } command with
  | .done plan => pure plan
  | .reading _ resume => resume []

/-- Why a value that is no tag of the vocabulary cannot be compiled as one. -/
def tagRefusal (tag : Value) : Failure := (Failure.ofKey? tag).getD (.unsupportedCommand tag)

end PortableSql
