import PortableSql.Command.Basic

/-!
# Writing commands as payloads

A command is written as the payload that it can be read from: a dictionary keyed by clause
keywords, in the order of the fields, without the fields that have their usual value.
-/

namespace PortableSql.Payload

/-- A field with its value. -/
def entry (key : String) (value : Value) : List (Value × Value) := [(.text key, value)]

/-- A field that is left out when it has its usual value. -/
def unlessUsual (usual : Bool) (key : String) (value : Value) : List (Value × Value) :=
  if usual then [] else entry key value

/-- An optional field. -/
def given {α : Type} (key : String) (value? : Option α) (write : α → Value) :
    List (Value × Value) :=
  match value? with
  | none => []
  | some value => entry key (write value)

/-- A switch that is off by default. -/
def switched (key : String) (on : Bool) : List (Value × Value) := unlessUsual (!on) key (.bool on)

/-- Texts as a list. -/
def texts (items : List String) : Value := .list (items.map .text)

/-- Columns with their values as a dictionary. -/
def columnsOf {α : Type} (write : α → Value) (columns : List (String × α)) : Value :=
  .dictionary (columns.map fun (name, value) => (.text name, write value))

/-- The arguments of a command. -/
def argsEntry (args : List Value) : List (Value × Value) :=
  unlessUsual args.isEmpty "args" (.list args)

/-- A column reference as a payload. -/
def writeReference (reference : ColumnReference) : Value :=
  .dictionary (entry "table" (.text reference.table) ++ entry "column" (.text reference.column))

/-- A column definition as a payload. A default of null is its usual value. -/
def writeColumn (definition : ColumnDefinition) : Value :=
  .dictionary (
    entry "type" (.text definition.type.spelling) ++
    given "size" definition.size .int ++
    given "length" definition.length .int ++
    switched "NOT NULL" definition.notNull ++
    writeDefault definition.default? ++
    switched "PRIMARY KEY" definition.primaryKey ++
    switched "UNIQUE KEY" definition.uniqueKey ++
    switched "AUTO INCREMENT" definition.autoIncrement ++
    switched "UNSIGNED" definition.unsigned ++
    switched "FIXED" definition.fixed ++
    given "COMMENT" definition.comment .text ++
    given "REFERENCES" definition.references writeReference)
where
  /-- The default value of a column. -/
  writeDefault : Option Value → List (Value × Value)
    | none => []
    | some .null => []
    | some value => entry "DEFAULT" value

/-- A key reference as a payload. -/
def writeKeyReference (reference : KeyReference) : Value :=
  .dictionary (entry "table" (.text reference.table) ++ entry "columns" (texts reference.columns))

/-- A key definition as a payload. -/
def writeKey (key : KeyDefinition) : Value :=
  .dictionary (
    entry "type" (.text key.type.spelling) ++
    entry "columns" (texts key.columns) ++
    given "NAME" key.name .text ++
    given "REFERENCES" key.references writeKeyReference ++
    given "ON DELETE" key.onDelete .text ++
    given "ON UPDATE" key.onUpdate .text)

/-- The columns of a select as a value. -/
def writeColumnList : ColumnList → Value
  | .text columns => .text columns
  | .names columns => texts columns

mutual

/-- The clauses of a select as entries of its payload. -/
def writeSelectClauses : Select → List (Value × Value)
  | { columns, distinct, source, condition, grouping, having, ordering, limit, subqueries,
      exportRows, exportHints, .. } =>
    unlessUsual (columns = .text "*") "columns" (writeColumnList columns) ++
    switched "DISTINCT" distinct ++
    given "FROM" source .text ++
    given "WHERE" condition .text ++
    given "GROUP BY" grouping .text ++
    given "HAVING" having .text ++
    given "ORDER BY" ordering .text ++
    given "LIMIT" limit Limit.value ++
    unlessUsual subqueries.isEmpty "SUBQUERIES" (.list (writeSelects subqueries)) ++
    switched "EXPORT ROWS" exportRows ++
    switched "EXPORT HINTS" exportHints

/-- Selects as payloads. -/
def writeSelects : List Select → List Value
  | [] => []
  | select :: rest =>
    .dictionary (argsEntry select.args ++ writeSelectClauses select) :: writeSelects rest

end

/-- A select as a payload. -/
def writeSelect (select : Select) : Value :=
  .dictionary (argsEntry select.args ++ writeSelectClauses select)

/-- A row as a payload. -/
def writeRow (row : Row) : Value := columnsOf id row

/-- The values of an insert as a payload. -/
def writeInsertValues : InsertValues → Value
  | .row values => writeRow values
  | .rows values => .list (values.map writeRow)

/-- The clauses of a command as the entries of its payload. -/
def writeClauses : Command → List (Value × Value)
  | .select command => writeSelectClauses command
  | .insert command =>
    entry "table" (.text command.table) ++
    given "values" command.values writeInsertValues ++
    unlessUsual command.inline.isEmpty "inline" (columnsOf .text command.inline) ++
    given "AUTO INCREMENT" command.autoIncrement .text ++
    unlessUsual command.kinds.isEmpty "kinds"
      (columnsOf (fun kind => .text kind.spelling) command.kinds) ++
    given "columns" command.columns texts ++
    given "select" command.select writeSelect
  | .update command =>
    entry "table" (.text command.table) ++
    unlessUsual command.values.isEmpty "values" (writeRow command.values) ++
    unlessUsual command.inline.isEmpty "inline" (columnsOf .text command.inline) ++
    given "WHERE" command.condition .text ++
    given "ORDER BY" command.ordering .text ++
    given "LIMIT" command.limit Limit.value
  | .delete command =>
    entry "table" (.text command.table) ++
    given "WHERE" command.condition .text ++
    given "ORDER BY" command.ordering .text ++
    given "LIMIT" command.limit Limit.value
  | .truncateTable command => entry "tables" (texts command.tables)
  | .set command => entry "statement" (.text command.statement)
  | .use command => entry "database" (.text command.database)
  | .createDatabase command =>
    entry "name" (.text command.name) ++
    given "CHARACTER SET" command.characterSet .text ++
    given "COLLATE" command.collate .text
  | .dropDatabase command =>
    entry "name" (.text command.name) ++ switched "if_exists" command.ifExists
  | .createTable command =>
    entry "name" (.text command.name) ++
    given "columns" command.columns (columnsOf writeColumn) ++
    unlessUsual command.keys.isEmpty "keys" (.list (command.keys.map writeKey)) ++
    given "select" command.select writeSelect ++
    switched "TEMPORARY" command.temporary ++
    given "CHARACTER SET" command.characterSet .text ++
    given "COLLATE" command.collate .text
  | .dropTable command =>
    entry "tables" (texts command.tables) ++
    switched "if_exists" command.ifExists ++
    switched "TEMPORARY" command.temporary
  | .addColumn command =>
    entry "table" (.text command.table) ++
    entry "name" (.text command.name) ++
    entry "definition" (writeColumn command.definition) ++
    switched "FIRST" command.first ++
    given "AFTER" command.after .text
  | .dropColumn command =>
    entry "table" (.text command.table) ++ entry "name" (.text command.name)
  | .addIndex command =>
    entry "table" (.text command.table) ++ entry "key" (writeKey command.key)
  | .dropIndex command =>
    entry "table" (.text command.table) ++ entry "name" (.text command.name)
  | .showDatabases _ => []
  | .showTables command => switched "FULL" command.full
  | .showCreateDatabase command => entry "name" (.text command.name)
  | .showCreateTable command => entry "name" (.text command.name)
  | .bulkImportMode command => unlessUsual command.enabled "enabled" (.bool command.enabled)

/-- A command as the payload that it can be read from. -/
def write (command : Command) : Value :=
  .dictionary (argsEntry command.args ++ writeClauses command)

end PortableSql.Payload
