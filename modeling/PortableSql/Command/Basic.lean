import PortableSql.Command.Definition

/-!
# Commands

What a database should do, described without regard to a dialect. Every command carries the
positional arguments for the placeholders in its clauses, consumed from left to right. A select
may hold further selects, which its clauses name by position.
-/

namespace PortableSql

/-- The columns of a select: a text, or names to be joined. -/
inductive ColumnList where
  | text (columns : String)
  | names (columns : List String)
deriving DecidableEq, Repr

/-- The columns as one text. -/
def ColumnList.joined : ColumnList → String
  | text columns => columns
  | names columns => Text.listed columns

/-- A row limit: a count, or a text with a count or an offset and a count, in which a question
mark stands for an argument. -/
inductive Limit where
  | count (rows : Int)
  | written (limit : String)
deriving DecidableEq, Repr

/-- The value that a limit is written as in a payload. -/
def Limit.value : Limit → Value
  | count rows => .int rows
  | written limit => .text limit

/-- Reads rows. -/
structure Select where
  args : List Value := []
  columns : ColumnList := .text "*"
  distinct : Bool := false
  source : Option String := none
  condition : Option String := none
  grouping : Option String := none
  having : Option String := none
  ordering : Option String := none
  limit : Option Limit := none
  subqueries : List Select := []
  exportRows : Bool := false
  exportHints : Bool := false

/-- The values of an insert: one row, or several of them. -/
inductive InsertValues where
  | row (values : Row)
  | rows (values : List Row)

/-- Adds rows: from values and raw fragments, or from a select. -/
structure Insert where
  args : List Value := []
  table : String
  values : Option InsertValues := none
  inline : List (String × String) := []
  autoIncrement : Option String := none
  kinds : List (String × ValueKind) := []
  columns : Option (List String) := none
  select : Option Select := none

namespace Insert

/-- The rows of values; without values there is one empty row for the fragments. -/
def rows (insert : Insert) : List Row :=
  match insert.values with
  | none => [[]]
  | some (.row values) => [values]
  | some (.rows values) => values

/-- The columns that values are given for, in the order of the first row. -/
def valueColumns (insert : Insert) : List String :=
  match insert.rows with
  | [] => []
  | first :: _ => first.map Prod.fst

end Insert

/-- The names that two lists share, in the order of their code points. -/
def sharedNames (left right : List String) : List String :=
  (left.filter right.contains).mergeSort fun first second => first ≤ second

/-- Why names that are given both as values and as fragments are refused. -/
def overlapText (names : List String) : String :=
  "columns given both as values and inline: " ++ Text.listed names

/-- Why an insert is refused as a whole, if it is: it has exactly one source of data, and rows of
values agree in their columns. -/
def Insert.refusal? (insert : Insert) : Option String :=
  let valued := insert.values.isSome || !insert.inline.isEmpty
  if valued = insert.select.isSome then
    some "Insert requires exactly one data source: values/inline or select"
  else if insert.select.isSome then
    if insert.autoIncrement.any (!·.isEmpty) || !insert.kinds.isEmpty then
      some "AUTO INCREMENT and kinds are only valid with values"
    else none
  else if insert.columns.isSome then some "columns is only valid with select"
  else match manyFault? with
    | some reason => some reason
    | none =>
      let shared := sharedNames (insert.inline.map Prod.fst) insert.valueColumns
      if !shared.isEmpty then some (overlapText shared)
      else if insert.valueColumns.isEmpty && insert.inline.isEmpty then
        some "values cannot be empty"
      else none
where
  /-- What is wrong with several rows. -/
  manyFault? : Option String :=
    match insert.values with
    | some (.rows []) => some "values cannot be an empty list"
    | some (.rows (first :: others)) =>
      if !insert.inline.isEmpty then some "inline cannot be combined with multi-row values"
      else if others.all fun row => row.map Prod.fst = first.map Prod.fst then none
      else some "every row of a multi-row insert must have the same columns in the same order"
    | _ => none

/-- Changes rows. True resets a column to its default and false sets it to null. -/
structure Update where
  args : List Value := []
  table : String
  values : Row := []
  inline : List (String × String) := []
  condition : Option String := none
  ordering : Option String := none
  limit : Option Limit := none

/-- Why an update is refused as a whole, if it is: it sets something, and nothing twice. -/
def Update.refusal? (update : Update) : Option String :=
  if update.values.isEmpty && update.inline.isEmpty then
    some "Update requires values or inline assignments"
  else
    let shared := sharedNames (update.values.map Prod.fst) (update.inline.map Prod.fst)
    if shared.isEmpty then none else some (overlapText shared)

/-- Removes rows; all of them without a condition. -/
structure Delete where
  args : List Value := []
  table : String
  condition : Option String := none
  ordering : Option String := none
  limit : Option Limit := none

/-- Empties tables. -/
structure TruncateTable where
  args : List Value := []
  tables : List String

/-- Sets a variable of the connection; the statement follows the keyword of the dialect. -/
structure SetVariable where
  args : List Value := []
  statement : String

/-- Selects the current database. -/
structure Use where
  args : List Value := []
  database : String

/-- Creates a database. -/
structure CreateDatabase where
  args : List Value := []
  name : String
  characterSet : Option String := none
  collate : Option String := none

/-- Removes a database. -/
structure DropDatabase where
  args : List Value := []
  name : String
  ifExists : Bool := false

/-- Creates a table from column definitions or from a select. -/
structure CreateTable where
  args : List Value := []
  name : String
  columns : Option (List (String × ColumnDefinition)) := none
  keys : List KeyDefinition := []
  select : Option Select := none
  temporary : Bool := false
  characterSet : Option String := none
  collate : Option String := none

/-- The columns of a key that a table does not have. -/
def KeyDefinition.missing (key : KeyDefinition) (columns : List String) : List String :=
  key.columns.filter fun column => !columns.contains column

/-- Why the creation of a table is refused as a whole, if it is. -/
def CreateTable.refusal? (creation : CreateTable) : Option String :=
  if creation.columns.isSome = creation.select.isSome then
    some "CreateTable requires exactly one definition method: columns or select"
  else if creation.columns.any List.isEmpty then some "columns cannot be empty"
  else if creation.select.isSome && !creation.keys.isEmpty then
    some "keys cannot be combined with CREATE TABLE ... SELECT"
  else match creation.columns with
    | none => none
    | some columns =>
      (creation.keys.map fun key => key.missing (columns.map Prod.fst)).findSome? fun missing =>
        if missing.isEmpty then none
        else some ("key references unknown columns: " ++ Text.listed missing)

/-- Removes tables. -/
structure DropTable where
  args : List Value := []
  tables : List String
  ifExists : Bool := false
  temporary : Bool := false

/-- Adds a column to a table, at a given place where the dialect allows it. -/
structure AddColumn where
  args : List Value := []
  table : String
  name : String
  definition : ColumnDefinition
  first : Bool := false
  after : Option String := none

/-- A column goes to the front or after another one, not both. -/
def AddColumn.refusal? (addition : AddColumn) : Option String :=
  if addition.first && addition.after.isSome then some "FIRST and AFTER are mutually exclusive"
  else none

/-- Removes a column. -/
structure DropColumn where
  args : List Value := []
  table : String
  name : String

/-- Adds an index or constraint to a table. -/
structure AddIndex where
  args : List Value := []
  table : String
  key : KeyDefinition

/-- Removes an index. -/
structure DropIndex where
  args : List Value := []
  table : String
  name : String

/-- Lists the databases. -/
structure ShowDatabases where
  args : List Value := []

/-- Lists the tables of the current database, with their types on demand. -/
structure ShowTables where
  args : List Value := []
  full : Bool := false

/-- Shows how a database is created. -/
structure ShowCreateDatabase where
  args : List Value := []
  name : String

/-- Shows how a table is created. -/
structure ShowCreateTable where
  args : List Value := []
  name : String

/-- Switches the integrity checks of a connection off for bulk loading, and on again. -/
structure BulkImportMode where
  args : List Value := []
  enabled : Bool := true

/-- A command of the vocabulary. -/
inductive Command where
  | select (command : Select)
  | insert (command : Insert)
  | update (command : Update)
  | delete (command : Delete)
  | truncateTable (command : TruncateTable)
  | set (command : SetVariable)
  | use (command : Use)
  | createDatabase (command : CreateDatabase)
  | dropDatabase (command : DropDatabase)
  | createTable (command : CreateTable)
  | dropTable (command : DropTable)
  | addColumn (command : AddColumn)
  | dropColumn (command : DropColumn)
  | addIndex (command : AddIndex)
  | dropIndex (command : DropIndex)
  | showDatabases (command : ShowDatabases)
  | showTables (command : ShowTables)
  | showCreateDatabase (command : ShowCreateDatabase)
  | showCreateTable (command : ShowCreateTable)
  | bulkImportMode (command : BulkImportMode)

namespace Command

/-- The tag of a command. -/
def tag : Command → Tag
  | select _ => .select
  | insert _ => .insert
  | update _ => .update
  | delete _ => .delete
  | truncateTable _ => .truncateTable
  | set _ => .set
  | use _ => .use
  | createDatabase _ => .createDatabase
  | dropDatabase _ => .dropDatabase
  | createTable _ => .createTable
  | dropTable _ => .dropTable
  | addColumn _ => .addColumn
  | dropColumn _ => .dropColumn
  | addIndex _ => .addIndex
  | dropIndex _ => .dropIndex
  | showDatabases _ => .showDatabases
  | showTables _ => .showTables
  | showCreateDatabase _ => .showCreateDatabase
  | showCreateTable _ => .showCreateTable
  | bulkImportMode _ => .bulkImportMode

/-- The positional arguments of a command. -/
def args : Command → List Value
  | select command => command.args
  | insert command => command.args
  | update command => command.args
  | delete command => command.args
  | truncateTable command => command.args
  | set command => command.args
  | use command => command.args
  | createDatabase command => command.args
  | dropDatabase command => command.args
  | createTable command => command.args
  | dropTable command => command.args
  | addColumn command => command.args
  | dropColumn command => command.args
  | addIndex command => command.args
  | dropIndex command => command.args
  | showDatabases command => command.args
  | showTables command => command.args
  | showCreateDatabase command => command.args
  | showCreateTable command => command.args
  | bulkImportMode command => command.args

/-- The same command with other positional arguments. -/
def withArgs (args : List Value) : Command → Command
  | select command => .select { command with args }
  | insert command => .insert { command with args }
  | update command => .update { command with args }
  | delete command => .delete { command with args }
  | truncateTable command => .truncateTable { command with args }
  | set command => .set { command with args }
  | use command => .use { command with args }
  | createDatabase command => .createDatabase { command with args }
  | dropDatabase command => .dropDatabase { command with args }
  | createTable command => .createTable { command with args }
  | dropTable command => .dropTable { command with args }
  | addColumn command => .addColumn { command with args }
  | dropColumn command => .dropColumn { command with args }
  | addIndex command => .addIndex { command with args }
  | dropIndex command => .dropIndex { command with args }
  | showDatabases command => .showDatabases { command with args }
  | showTables command => .showTables { command with args }
  | showCreateDatabase command => .showCreateDatabase { command with args }
  | showCreateTable command => .showCreateTable { command with args }
  | bulkImportMode command => .bulkImportMode { command with args }

@[simp] theorem args_withArgs (args : List Value) (command : Command) :
    (command.withArgs args).args = args := by cases command <;> rfl

@[simp] theorem tag_withArgs (args : List Value) (command : Command) :
    (command.withArgs args).tag = command.tag := by cases command <;> rfl

end Command

end PortableSql
