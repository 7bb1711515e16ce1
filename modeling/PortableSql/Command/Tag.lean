import PortableSql.Reporting
import PortableSql.Text.Case.Upper

/-!
# Command tags

The closed vocabulary of commands. A tag is matched without regard to letter case and spacing;
extra words are not forgiven, and a misspelt INSERT is reported as such.
-/

namespace PortableSql

/-- The commands of the vocabulary. -/
inductive Tag where
  | select
  | insert
  | update
  | delete
  | truncateTable
  | set
  | use
  | createDatabase
  | dropDatabase
  | createTable
  | dropTable
  | addColumn
  | dropColumn
  | addIndex
  | dropIndex
  | showDatabases
  | showTables
  | showCreateDatabase
  | showCreateTable
  | bulkImportMode
deriving DecidableEq, Repr

namespace Tag

/-- The canonical spelling of a tag. -/
def spelling : Tag → String
  | select => "SELECT"
  | insert => "INSERT"
  | update => "UPDATE"
  | delete => "DELETE"
  | truncateTable => "TRUNCATE TABLE"
  | set => "SET"
  | use => "USE"
  | createDatabase => "CREATE DATABASE"
  | dropDatabase => "DROP DATABASE"
  | createTable => "CREATE TABLE"
  | dropTable => "DROP TABLE"
  | addColumn => "ADD COLUMN"
  | dropColumn => "DROP COLUMN"
  | addIndex => "ADD INDEX"
  | dropIndex => "DROP INDEX"
  | showDatabases => "SHOW DATABASES"
  | showTables => "SHOW TABLES"
  | showCreateDatabase => "SHOW CREATE DATABASE"
  | showCreateTable => "SHOW CREATE TABLE"
  | bulkImportMode => "BULK IMPORT MODE"

/-- The spelling with underscores in place of spaces. -/
def symbol (tag : Tag) : String :=
  String.ofList (tag.spelling.toList.map fun character =>
    if character = ' ' then '_' else character)

/-- The name of the command model that a tag selects. -/
def modelName : Tag → String
  | select => "Select"
  | insert => "Insert"
  | update => "Update"
  | delete => "Delete"
  | truncateTable => "TruncateTable"
  | set => "Set"
  | use => "Use"
  | createDatabase => "CreateDatabase"
  | dropDatabase => "DropDatabase"
  | createTable => "CreateTable"
  | dropTable => "DropTable"
  | addColumn => "AddColumn"
  | dropColumn => "DropColumn"
  | addIndex => "AddIndex"
  | dropIndex => "DropIndex"
  | showDatabases => "ShowDatabases"
  | showTables => "ShowTables"
  | showCreateDatabase => "ShowCreateDatabase"
  | showCreateTable => "ShowCreateTable"
  | bulkImportMode => "BulkImportMode"

/-- Every tag. -/
def all : List Tag :=
  [select, insert, update, delete, truncateTable, set, use, createDatabase, dropDatabase,
   createTable, dropTable, addColumn, dropColumn, addIndex, dropIndex, showDatabases, showTables,
   showCreateDatabase, showCreateTable, bulkImportMode]

/-- The tag with exactly the given spelling. -/
def ofSpelling? (text : String) : Option Tag := all.find? (·.spelling = text)

/-- The tag with exactly the given spelling, failing with a fault. -/
def ofSpelling (text : String) : Except Failure Tag :=
  match ofSpelling? text with
  | some tag => .ok tag
  | none => .error (.fault .badValue (Text.quoted text ++ " is not a valid CommandType"))

/-- Commands that change data or its definition. -/
def isWrite : Tag → Bool
  | insert | update | delete | truncateTable | createDatabase | dropDatabase | createTable
  | dropTable | addColumn | dropColumn | addIndex | dropIndex => true
  | _ => false

/-- A tag as callers give it: already resolved, or a value to be read. -/
inductive Source where
  | resolved (tag : Tag)
  | given (value : Value)

/-- The text of a tag as it is written into traces. -/
def Source.text : Source → String
  | .resolved tag => "CommandType." ++ tag.symbol
  | .given value => value.plain

/-- The tag meant by a value, forgiving letter case and spacing. -/
def resolve : Source → Reporting Tag
  | .resolved tag => pure tag
  | .given (.text characters) =>
    let normalized := Text.collapsed (Text.upper characters)
    match ofSpelling? normalized with
    | some tag => pure tag
    | none =>
      if Text.begins "INSERT" normalized then
        .raise (.validation
          ("Insertion command must be spelled exactly 'INSERT', got " ++ Text.quoted characters)
          "command" (.text characters) .invalidArgument)
      else .raise (.unsupportedCommand (.text characters))
  | .given value => .raise (.unsupportedCommand value)

end Tag

/-- How a bound value is handed to a driver. -/
inductive ValueKind where
  | string
  | binary
  | null
deriving DecidableEq, Repr

namespace ValueKind

/-- The spelling of a kind. -/
def spelling : ValueKind → String
  | string => "string"
  | binary => "binary"
  | null => "null"

/-- Every kind. -/
def all : List ValueKind := [string, binary, null]

/-- The kind of a spelling. -/
def ofSpelling? (text : String) : Option ValueKind := all.find? (·.spelling = text)

end ValueKind

end PortableSql
