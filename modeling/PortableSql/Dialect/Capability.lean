import PortableSql.Command.Definition
import PortableSql.Sql.Scan

/-!
# Capabilities

What a dialect can express by itself, as one read-only table. Compilation asks the table and not
the name of the dialect. Type templates name the length, the precision and the scale.
-/

namespace PortableSql

/-- How the number of returned rows is restricted. -/
inductive LimitSyntax where
  | limitOffset
  /-- The cursor leaves rows out. -/
  | emulated
deriving DecidableEq, Repr

/-- How a column is declared that generates its values. -/
inductive AutoIncrementStyle where
  | keyword
  /-- A type of its own. -/
  | serial
  | identity
  /-- The integer primary key. -/
  | rowid
deriving DecidableEq, Repr

/-- How column comments are stored. -/
inductive CommentStyle where
  | inline
  | statement
  | none
deriving DecidableEq, Repr

/-- How an index is added to a table. -/
inductive IndexStatementStyle where
  | alterTable
  | createIndex
deriving DecidableEq, Repr

/-- How a temporary table is marked. -/
inductive TemporaryTableStyle where
  | keyword
  /-- A number sign before its name. -/
  | numberSign
deriving DecidableEq, Repr

namespace LimitSyntax

/-- Every way to limit rows, with its spelling. -/
def spellings : List (String × LimitSyntax) :=
  [("limit_offset", limitOffset), ("emulated", emulated)]

end LimitSyntax

namespace AutoIncrementStyle

/-- Every way to generate values, with its spelling. -/
def spellings : List (String × AutoIncrementStyle) :=
  [("keyword", keyword), ("serial", serial), ("identity", identity), ("rowid", rowid)]

end AutoIncrementStyle

namespace CommentStyle

/-- Every way to store comments, with its spelling. -/
def spellings : List (String × CommentStyle) :=
  [("inline", inline), ("statement", statement), ("none", none)]

end CommentStyle

namespace IndexStatementStyle

/-- Every way to add an index, with its spelling. -/
def spellings : List (String × IndexStatementStyle) :=
  [("alter_table", alterTable), ("create_index", createIndex)]

end IndexStatementStyle

namespace TemporaryTableStyle

/-- Every way to mark a temporary table, with its spelling. -/
def spellings : List (String × TemporaryTableStyle) :=
  [("keyword", keyword), ("prefix", numberSign)]

end TemporaryTableStyle

/-- The spelling of an alternative. -/
def spellingOf {α : Type} [DecidableEq α] (spellings : List (String × α)) (alternative : α) :
    String :=
  ((spellings.find? (·.2 = alternative)).map Prod.fst).getD ""

/-- What a dialect can express. -/
structure Capabilities where
  name : String
  identifierQuote : String × String := ("\"", "\"")
  quotedSpans : List Sql.Delimiter := Sql.standardDelimiters
  limitSyntax : LimitSyntax := .limitOffset
  updateLimit : Bool := false
  multiRowInsert : Bool := true
  maxInsertRows : Option Int := none
  maxParameters : Option Int := none
  updateDefaultKeyword : Bool := true
  /-- A table can be created from a select in one statement of its own. -/
  createTableAs : Bool := true
  temporaryStyle : TemporaryTableStyle := .keyword
  tableCharset : Bool := false
  inlineKeys : List KeyType := [.primary, .foreign]
  separateKeys : List KeyType := [.primary, .unique, .key, .foreign]
  indexStatementStyle : IndexStatementStyle := .createIndex
  dropIndexOnTable : Bool := false
  maxIdentifierLength : Int := 63
  addColumnKeyword : String := "ADD COLUMN"
  addColumnPosition : Bool := false
  nativeDropColumn : Bool := true
  truncateStatement : Bool := true
  truncateMultiple : Bool := false
  dropMultipleTables : Bool := true
  dropTemporaryKeyword : Bool := false
  integerTypes : List (Int × String)
  nativeUnsigned : Bool := false
  integerOverflowType : Option String := none
  floatTypes : List (Int × String)
  decimalType : String := "DECIMAL(\x7bprecision\x7d,\x7bscale\x7d)"
  maxDecimalPrecision : Int := 38
  maxDecimalScale : Int := 38
  stringTypes : List (Int × String)
  fixedStringType : Option String := none
  maxStringLength : Int := 65535
  binaryTypes : List (Int × String)
  fixedBinaryType : Option String := none
  maxBinaryLength : Int := 65535
  maxFixedLength : Int := 255
  temporalTypes : List (ColumnType × String)
  booleanType : String
  /-- The texts of true and false. -/
  booleanLiterals : String × String := ("1", "0")
  autoIncrementStyle : AutoIncrementStyle
  serialTypes : List (Int × String) := []
  commentStyle : CommentStyle := .none
  inlineReferences : Bool := true
  insertIdRequiresColumn : Bool := false
  insertIdSql : String := ""
  beginStatement : String := "BEGIN"
  commitStatement : String := "COMMIT"
  rollbackStatement : String := "ROLLBACK"
  setKeyword : String := "SET"
  setParameters : Bool := true
  useStatement : Option String := some "USE \x7bname\x7d"
  bulkImportOn : List String := []
  bulkImportOff : List String := []
  backslashEscapes : Bool := false

namespace Capabilities

/-- A missing limit and a limit of zero are none. -/
def limitOf : Option Int → Option Int
  | some limit => if limit = 0 then none else some limit
  | none => none

/-- The most rows of one insert whose rows have the given number of bound values; none is said
by zero. -/
def insertBatchSize (table : Capabilities) (columns : Int) : Int :=
  if !table.multiRowInsert then 1
  else
    let byRows := limitOf table.maxInsertRows
    match limitOf table.maxParameters with
    | some parameters =>
      if columns = 0 then byRows.getD 0
      else
        let byParameters := max 1 (Int.fdiv parameters columns)
        match byRows with
        | some rows => min rows byParameters
        | none => byParameters
    | none => byRows.getD 0

end Capabilities

end PortableSql
