import PortableSql.Dialect.Capability

/-!
# The built-in dialects

Four families of dialects and their tables. A dialect is a family with a table; the family decides
what is no matter of data: the form of binary literals and how databases and tables are shown and
created.
-/

namespace PortableSql

/-- The families of dialects. -/
inductive Family where
  | mysql
  | postgresql
  | sqlite
  | mssql
deriving DecidableEq, Repr

/-- A family with a table of capabilities. -/
structure Dialect where
  family : Family
  table : Capabilities

/-- The name of a dialect, as its table has it. -/
def Dialect.name (dialect : Dialect) : String := dialect.table.name

namespace Capabilities

/-- Every key type can be declared inside a table, and rows of updates can be limited. -/
def mysql : Capabilities where
  name := "mysql"
  identifierQuote := ("\x60", "\x60")
  quotedSpans := Sql.standardDelimiters ++ [⟨"\x60", "\x60"⟩]
  updateLimit := true
  tableCharset := true
  inlineKeys := KeyType.all
  separateKeys := KeyType.all
  indexStatementStyle := .alterTable
  dropIndexOnTable := true
  maxIdentifierLength := 64
  addColumnPosition := true
  dropTemporaryKeyword := true
  integerTypes := [(1, "TINYINT"), (2, "SMALLINT"), (3, "MEDIUMINT"), (4, "INT"), (8, "BIGINT")]
  nativeUnsigned := true
  floatTypes := [(4, "FLOAT"), (8, "DOUBLE")]
  maxDecimalPrecision := 65
  maxDecimalScale := 30
  stringTypes :=
    [(1, "VARCHAR(\x7blength\x7d)"), (2, "TEXT"), (3, "MEDIUMTEXT"), (4, "LONGTEXT")]
  fixedStringType := some "CHAR(\x7blength\x7d)"
  maxStringLength := 16383
  binaryTypes :=
    [(1, "VARBINARY(\x7blength\x7d)"), (2, "BLOB"), (3, "MEDIUMBLOB"), (4, "LONGBLOB")]
  fixedBinaryType := some "BINARY(\x7blength\x7d)"
  temporalTypes := [(.date, "DATE"), (.time, "TIME"), (.datetime, "DATETIME")]
  booleanType := "TINYINT(1)"
  autoIncrementStyle := .keyword
  commentStyle := .inline
  inlineReferences := false
  insertIdSql := "SELECT LAST_INSERT_ID() AS id"
  beginStatement := "START TRANSACTION"
  bulkImportOn := ["SET foreign_key_checks = 0", "SET unique_checks = 0"]
  bulkImportOff := ["SET foreign_key_checks = 1", "SET unique_checks = 1"]
  backslashEscapes := true

/-- Generated values come from types of their own, and comments from statements of their own. -/
def postgresql : Capabilities where
  name := "postgresql"
  truncateMultiple := true
  integerTypes := [(2, "SMALLINT"), (4, "INTEGER"), (8, "BIGINT")]
  integerOverflowType := some "NUMERIC(20,0)"
  floatTypes := [(4, "REAL"), (8, "DOUBLE PRECISION")]
  decimalType := "NUMERIC(\x7bprecision\x7d,\x7bscale\x7d)"
  maxDecimalPrecision := 1000
  maxDecimalScale := 1000
  stringTypes := [(1, "VARCHAR(\x7blength\x7d)"), (2, "TEXT"), (3, "TEXT"), (4, "TEXT")]
  fixedStringType := some "CHAR(\x7blength\x7d)"
  maxStringLength := 10485760
  binaryTypes := [(1, "BYTEA"), (2, "BYTEA"), (3, "BYTEA"), (4, "BYTEA")]
  maxBinaryLength := 1073741823
  maxFixedLength := 10485760
  temporalTypes := [(.date, "DATE"), (.time, "TIME"), (.datetime, "TIMESTAMP")]
  booleanType := "BOOLEAN"
  booleanLiterals := ("TRUE", "FALSE")
  autoIncrementStyle := .serial
  serialTypes := [(2, "SMALLSERIAL"), (4, "SERIAL"), (8, "BIGSERIAL")]
  commentStyle := .statement
  insertIdRequiresColumn := true
  insertIdSql := "SELECT currval(pg_get_serial_sequence(?, ?)) AS id"
  useStatement := some "SET search_path TO \x7bname\x7d"
  bulkImportOn := ["SET session_replication_role = replica"]
  bulkImportOff := ["SET session_replication_role = DEFAULT"]

/-- Databases are files, and a column is dropped by making the table anew. -/
def sqlite : Capabilities where
  name := "sqlite"
  quotedSpans := Sql.standardDelimiters ++ [⟨"\x60", "\x60"⟩, ⟨"[", "]"⟩]
  maxParameters := some 999
  updateDefaultKeyword := false
  separateKeys := [.unique, .key]
  maxIdentifierLength := 128
  nativeDropColumn := false
  truncateStatement := false
  dropMultipleTables := false
  integerTypes := [(8, "INTEGER")]
  integerOverflowType := some "NUMERIC"
  floatTypes := [(8, "REAL")]
  decimalType := "NUMERIC(\x7bprecision\x7d,\x7bscale\x7d)"
  stringTypes := [(1, "VARCHAR(\x7blength\x7d)"), (2, "TEXT"), (3, "TEXT"), (4, "TEXT")]
  fixedStringType := some "CHAR(\x7blength\x7d)"
  maxStringLength := 1000000000
  binaryTypes := [(1, "BLOB"), (2, "BLOB"), (3, "BLOB"), (4, "BLOB")]
  maxBinaryLength := 1000000000
  temporalTypes := [(.date, "TEXT"), (.time, "TEXT"), (.datetime, "TEXT")]
  booleanType := "INTEGER"
  autoIncrementStyle := .rowid
  insertIdSql := "SELECT last_insert_rowid() AS id"
  setKeyword := "PRAGMA"
  setParameters := false
  useStatement := none
  bulkImportOn := ["PRAGMA foreign_keys = OFF"]
  bulkImportOff := ["PRAGMA foreign_keys = ON"]

/-- Rows are limited by the cursor, and temporary tables are marked by their names. -/
def mssql : Capabilities where
  name := "mssql"
  identifierQuote := ("[", "]")
  quotedSpans := Sql.standardDelimiters ++ [⟨"[", "]"⟩]
  limitSyntax := .emulated
  maxInsertRows := some 1000
  maxParameters := some 2099
  createTableAs := false
  temporaryStyle := .numberSign
  dropIndexOnTable := true
  maxIdentifierLength := 128
  addColumnKeyword := "ADD"
  integerTypes := [(2, "SMALLINT"), (4, "INT"), (8, "BIGINT")]
  integerOverflowType := some "DECIMAL(20,0)"
  floatTypes := [(4, "REAL"), (8, "FLOAT")]
  stringTypes :=
    [(1, "NVARCHAR(\x7blength\x7d)"), (2, "NVARCHAR(MAX)"), (3, "NVARCHAR(MAX)"),
     (4, "NVARCHAR(MAX)")]
  fixedStringType := some "NCHAR(\x7blength\x7d)"
  maxStringLength := 4000
  binaryTypes :=
    [(1, "VARBINARY(\x7blength\x7d)"), (2, "VARBINARY(MAX)"), (3, "VARBINARY(MAX)"),
     (4, "VARBINARY(MAX)")]
  fixedBinaryType := some "BINARY(\x7blength\x7d)"
  maxBinaryLength := 8000
  maxFixedLength := 4000
  temporalTypes := [(.date, "DATE"), (.time, "TIME"), (.datetime, "DATETIME2")]
  booleanType := "BIT"
  autoIncrementStyle := .identity
  insertIdSql := "SELECT @@IDENTITY AS id"
  beginStatement := "BEGIN TRANSACTION"
  commitStatement := "COMMIT TRANSACTION"
  rollbackStatement := "ROLLBACK TRANSACTION"

end Capabilities

namespace Family

/-- Every family. -/
def all : List Family := [mysql, postgresql, sqlite, mssql]

/-- The name of a family. -/
def name : Family → String
  | mysql => "mysql"
  | postgresql => "postgresql"
  | sqlite => "sqlite"
  | mssql => "mssql"

/-- The built-in dialect of a family. -/
def dialect : Family → Dialect
  | mysql => ⟨.mysql, Capabilities.mysql⟩
  | postgresql => ⟨.postgresql, Capabilities.postgresql⟩
  | sqlite => ⟨.sqlite, Capabilities.sqlite⟩
  | mssql => ⟨.mssql, Capabilities.mssql⟩

end Family

end PortableSql
