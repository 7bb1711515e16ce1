import PortableSql.Dialect.Capability
import PortableSql.Payload.Field

/-!
# Capability tables as values

A capability table is written as named values and changed by them. Alternatives are written by
their spellings, pairs as tuples, and sets of key types in the order of their spellings. Changes
are read like a payload, with the same leniency and with all their issues.
-/

namespace PortableSql

/-- How a part of a table is written as a value and read from one. -/
structure Written (α : Type) where
  write : α → Value
  read : Value → Checked α

namespace Written

open Payload

/-- Texts. -/
def text : Written String where
  write := .text
  read := readText

/-- Truth values. -/
def truth : Written Bool where
  write := .bool
  read := readBool

/-- Whole numbers. -/
def number : Written Int where
  write := .int
  read := readInt

/-- Null or something. -/
def orNull {α : Type} (part : Written α) : Written (Option α) where
  write item := (item.map part.write).getD .null
  read := nullable part.read

/-- Lists. -/
def list {α : Type} (part : Written α) : Written (List α) where
  write parts := .list (parts.map part.write)
  read := readList part.read

/-- Tuples of any length. -/
def tuple {α : Type} (part : Written α) : Written (List α) where
  write parts := .tuple (parts.map part.write)
  read value := match sequenceOf? value with
    | some items => .items part.read 0 items
    | none => .refused "Input should be a valid tuple"

/-- Why there are too many items for a pair. The items of a view are not counted. -/
def tooMany (value : Value) (items : List Value) : String :=
  "Tuple should have at most 2 items after validation, not " ++
    (if (itemsOf? value).isSome then toString items.length else "more")

/-- The text at a position of a pair. -/
def textAt (items : List Value) (position : Nat) : Checked String :=
  match items[position]? with
  | some item => (readText item).inside (toString position)
  | none => .rejected [{ path := [toString position], text := "Field required" }]

/-- Pairs of texts. -/
def pair : Written (String × String) where
  write | (first, second) => .tuple [.text first, .text second]
  read value := match sequenceOf? value with
    | none => .refused "Input should be a valid tuple"
    | some items =>
      if 2 < items.length then .refused (tooMany value items)
      else (textAt items 0).both fun _ => textAt items 1

/-- Delimiters of quoted text. -/
def delimiter : Written Sql.Delimiter where
  write item := pair.write (item.opening, item.closing)
  read value := (pair.read value).map fun (opening, closing) => ⟨opening, closing⟩

/-- One of several alternatives. -/
def alternative {α : Type} [DecidableEq α] (spellings : List (String × α)) : Written α where
  write item := .text (spellingOf spellings item)
  read := readSpelling (spellings.map Prod.fst) (List.lookup · spellings)

/-- Key types. -/
def keyType : Written KeyType where
  write type := .text type.spelling
  read := readSpelling (KeyType.all.map KeyType.spelling) KeyType.ofSpelling?

/-- Column types. -/
def columnType : Written ColumnType where
  write type := .text type.spelling
  read := readSpelling (ColumnType.all.map ColumnType.spelling) ColumnType.ofSpelling?

/-- Sets of key types. -/
def keys : Written (List KeyType) where
  write parts := .list (((parts.map KeyType.spelling).mergeSort (· ≤ ·)).map .text)
  read value := match sequenceOf? value with
    | some items => (Checked.items keyType.read 0 items).map List.eraseDups
    | none => .refused "Input should be a valid frozenset"

/-- Entries with texts. -/
def entries {α : Type} [DecidableEq α] (part : Written α) : Written (List (α × String)) where
  write parts := .dictionary (parts.map fun (key, name) => (part.write key, .text name))
  read
    | .dictionary found => (readEntries part.read readText found).map entriesOf
    | _ => .refused "Input should be a valid dictionary"

end Written

/-- A named part of a capability table. -/
structure CapabilityField where
  name : String
  write : Capabilities → Value
  change : Value → Checked (Capabilities → Capabilities)

/-- The field of a part. -/
def CapabilityField.of {α : Type} (name : String) (part : Written α) (get : Capabilities → α)
    (set : α → Capabilities → Capabilities) : CapabilityField where
  name
  write table := part.write (get table)
  change value := (part.read value).map set

namespace Capabilities

open Written

/-- Every field of a capability table. -/
def fields : List CapabilityField :=
  [.of "name" text (·.name)
      fun item table => { table with name := item },
   .of "identifier_quote" pair (·.identifierQuote)
      fun item table => { table with identifierQuote := item },
   .of "quoted_spans" (tuple delimiter) (·.quotedSpans)
      fun item table => { table with quotedSpans := item },
   .of "limit_syntax" (alternative LimitSyntax.spellings) (·.limitSyntax)
      fun item table => { table with limitSyntax := item },
   .of "update_limit" truth (·.updateLimit)
      fun item table => { table with updateLimit := item },
   .of "multi_row_insert" truth (·.multiRowInsert)
      fun item table => { table with multiRowInsert := item },
   .of "max_insert_rows" (orNull number) (·.maxInsertRows)
      fun item table => { table with maxInsertRows := item },
   .of "max_parameters" (orNull number) (·.maxParameters)
      fun item table => { table with maxParameters := item },
   .of "update_default_keyword" truth (·.updateDefaultKeyword)
      fun item table => { table with updateDefaultKeyword := item },
   .of "ctas" truth (·.createTableAs)
      fun item table => { table with createTableAs := item },
   .of "temporary_style" (alternative TemporaryTableStyle.spellings) (·.temporaryStyle)
      fun item table => { table with temporaryStyle := item },
   .of "table_charset" truth (·.tableCharset)
      fun item table => { table with tableCharset := item },
   .of "inline_keys" keys (·.inlineKeys)
      fun item table => { table with inlineKeys := item },
   .of "separate_keys" keys (·.separateKeys)
      fun item table => { table with separateKeys := item },
   .of "index_statement_style" (alternative IndexStatementStyle.spellings) (·.indexStatementStyle)
      fun item table => { table with indexStatementStyle := item },
   .of "drop_index_on_table" truth (·.dropIndexOnTable)
      fun item table => { table with dropIndexOnTable := item },
   .of "max_identifier_length" number (·.maxIdentifierLength)
      fun item table => { table with maxIdentifierLength := item },
   .of "add_column_keyword" text (·.addColumnKeyword)
      fun item table => { table with addColumnKeyword := item },
   .of "add_column_position" truth (·.addColumnPosition)
      fun item table => { table with addColumnPosition := item },
   .of "native_drop_column" truth (·.nativeDropColumn)
      fun item table => { table with nativeDropColumn := item },
   .of "truncate_statement" truth (·.truncateStatement)
      fun item table => { table with truncateStatement := item },
   .of "truncate_multiple" truth (·.truncateMultiple)
      fun item table => { table with truncateMultiple := item },
   .of "drop_multiple_tables" truth (·.dropMultipleTables)
      fun item table => { table with dropMultipleTables := item },
   .of "drop_temporary_keyword" truth (·.dropTemporaryKeyword)
      fun item table => { table with dropTemporaryKeyword := item },
   .of "integer_types" (entries number) (·.integerTypes)
      fun item table => { table with integerTypes := item },
   .of "native_unsigned" truth (·.nativeUnsigned)
      fun item table => { table with nativeUnsigned := item },
   .of "integer_overflow_type" (orNull text) (·.integerOverflowType)
      fun item table => { table with integerOverflowType := item },
   .of "float_types" (entries number) (·.floatTypes)
      fun item table => { table with floatTypes := item },
   .of "decimal_type" text (·.decimalType)
      fun item table => { table with decimalType := item },
   .of "max_decimal_precision" number (·.maxDecimalPrecision)
      fun item table => { table with maxDecimalPrecision := item },
   .of "max_decimal_scale" number (·.maxDecimalScale)
      fun item table => { table with maxDecimalScale := item },
   .of "string_types" (entries number) (·.stringTypes)
      fun item table => { table with stringTypes := item },
   .of "fixed_string_type" (orNull text) (·.fixedStringType)
      fun item table => { table with fixedStringType := item },
   .of "max_string_length" number (·.maxStringLength)
      fun item table => { table with maxStringLength := item },
   .of "binary_types" (entries number) (·.binaryTypes)
      fun item table => { table with binaryTypes := item },
   .of "fixed_binary_type" (orNull text) (·.fixedBinaryType)
      fun item table => { table with fixedBinaryType := item },
   .of "max_binary_length" number (·.maxBinaryLength)
      fun item table => { table with maxBinaryLength := item },
   .of "max_fixed_length" number (·.maxFixedLength)
      fun item table => { table with maxFixedLength := item },
   .of "temporal_types" (entries columnType) (·.temporalTypes)
      fun item table => { table with temporalTypes := item },
   .of "boolean_type" text (·.booleanType)
      fun item table => { table with booleanType := item },
   .of "boolean_literals" pair (·.booleanLiterals)
      fun item table => { table with booleanLiterals := item },
   .of "auto_increment_style" (alternative AutoIncrementStyle.spellings) (·.autoIncrementStyle)
      fun item table => { table with autoIncrementStyle := item },
   .of "serial_types" (entries number) (·.serialTypes)
      fun item table => { table with serialTypes := item },
   .of "comment_style" (alternative CommentStyle.spellings) (·.commentStyle)
      fun item table => { table with commentStyle := item },
   .of "inline_references" truth (·.inlineReferences)
      fun item table => { table with inlineReferences := item },
   .of "insert_id_requires_column" truth (·.insertIdRequiresColumn)
      fun item table => { table with insertIdRequiresColumn := item },
   .of "insert_id_sql" text (·.insertIdSql)
      fun item table => { table with insertIdSql := item },
   .of "begin_statement" text (·.beginStatement)
      fun item table => { table with beginStatement := item },
   .of "commit_statement" text (·.commitStatement)
      fun item table => { table with commitStatement := item },
   .of "rollback_statement" text (·.rollbackStatement)
      fun item table => { table with rollbackStatement := item },
   .of "set_keyword" text (·.setKeyword)
      fun item table => { table with setKeyword := item },
   .of "set_parameters" truth (·.setParameters)
      fun item table => { table with setParameters := item },
   .of "use_statement" (orNull text) (·.useStatement)
      fun item table => { table with useStatement := item },
   .of "bulk_import_on" (list text) (·.bulkImportOn)
      fun item table => { table with bulkImportOn := item },
   .of "bulk_import_off" (list text) (·.bulkImportOff)
      fun item table => { table with bulkImportOff := item },
   .of "backslash_escapes" truth (·.backslashEscapes)
      fun item table => { table with backslashEscapes := item }]

/-- A table as named values. -/
def toEntries (table : Capabilities) : List (String × Value) :=
  fields.map fun field => (field.name, field.write table)

/-- Reads the change of one field, if there is one. -/
def changeOf (changes : Payload.Entries) (field : CapabilityField) :
    Checked (Capabilities → Capabilities) :=
  Payload.optional changes { name := field.name } id field.change

/-- A table with some fields changed. -/
def changed (table : Capabilities) (changes : Payload.Entries) : Checked Capabilities :=
  Payload.modelOf (fields.map fun field => { name := field.name }) changes
    (fields.foldl (fun (outcome : Checked Capabilities) field =>
      (outcome.both fun _ => changeOf changes field).map fun (table, change) => change table)
      (.accepted table))

end Capabilities

end PortableSql
