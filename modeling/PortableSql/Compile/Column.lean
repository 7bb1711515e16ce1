import PortableSql.Dialect.Quotation
import PortableSql.Sql.Statement
import PortableSql.Text.Template

/-!
# Column definitions in a dialect

A column type becomes the narrowest type of the dialect that holds it: numbers by their bytes,
one more where an unsigned number needs a wider signed type, and text and binary data by their
greatest length. Options that a dialect cannot express beside the type become constraints of the
table, statements of their own, or are left out with a report.
-/

namespace PortableSql

/-- A column definition in a dialect. -/
structure ColumnFragment where
  sql : String
  /-- Constraints that the table has to declare for the column. -/
  constraints : List String := []
  /-- Statements for the time when the table exists. -/
  followUp : List Statement := []

/-- A record about a column. -/
def columnRecord (dialect : Dialect) (level : Log.Level) (message name : String)
    (fields : List (String × Value) := []) : Log.Record where
  level
  speaker := "sqlcommand.query_builder.columns"
  message
  fields := [("db.dialect", .text dialect.name), ("column", .text name)] ++ fields

/-- The type of the least width that is not below the wanted one. -/
def nearest? (types : List (Int × String)) (wanted : Int) : Option String :=
  let fitting := types.filter fun (width, _) => wanted ≤ width
  fitting.foldl (fun (best? : Option (Int × String)) candidate =>
    match best? with
    | none => some candidate
    | some best => if candidate.1 < best.1 then some candidate else some best) none
  |>.map Prod.snd

/-- The greatest width of a table of types. -/
def widest? (types : List (Int × String)) : Option Int :=
  (types.map Prod.fst).max?

/-- The type of a width class. -/
def typeOfClass (types : List (Int × String)) (width : Int) : Except Failure String :=
  match types.lookup width with
  | some type => .ok type
  | none => .error (.fault .missingKey (toString width))

/-- The mark of unsigned numbers, where the dialect has one. -/
def unsignedMark (dialect : Dialect) (definition : ColumnDefinition) : String :=
  if definition.unsigned && dialect.table.nativeUnsigned then " UNSIGNED" else ""

/-- An unsigned number has to be kept in a signed type that is one byte wider. -/
def widened (dialect : Dialect) (definition : ColumnDefinition) : Bool :=
  definition.unsigned && !dialect.table.nativeUnsigned

/-- The width of an integer column in bytes. -/
def integerWidth (definition : ColumnDefinition) : Int := definition.sizeOr 4

/-- The width to look for. Generated values stay within the integer types of the dialect. -/
def wantedWidth (dialect : Dialect) (definition : ColumnDefinition) (name : String) :
    Reporting Int := do
  let wanted := integerWidth definition + (if widened dialect definition then 1 else 0)
  if !(definition.autoIncrement && widened dialect definition) then pure wanted
  else
    let types := if dialect.table.autoIncrementStyle = .serial then dialect.table.serialTypes
      else dialect.table.integerTypes
    match widest? types with
    | none => throw (.fault .badValue "max() arg is an empty sequence")
    | some widest =>
      if widest < wanted then do
        Reporting.log (columnRecord dialect .warning
          "Unsigned AUTO INCREMENT column kept at the widest signed integer type" name)
        pure widest
      else pure wanted

/-- The type of a column of generated values, where the dialect has types of their own. -/
def serialType? (dialect : Dialect) (definition : ColumnDefinition) (wanted : Int) :
    Option String :=
  if definition.autoIncrement && dialect.table.autoIncrementStyle = .serial then
    nearest? dialect.table.serialTypes wanted
  else none

/-- Reports that no integer type is wide enough. -/
def integerRefusal (dialect : Dialect) (definition : ColumnDefinition) (name : String) : Failure :=
  .validation (dialect.name ++ " has no integer type wide enough for " ++
    toString (integerWidth definition) ++ "-byte " ++
    (if definition.unsigned then "unsigned " else "") ++ "column " ++ Text.quoted name) name

/-- The type of an integer column. -/
def integerType (dialect : Dialect) (definition : ColumnDefinition) (name : String) :
    Reporting String := do
  let wanted ← wantedWidth dialect definition name
  match serialType? dialect definition wanted, nearest? dialect.table.integerTypes wanted with
  | some serial, _ => pure serial
  | none, some type => pure (type ++ unsignedMark dialect definition)
  | none, none =>
    let overflow := dialect.table.integerOverflowType.getD ""
    if widened dialect definition && !overflow.isEmpty then do
      Reporting.log
        (columnRecord dialect .debug "Unsigned integer widened to overflow type" name)
      pure overflow
    else .raise (integerRefusal dialect definition name)

/-- The type of a floating-point column. -/
def floatType (dialect : Dialect) (definition : ColumnDefinition) (name : String) :
    Reporting String :=
  let width := definition.sizeOr 8
  match nearest? dialect.table.floatTypes width with
  | some type => pure (type ++ unsignedMark dialect definition)
  | none => .raise (.validation
      (dialect.name ++ " has no " ++ toString width ++ "-byte FLOAT type") name)

/-- A precision and a scale as reports show them. -/
def scaled (precision scale : Int) : Except Failure Value := do
  pure (.text ((← Text.numeral precision) ++ "," ++ (← Text.numeral scale)))

/-- The type of a decimal column, within the greatest precision and scale of the dialect. -/
def decimalType (dialect : Dialect) (definition : ColumnDefinition) (name : String) :
    Reporting String := do
  let precision := min definition.precision dialect.table.maxDecimalPrecision
  let scale := min (min definition.scale dialect.table.maxDecimalScale) precision
  if precision ≠ definition.precision || scale ≠ definition.scale then
    let requested ← Reporting.ofExcept (scaled definition.precision definition.scale)
    let used ← Reporting.ofExcept (scaled precision scale)
    Reporting.log (columnRecord dialect .warning
      "DECIMAL precision degraded to the dialect maximum" name
      [("requested", requested), ("used", used)])
  let type ← Reporting.ofExcept (Text.fill
    [("precision", .whole precision), ("scale", .whole scale)] dialect.table.decimalType)
  pure (type ++ unsignedMark dialect definition)

/-- The types of text or binary data in a dialect. -/
structure SizedTypes where
  classes : List (Int × String)
  fixed : Option String
  longest : Int

/-- The types of text. -/
def textTypes (dialect : Dialect) : SizedTypes where
  classes := dialect.table.stringTypes
  fixed := dialect.table.fixedStringType
  longest := dialect.table.maxStringLength

/-- The types of binary data. -/
def binaryTypes (dialect : Dialect) : SizedTypes where
  classes := dialect.table.binaryTypes
  fixed := dialect.table.fixedBinaryType
  longest := dialect.table.maxBinaryLength

/-- The type of a text or binary column: in the first class by its greatest length, otherwise by
the class alone. -/
def sizedType (dialect : Dialect) (types : SizedTypes) (definition : ColumnDefinition)
    (name : String) : Reporting String := do
  let width := definition.sizeOr 1
  if width ≠ 1 then Reporting.ofExcept (typeOfClass types.classes width)
  else
    let length := definition.length.getD 0
    let filled := fun template =>
      Reporting.ofExcept (Text.fill [("length", .whole length)] template)
    let fixed := types.fixed.getD ""
    if definition.fixed && !fixed.isEmpty && length ≤ dialect.table.maxFixedLength then
      filled fixed
    else do
      if definition.fixed then
        Reporting.log
          (columnRecord dialect .debug "FIXED column emulated as variable width" name)
      if types.longest < length then
        Reporting.log (columnRecord dialect .debug
          "Variable-width column longer than dialect maximum, using unbounded type" name
          [("length", .int length)])
        Reporting.ofExcept (typeOfClass types.classes 2)
      else filled (← Reporting.ofExcept (typeOfClass types.classes 1))

/-- The type of a column, without its options. -/
def columnType (dialect : Dialect) (definition : ColumnDefinition) (name : String) :
    Reporting String :=
  match definition.type with
  | .integer => integerType dialect definition name
  | .float => floatType dialect definition name
  | .decimal => decimalType dialect definition name
  | .string => sizedType dialect (textTypes dialect) definition name
  | .binary => sizedType dialect (binaryTypes dialect) definition name
  | .boolean => pure dialect.table.booleanType
  | type@(.date) | type@(.time) | type@(.datetime) =>
    match dialect.table.temporalTypes.lookup type with
    | some name => pure name
    | none => throw (.fault .missingKey
        ("<ColumnType." ++ type.spelling ++ ": '" ++ type.spelling ++ "'>"))

/-- The default value of a column as a literal. -/
def defaultLiteral (dialect : Dialect) (definition : ColumnDefinition) : String :=
  dialect.quoteLiteral (definition.default?.getD .null)

/-- The target of a column reference. -/
def referenceTarget (dialect : Dialect) (reference : ColumnReference) : Reporting String := do
  let table ← dialect.quoteIdentifier reference.table
  let column ← dialect.quoteIdentifier reference.column
  pure (table ++ " (" ++ column ++ ")")

/-- A text when a condition holds. -/
def textWhen (condition : Bool) (text : String) : List String := if condition then [text] else []

/-- The type of a column and what belongs to it from the beginning: only an integer primary key
can generate its values where they are row identifiers. -/
def columnHead (dialect : Dialect) (name : String) (definition : ColumnDefinition)
    (inlinePrimaryKey : Bool) : Reporting String :=
  if definition.autoIncrement && dialect.table.autoIncrementStyle = .rowid then
    if inlinePrimaryKey then pure "INTEGER"
    else .raise (.validation (dialect.name ++ " AUTO INCREMENT column " ++ Text.quoted name ++
      " cannot be part of a composite primary key") name)
  else columnType dialect definition name

/-- The options between the type of a column and its references. -/
def columnOptions (dialect : Dialect) (definition : ColumnDefinition) (inlinePrimaryKey : Bool) :
    List String :=
  let generated := fun style => definition.autoIncrement && dialect.table.autoIncrementStyle = style
  textWhen (generated .identity) "IDENTITY(1,1)" ++
  textWhen definition.notNull "NOT NULL" ++
  textWhen definition.hasDefault ("DEFAULT " ++ defaultLiteral dialect definition) ++
  textWhen (generated .keyword) "AUTO_INCREMENT" ++
  (if generated .rowid then ["PRIMARY KEY AUTOINCREMENT"]
   else textWhen (definition.primaryKey && inlinePrimaryKey) "PRIMARY KEY") ++
  textWhen definition.uniqueKey "UNIQUE"

/-- The reference of a column: an option, or a constraint of the table. -/
def columnReference (dialect : Dialect) (quoted : String) :
    Option ColumnReference → Reporting (List String × List String)
  | none => pure ([], [])
  | some reference => do
    let target ← referenceTarget dialect reference
    if dialect.table.inlineReferences then pure (["REFERENCES " ++ target], [])
    else pure ([], ["FOREIGN KEY (" ++ quoted ++ ") REFERENCES " ++ target])

/-- The comment of a column: an option, or a statement of its own. -/
def columnComment (dialect : Dialect) (table name quoted : String) :
    Option String → Reporting (List String × List Statement)
  | none => pure ([], [])
  | some comment => match dialect.table.commentStyle with
    | .inline => pure (["COMMENT " ++ dialect.quoteLiteral (.text comment)], [])
    | .statement => do
      let quotedTable ← dialect.quoteIdentifier table
      pure ([], [{ sql := "COMMENT ON COLUMN " ++ quotedTable ++ "." ++ quoted ++ " IS " ++
        dialect.quoteLiteral (.text comment) }])
    | .none => do
      Reporting.log
        (columnRecord dialect .debug "Column comment dropped, dialect cannot store it" name)
      pure ([], [])

/-- Compiles a column definition. -/
def compileColumn (dialect : Dialect) (table name : String) (definition : ColumnDefinition)
    (inlinePrimaryKey : Bool := true) : Reporting ColumnFragment := do
  let quoted ← dialect.quoteIdentifier name
  let head ← columnHead dialect name definition inlinePrimaryKey
  let (references, constraints) ← columnReference dialect quoted definition.references
  let (comments, followUp) ← columnComment dialect table name quoted definition.comment
  let options := columnOptions dialect definition inlinePrimaryKey ++ references ++ comments
  pure { sql := quoted ++ " " ++ " ".intercalate (head :: options), constraints, followUp }

end PortableSql
