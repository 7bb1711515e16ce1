import PortableSql.Command.Tag
import PortableSql.Text.Digit

/-!
# Column and key definitions

A column or a key described without regard to a dialect. The sizes of a column mean different
things for different types: bytes for numbers, precision and scale for decimals, a width class
and a greatest length for text and binary data.
-/

namespace PortableSql

/-- The portable column types. -/
inductive ColumnType where
  | integer
  | float
  | decimal
  | string
  | binary
  | date
  | time
  | datetime
  | boolean
deriving DecidableEq, Repr

namespace ColumnType

/-- The spelling of a type. -/
def spelling : ColumnType → String
  | integer => "INTEGER"
  | float => "FLOAT"
  | decimal => "DECIMAL"
  | string => "STRING"
  | binary => "BINARY"
  | date => "DATE"
  | time => "TIME"
  | datetime => "DATETIME"
  | boolean => "BOOLEAN"

/-- Every type. -/
def all : List ColumnType :=
  [integer, float, decimal, string, binary, date, time, datetime, boolean]

/-- The type of a spelling. -/
def ofSpelling? (text : String) : Option ColumnType := all.find? (·.spelling = text)

end ColumnType

/-- The portable index and constraint types. -/
inductive KeyType where
  | primary
  | key
  | unique
  | fulltext
  | foreign
deriving DecidableEq, Repr

namespace KeyType

/-- The spelling of a type. -/
def spelling : KeyType → String
  | primary => "PRIMARY"
  | key => "KEY"
  | unique => "UNIQUE"
  | fulltext => "FULLTEXT"
  | foreign => "FOREIGN"

/-- Every type. -/
def all : List KeyType := [primary, key, unique, fulltext, foreign]

/-- The type of a spelling. -/
def ofSpelling? (text : String) : Option KeyType := all.find? (·.spelling = text)

end KeyType

/-- What a column refers to: one column of a table. -/
structure ColumnReference where
  table : String
  column : String
deriving DecidableEq, Repr

/-- A column described without regard to a dialect. -/
structure ColumnDefinition where
  type : ColumnType
  size : Option Int := none
  length : Option Int := none
  notNull : Bool := false
  /-- The default value; an explicit null is different from no default. -/
  default? : Option Value := none
  primaryKey : Bool := false
  uniqueKey : Bool := false
  autoIncrement : Bool := false
  unsigned : Bool := false
  fixed : Bool := false
  comment : Option String := none
  references : Option ColumnReference := none

namespace ColumnDefinition

/-- An absent size counts as the given one, and so does zero. -/
def sizeOr (definition : ColumnDefinition) (usual : Int) : Int :=
  match definition.size with
  | some size => if size = 0 then usual else size
  | none => usual

/-- The precision of a decimal column. -/
def precision (definition : ColumnDefinition) : Int := definition.sizeOr 10

/-- The scale of a decimal column. -/
def scale (definition : ColumnDefinition) : Int := definition.length.getD 0

/-- A default was given, be it null. -/
def hasDefault (definition : ColumnDefinition) : Bool := definition.default?.isSome

/-- Why the sizes do not suit the type, if they do not. -/
def sizeFault? (definition : ColumnDefinition) : Option String :=
  match definition.type with
  | .integer => match definition.size with
    | some size =>
      if 1 ≤ size && size ≤ 8 then none
      else some (Text.endingWith "INTEGER width must be between 1 and 8 bytes, got " size)
    | none => none
  | .float => match definition.size with
    | some size =>
      if size = 4 || size = 8 then none
      else some (Text.endingWith "FLOAT width must be 4 or 8 bytes, got " size)
    | none => none
  | .decimal =>
    if definition.scale > definition.precision then
      some (match Text.numeral? definition.scale with
        | some scale =>
          Text.endingWith ("DECIMAL scale " ++ scale ++ " exceeds precision ") definition.precision
        | none => Text.unwritable)
    else none
  | .string | .binary =>
    let width := definition.sizeOr 1
    if !(1 ≤ width && width ≤ 4) then
      some (Text.endingWith (definition.type.spelling ++ " size class must be 1-4, got ") width)
    else if width = 1 && definition.scale = 0 then
      some (definition.type.spelling ++ " with size class 1 requires a maximum length")
    else none
  | _ => none

/-- Why the definition is refused as a whole, if it is. -/
def refusal? (definition : ColumnDefinition) : Option String :=
  match definition.sizeFault? with
  | some reason => some reason
  | none =>
    if definition.autoIncrement && definition.type ≠ .integer then
      some "AUTO INCREMENT is only valid on INTEGER columns"
    else if definition.unsigned && !([.integer, .float, .decimal].contains definition.type) then
      some "UNSIGNED is only valid on numeric columns"
    else none

end ColumnDefinition

/-- What a foreign key refers to: columns of a table. -/
structure KeyReference where
  table : String
  columns : List String
deriving DecidableEq, Repr

/-- An index or constraint described without regard to a dialect. -/
structure KeyDefinition where
  type : KeyType
  columns : List String
  name : Option String := none
  references : Option KeyReference := none
  onDelete : Option String := none
  onUpdate : Option String := none
deriving DecidableEq, Repr

/-- The actions that a foreign key may take. -/
def referentialActions : List String :=
  ["CASCADE", "SET NULL", "SET DEFAULT", "RESTRICT", "NO ACTION"]

/-- Why a key is refused as a whole, if it is: only foreign keys have a target, and it has as
many columns as the key. -/
def KeyDefinition.refusal? (key : KeyDefinition) : Option String :=
  match key.type, key.references with
  | .foreign, none => some "FOREIGN key requires REFERENCES"
  | .foreign, some target =>
    if target.columns.length ≠ key.columns.length then
      some "FOREIGN key column count does not match REFERENCES"
    else none
  | type, target =>
    if target.isSome || key.onDelete.isSome || key.onUpdate.isSome then
      some ("REFERENCES is only valid on FOREIGN keys, not " ++ type.spelling)
    else none

end PortableSql
