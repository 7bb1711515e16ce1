import PortableSql.Payload.Field

/-!
# Reading column and key definitions

A definition is given by its fields or in a shorter form: a column as its type alone or as a list
of type, size, length and options; a key as a list of type, columns and options; a column
reference as `table(column)`.
-/

namespace PortableSql.Payload

/-- Sets the value of a key among the entries. -/
def putValue (entries : Entries) (key : String) (value : Value) : Entries :=
  Value.dictionaryOf.put entries (.text key, value)

/-- The characters of a name and what follows it, if the name is not empty; white space and the
given bracket end a name. -/
def splitName (bracket : Char) (characters : List Char) : Option (List Char × List Char) :=
  let isName := fun character => !Text.isBlank character && character != bracket
  let name := characters.takeWhile isName
  if name.isEmpty then none else some (name, characters.dropWhile isName)

/-- The table and the column of the short form of a reference. -/
def shortReference? (text : String) : Option (String × String) := do
  let skip := fun (characters : List Char) => characters.dropWhile Text.isBlank
  let (table, rest) ← splitName '(' (skip text.toList)
  let inner ← match skip rest with
    | '(' :: inner => some inner
    | _ => none
  let (column, left) ← splitName ')' (skip inner)
  match skip left with
  | ')' :: after =>
    if (skip after).isEmpty then some (String.ofList table, String.ofList column) else none
  | _ => none

/-- Reads the fields of a column reference. -/
def readReferenceFields (entries : Entries) : Checked ColumnReference :=
  modelOf [{ name := "table" }, { name := "column" }] entries
    (ColumnReference.mk
      <$> required entries { name := "table" } readFullText
      <*> required entries { name := "column" } readFullText)

/-- Reads a column reference. -/
def readReference : Value → Checked ColumnReference
  | .text short => match shortReference? short with
    | some (table, column) =>
      readReferenceFields [(.text "table", .text table), (.text "column", .text column)]
    | none => .refusedValue
      ("REFERENCES must look like 'table(column)', got " ++ Text.quoted short)
  | .dictionary entries => readReferenceFields entries
  | _ => notModel "ColumnReference"

/-- A spelling without surrounding white space and in capitals. -/
def normalSpelling : Value → Value
  | .text spelling => .text (Text.upper (Text.trimmed spelling))
  | value => value

/-- The keys of a column definition. -/
def columnKeys : List Key :=
  [{ name := "type" }, { name := "size" }, { name := "length" },
   { name := "not_null", keyword := "NOT NULL" }, { name := "default", keyword := "DEFAULT" },
   { name := "primary_key", keyword := "PRIMARY KEY" },
   { name := "unique_key", keyword := "UNIQUE KEY" },
   { name := "auto_increment", keyword := "AUTO INCREMENT" },
   { name := "unsigned", keyword := "UNSIGNED" }, { name := "fixed", keyword := "FIXED" },
   { name := "comment", keyword := "COMMENT" }, { name := "references", keyword := "REFERENCES" }]

/-- Reads the fields of a column definition. -/
def readColumnFields (entries : Entries) : Checked ColumnDefinition :=
  modelOf columnKeys entries
    (ColumnDefinition.mk
      <$> required entries { name := "type" } (fun value =>
        readSpelling (ColumnType.all.map ColumnType.spelling) ColumnType.ofSpelling?
          (normalSpelling value))
      <*> optional entries { name := "size" } none (nullable (readIntFrom 1))
      <*> optional entries { name := "length" } none (nullable (readIntFrom 0))
      <*> optional entries { name := "not_null", keyword := "NOT NULL" } false readBool
      <*> optional entries { name := "default", keyword := "DEFAULT" } none
        (fun value => (readAny value).map some)
      <*> optional entries { name := "primary_key", keyword := "PRIMARY KEY" } false readBool
      <*> optional entries { name := "unique_key", keyword := "UNIQUE KEY" } false readBool
      <*> optional entries { name := "auto_increment", keyword := "AUTO INCREMENT" } false readBool
      <*> optional entries { name := "unsigned", keyword := "UNSIGNED" } false readBool
      <*> optional entries { name := "fixed", keyword := "FIXED" } false readBool
      <*> optional entries { name := "comment", keyword := "COMMENT" } none (nullable readText)
      <*> optional entries { name := "references", keyword := "REFERENCES" } none
        (nullable readReference))
    ColumnDefinition.refusal?

/-- The options at the end of a list form, and the items before them. -/
def splitOptions (items : List Value) : List Value × Entries :=
  match items.reverse with
  | .dictionary options :: others => (others.reverse, options)
  | _ => (items, [])

/-- The value of an optional item of a list form; null counts as absent. -/
def listed? (key : String) : Option Value → Entries
  | none => []
  | some .null => []
  | some value => [(.text key, value)]

/-- Reads a column definition. -/
def readColumn (value : Value) : Checked ColumnDefinition :=
  match value with
  | .text type => readColumnFields [(.text "type", .text type)]
  | .dictionary entries => readColumnFields entries
  | other => match itemsOf? other with
    | none => notModel "ColumnDefinition"
    | some [] => .refusedValue "column definition list is empty"
    | some items =>
      let (positional, options) := splitOptions items
      match positional with
      | [] => .faulty .badIndex "list index out of range"
      | [type] => assemble type none none options
      | [type, size] => assemble type (some size) none options
      | [type, size, length] => assemble type (some size) (some length) options
      | _ => .refusedValue
        "column definition list takes at most type, size, length and options"
where
  /-- The fields of a list form; options may replace what stands before them. -/
  assemble (type : Value) (size length : Option Value) (options : Entries) :
      Checked ColumnDefinition :=
    let given := (.text "type", type) :: listed? "size" size ++ listed? "length" length
    readColumnFields (options.foldl Value.dictionaryOf.put given)

/-- Reads the fields of a key reference. -/
def readKeyReferenceFields (entries : Entries) : Checked KeyReference :=
  modelOf [{ name := "table" }, { name := "columns" }] entries
    (KeyReference.mk
      <$> required entries { name := "table" } readFullText
      <*> required entries { name := "columns" } (fun value =>
        readFullList readText (wrapped value)))

/-- Reads a key reference. -/
def readKeyReference : Value → Checked KeyReference
  | .dictionary entries => readKeyReferenceFields entries
  | _ => notModel "KeyReference"

/-- INDEX is another word for KEY. -/
def keySpelling (value : Value) : Value :=
  match normalSpelling value with
  | .text "INDEX" => .text "KEY"
  | spelling => spelling

/-- Reads a referential action. -/
def readAction (value : Value) : Checked (Option String) :=
  (nullable readText value).andThen fun action? => match action? with
    | none => .accepted none
    | some action =>
      let normalized := Text.collapsed (Text.upper action)
      if referentialActions.contains normalized then .accepted (some normalized)
      else .refusedValue ("referential action must be one of " ++ Text.listed referentialActions)

/-- The keys of a key definition. -/
def keyKeys : List Key :=
  [{ name := "type" }, { name := "columns" }, { name := "name", keyword := "NAME" },
   { name := "references", keyword := "REFERENCES" },
   { name := "on_delete", keyword := "ON DELETE" },
   { name := "on_update", keyword := "ON UPDATE" }]

/-- Reads the fields of a key definition. -/
def readKeyFields (entries : Entries) : Checked KeyDefinition :=
  modelOf keyKeys entries
    (KeyDefinition.mk
      <$> required entries { name := "type" } (fun value =>
        readSpelling (KeyType.all.map KeyType.spelling) KeyType.ofSpelling? (keySpelling value))
      <*> required entries { name := "columns" } (fun value =>
        readFullList readText (wrapped value))
      <*> optional entries { name := "name", keyword := "NAME" } none (nullable readFullText)
      <*> optional entries { name := "references", keyword := "REFERENCES" } none
        (nullable readKeyReference)
      <*> optional entries { name := "on_delete", keyword := "ON DELETE" } none readAction
      <*> optional entries { name := "on_update", keyword := "ON UPDATE" } none readAction)
    KeyDefinition.refusal?

/-- Reads a key definition. -/
def readKey (value : Value) : Checked KeyDefinition :=
  match value with
  | .dictionary entries => readKeyFields entries
  | other => match itemsOf? other with
    | none => notModel "KeyDefinition"
    | some items =>
      let (positional, options) := splitOptions items
      match positional with
      | [type, columns] =>
        readKeyFields (options.foldl Value.dictionaryOf.put
          [(.text "type", type), (.text "columns", columns)])
      | _ => .refusedValue "key definition list must be [type, columns, \x7boptions\x7d]"

end PortableSql.Payload
