import PortableSql.Payload.Definition
import PortableSql.Payload.Query

/-!
# Reading commands

A command is given as a tag, a payload and positional arguments. The payload is a dictionary of
clauses; some commands also accept a bare text, a list or a truth value. Collapsed clauses are
looked for before anything else, and what does not fit the model is reported with all its issues.
-/

namespace PortableSql.Payload

/-- The name of a table or another object. -/
def nameKey (name : String) : Key := { name }

/-- The clauses that restrict an update or a delete. -/
def restrictionKeys : List Key :=
  [{ name := "where_clause", keyword := "WHERE" }, { name := "order_by", keyword := "ORDER BY" },
   { name := "limit", keyword := "LIMIT" }]

/-- Reads a dictionary of columns with their values, or several of them; a value that is neither is
reported as failing to be either. -/
def readInsertValues (value : Value) : Checked InsertValues :=
  match readDictionary readAny value, readList (readDictionary readAny) value with
  | .accepted row, _ => .accepted (.row row)
  | _, .accepted rows => .accepted (.rows rows)
  | noRow, noRows =>
    match (noRow.inside "dict[str,any]").both fun _ => noRows.inside "list[dict[str,any]]" with
    | .rejected issues => .rejected issues
    | .broken failure earlier => .broken failure earlier
    | .accepted (row, _) => .accepted (.row row)

/-- Reads raw fragments by column. -/
def readFragments : Value → Checked (List (String × String)) := readDictionary readText

/-- Reads how values are bound, by column. -/
def readKinds : Value → Checked (List (String × ValueKind)) :=
  readDictionary (readSpelling (ValueKind.all.map ValueKind.spelling) ValueKind.ofSpelling?)

/-- Reads an insert. -/
def readInsert (entries : Entries) : Checked Insert :=
  modelOf
    (commonKeys ++ [nameKey "table", nameKey "values", nameKey "inline",
      { name := "auto_increment", keyword := "AUTO INCREMENT" }, nameKey "kinds",
      nameKey "columns", nameKey "select"])
    entries
    ((fun (_ : Unit) => Insert.mk)
      <$> repeatedTag .insert entries
      <*> readArgs entries none
      <*> required entries (nameKey "table") readFullText
      <*> optional entries (nameKey "values") none (nullable readInsertValues)
      <*> optional entries (nameKey "inline") [] readFragments
      <*> optional entries { name := "auto_increment", keyword := "AUTO INCREMENT" } none
        (nullable readText)
      <*> optional entries (nameKey "kinds") [] readKinds
      <*> optional entries (nameKey "columns") none (nullable (readList readText))
      <*> optional entries (nameKey "select") none (nullable readSelect))
    Insert.refusal?

/-- Reads the condition of an update or a delete. -/
def readCondition (entries : Entries) : Checked (Option String) :=
  optional entries { name := "where_clause", keyword := "WHERE" } none (nullable readText)

/-- Reads the ordering of an update or a delete. -/
def readOrdering (entries : Entries) : Checked (Option String) :=
  optional entries { name := "order_by", keyword := "ORDER BY" } none
    (fun value => nullable readText (joined value))

/-- Reads the limit of an update or a delete. -/
def readRowLimit (entries : Entries) : Checked (Option Limit) :=
  optional entries { name := "limit", keyword := "LIMIT" } none readLimit

/-- Reads an update. -/
def readUpdate (entries : Entries) : Checked Update :=
  modelOf
    (commonKeys ++ [nameKey "table", nameKey "values", nameKey "inline"] ++ restrictionKeys)
    entries
    ((fun (_ : Unit) => Update.mk)
      <$> repeatedTag .update entries
      <*> readArgs entries none
      <*> required entries (nameKey "table") readFullText
      <*> optional entries (nameKey "values") [] (readDictionary readAny)
      <*> optional entries (nameKey "inline") [] readFragments
      <*> readCondition entries
      <*> readOrdering entries
      <*> readRowLimit entries)
    Update.refusal?

/-- Reads a delete. -/
def readDelete (entries : Entries) : Checked Delete :=
  modelOf (commonKeys ++ [nameKey "table"] ++ restrictionKeys) entries
    ((fun (_ : Unit) => Delete.mk)
      <$> repeatedTag .delete entries
      <*> readArgs entries none
      <*> required entries (nameKey "table") readFullText
      <*> readCondition entries
      <*> readOrdering entries
      <*> readRowLimit entries)

/-- Reads the tables of a command; one name stands for the list of it. -/
def readTables (entries : Entries) : Checked (List String) :=
  required entries (nameKey "tables") fun value => readFullList readText (wrapped value)

/-- Reads the emptying of tables. -/
def readTruncateTable (entries : Entries) : Checked TruncateTable :=
  modelOf (commonKeys ++ [nameKey "tables"]) entries
    ((fun (_ : Unit) => TruncateTable.mk)
      <$> repeatedTag .truncateTable entries
      <*> readArgs entries none
      <*> readTables entries)

/-- Reads the setting of a variable. -/
def readSet (entries : Entries) : Checked SetVariable :=
  modelOf (commonKeys ++ [nameKey "statement"]) entries
    ((fun (_ : Unit) => SetVariable.mk)
      <$> repeatedTag .set entries
      <*> readArgs entries none
      <*> required entries (nameKey "statement") readFullText)

/-- Reads the selection of a database. -/
def readUse (entries : Entries) : Checked Use :=
  modelOf (commonKeys ++ [nameKey "database"]) entries
    ((fun (_ : Unit) => Use.mk)
      <$> repeatedTag .use entries
      <*> readArgs entries none
      <*> required entries (nameKey "database") readFullText)

/-- The characters of which the name of a character set or a collation consists. -/
def isCharsetCharacter (character : Char) : Bool :=
  character.isAlphanum || character = '_' || character = '.' || character = '-'

/-- A name of a character set or a collation; one line break may follow it. -/
def isCharset (name : String) : Bool :=
  let characters := name.toList
  let body := match characters.reverse with
    | '\n' :: others => others
    | others => others
  !body.isEmpty && body.all isCharsetCharacter

/-- Reads the name of a character set or a collation, which is written without quotes. -/
def readCharset (entries : Entries) (key : Key) : Checked (Option String) :=
  optional entries key none fun value =>
    (nullable readText value).checkedBy fun name? => match name? with
      | none => none
      | some name =>
        if isCharset name then none
        else some ("Invalid " ++ key.name ++ ": " ++ Text.quoted name)

/-- The keys of a character set and a collation. -/
def charsetKeys : List Key :=
  [{ name := "character_set", keyword := "CHARACTER SET" },
   { name := "collate", keyword := "COLLATE" }]

/-- Reads the creation of a database. -/
def readCreateDatabase (entries : Entries) : Checked CreateDatabase :=
  modelOf (commonKeys ++ [nameKey "name"] ++ charsetKeys) entries
    ((fun (_ : Unit) => CreateDatabase.mk)
      <$> repeatedTag .createDatabase entries
      <*> readArgs entries none
      <*> required entries (nameKey "name") readFullText
      <*> readCharset entries { name := "character_set", keyword := "CHARACTER SET" }
      <*> readCharset entries { name := "collate", keyword := "COLLATE" })

/-- Reads the removal of a database. -/
def readDropDatabase (entries : Entries) : Checked DropDatabase :=
  modelOf (commonKeys ++ [nameKey "name", nameKey "if_exists"]) entries
    ((fun (_ : Unit) => DropDatabase.mk)
      <$> repeatedTag .dropDatabase entries
      <*> readArgs entries none
      <*> required entries (nameKey "name") readFullText
      <*> optional entries (nameKey "if_exists") false readBool)

/-- Reads the creation of a table. -/
def readCreateTable (entries : Entries) : Checked CreateTable :=
  modelOf
    (commonKeys ++ [nameKey "name", nameKey "columns", nameKey "keys", nameKey "select",
      { name := "temporary", keyword := "TEMPORARY" }] ++ charsetKeys)
    entries
    ((fun (_ : Unit) => CreateTable.mk)
      <$> repeatedTag .createTable entries
      <*> readArgs entries none
      <*> required entries (nameKey "name") readFullText
      <*> optional entries (nameKey "columns") none (nullable (readDictionary readColumn))
      <*> optional entries (nameKey "keys") [] (readList readKey)
      <*> optional entries (nameKey "select") none (nullable readSelect)
      <*> optional entries { name := "temporary", keyword := "TEMPORARY" } false readBool
      <*> readCharset entries { name := "character_set", keyword := "CHARACTER SET" }
      <*> readCharset entries { name := "collate", keyword := "COLLATE" })
    CreateTable.refusal?

/-- Reads the removal of tables. -/
def readDropTable (entries : Entries) : Checked DropTable :=
  modelOf
    (commonKeys ++ [nameKey "tables", nameKey "if_exists",
      { name := "temporary", keyword := "TEMPORARY" }])
    entries
    ((fun (_ : Unit) => DropTable.mk)
      <$> repeatedTag .dropTable entries
      <*> readArgs entries none
      <*> readTables entries
      <*> optional entries (nameKey "if_exists") false readBool
      <*> optional entries { name := "temporary", keyword := "TEMPORARY" } false readBool)

/-- Reads the addition of a column. -/
def readAddColumn (entries : Entries) : Checked AddColumn :=
  modelOf
    (commonKeys ++ [nameKey "table", nameKey "name", nameKey "definition",
      { name := "first", keyword := "FIRST" }, { name := "after", keyword := "AFTER" }])
    entries
    ((fun (_ : Unit) => AddColumn.mk)
      <$> repeatedTag .addColumn entries
      <*> readArgs entries none
      <*> required entries (nameKey "table") readFullText
      <*> required entries (nameKey "name") readFullText
      <*> required entries (nameKey "definition") readColumn
      <*> optional entries { name := "first", keyword := "FIRST" } false readBool
      <*> optional entries { name := "after", keyword := "AFTER" } none (nullable readFullText))
    AddColumn.refusal?

/-- Reads the removal of a column. -/
def readDropColumn (entries : Entries) : Checked DropColumn :=
  modelOf (commonKeys ++ [nameKey "table", nameKey "name"]) entries
    ((fun (_ : Unit) => DropColumn.mk)
      <$> repeatedTag .dropColumn entries
      <*> readArgs entries none
      <*> required entries (nameKey "table") readFullText
      <*> required entries (nameKey "name") readFullText)

/-- Reads the addition of an index. -/
def readAddIndex (entries : Entries) : Checked AddIndex :=
  modelOf (commonKeys ++ [nameKey "table", nameKey "key"]) entries
    ((fun (_ : Unit) => AddIndex.mk)
      <$> repeatedTag .addIndex entries
      <*> readArgs entries none
      <*> required entries (nameKey "table") readFullText
      <*> required entries (nameKey "key") readKey)

/-- Reads the removal of an index. -/
def readDropIndex (entries : Entries) : Checked DropIndex :=
  modelOf (commonKeys ++ [nameKey "table", nameKey "name"]) entries
    ((fun (_ : Unit) => DropIndex.mk)
      <$> repeatedTag .dropIndex entries
      <*> readArgs entries none
      <*> required entries (nameKey "table") readFullText
      <*> required entries (nameKey "name") readFullText)

/-- Reads the listing of databases. -/
def readShowDatabases (entries : Entries) : Checked ShowDatabases :=
  modelOf commonKeys entries
    ((fun (_ : Unit) => ShowDatabases.mk)
      <$> repeatedTag .showDatabases entries
      <*> readArgs entries none)

/-- Reads the listing of tables. -/
def readShowTables (entries : Entries) : Checked ShowTables :=
  modelOf (commonKeys ++ [{ name := "full", keyword := "FULL" }]) entries
    ((fun (_ : Unit) => ShowTables.mk)
      <$> repeatedTag .showTables entries
      <*> readArgs entries none
      <*> optional entries { name := "full", keyword := "FULL" } false readBool)

/-- Reads the showing of a database. -/
def readShowCreateDatabase (entries : Entries) : Checked ShowCreateDatabase :=
  modelOf (commonKeys ++ [nameKey "name"]) entries
    ((fun (_ : Unit) => ShowCreateDatabase.mk)
      <$> repeatedTag .showCreateDatabase entries
      <*> readArgs entries none
      <*> required entries (nameKey "name") readFullText)

/-- Reads the showing of a table. -/
def readShowCreateTable (entries : Entries) : Checked ShowCreateTable :=
  modelOf (commonKeys ++ [nameKey "name"]) entries
    ((fun (_ : Unit) => ShowCreateTable.mk)
      <$> repeatedTag .showCreateTable entries
      <*> readArgs entries none
      <*> required entries (nameKey "name") readFullText)

/-- Reads the switching of integrity checks. -/
def readBulkImportMode (entries : Entries) : Checked BulkImportMode :=
  modelOf (commonKeys ++ [nameKey "enabled"]) entries
    ((fun (_ : Unit) => BulkImportMode.mk)
      <$> repeatedTag .bulkImportMode entries
      <*> readArgs entries none
      <*> optional entries (nameKey "enabled") true readBool)

/-- Reads the command that a tag selects. -/
def readCommand (tag : Tag) (entries : Entries) : Checked Command :=
  match tag with
  | .select => (readSelectFields entries none (nestedIn entries)).map .select
  | .insert => (readInsert entries).map .insert
  | .update => (readUpdate entries).map .update
  | .delete => (readDelete entries).map .delete
  | .truncateTable => (readTruncateTable entries).map .truncateTable
  | .set => (readSet entries).map .set
  | .use => (readUse entries).map .use
  | .createDatabase => (readCreateDatabase entries).map .createDatabase
  | .dropDatabase => (readDropDatabase entries).map .dropDatabase
  | .createTable => (readCreateTable entries).map .createTable
  | .dropTable => (readDropTable entries).map .dropTable
  | .addColumn => (readAddColumn entries).map .addColumn
  | .dropColumn => (readDropColumn entries).map .dropColumn
  | .addIndex => (readAddIndex entries).map .addIndex
  | .dropIndex => (readDropIndex entries).map .dropIndex
  | .showDatabases => (readShowDatabases entries).map .showDatabases
  | .showTables => (readShowTables entries).map .showTables
  | .showCreateDatabase => (readShowCreateDatabase entries).map .showCreateDatabase
  | .showCreateTable => (readShowCreateTable entries).map .showCreateTable
  | .bulkImportMode => (readBulkImportMode entries).map .bulkImportMode

/-- Text keys only, and none that stands for the model itself. -/
def keyFault? (entries : Entries) : Option Failure :=
  if entries.any fun (key, _) => match key with
      | .text _ => false
      | _ => true
  then some (.fault .badType "keywords must be strings")
  else if (valueOf? "cls" entries).isSome then
    some (.fault .badType "BaseCommand.create() got multiple values for argument 'cls'")
  else none

/-- The command of a payload that is a dictionary of clauses. -/
def create (tag : Tag) (entries : Entries) : Reporting Command := do
  match keyFault? entries with
  | some fault => throw fault
  | none => pure ()
  match collapsedIn? tag.modelName entries with
  | some report => .raise report
  | none => pure ()
  match readCommand tag entries with
  | .accepted command => pure command
  | .broken failure earlier =>
    modify fun records => records ++ earlier
    throw failure
  | .rejected issues =>
    modify fun records => records ++ Checked.issueRecords issues
    .raise (.validation
      ("Invalid " ++ tag.modelName ++ " payload: " ++ describeIssues issues))

/-- The field that a bare text stands for. -/
def textField? : Tag → Option String
  | .set => some "statement"
  | .use => some "database"
  | .createDatabase | .dropDatabase | .showCreateDatabase | .showCreateTable => some "name"
  | .truncateTable | .dropTable => some "tables"
  | _ => none

/-- The commands whose list stands for their tables. -/
def listsTables : Tag → Bool
  | .truncateTable | .dropTable => true
  | _ => false

/-- The commands whose list stands for a table and a name. -/
def listsPair : Tag → Bool
  | .dropIndex | .dropColumn => true
  | _ => false

/-- The clauses that a payload of another shape stands for. -/
def clausesOf (tag : Tag) (payload : Value) : Reporting Entries :=
  match payload with
  | .null => pure []
  | .dictionary entries => pure entries
  | .text _ => match textField? tag with
    | some field => pure [(.text field, payload)]
    | none => unsupported
  | .list items => fromList items
  | .tuple items => fromList items
  | .bool _ => match tag with
    | .bulkImportMode => pure [(.text "enabled", payload)]
    | _ => unsupported
  | _ => unsupported
where
  /-- A shape that the command does not accept. -/
  unsupported : Reporting Entries :=
    .raise (.validation ("Unsupported payload shape for " ++ tag.spelling ++ ": " ++
      payload.typeName) "" payload)
  /-- A list in place of the clauses. -/
  fromList (items : List Value) : Reporting Entries :=
    if listsTables tag then pure [(.text "tables", .list items)]
    else if listsPair tag then
      match items with
      | [table, name] => pure [(.text "table", table), (.text "name", name)]
      | _ => .raise (.validation (tag.spelling ++ " payload must be [table, name]") "" payload)
    else unsupported

/-- A payload: a value, or a command that is built already. -/
inductive Source where
  | value (payload : Value)
  | built (command : Command)

instance : Inhabited Source := ⟨.value .null⟩

/-- Builds a command from a tag, a payload and positional arguments. Arguments given beside a
payload take the place of those in it. -/
def parse (tag : Tag.Source) (payload : Source) (args : List Value) : Reporting Command := do
  let tag ← Tag.resolve tag
  match payload with
  | .built command =>
    if command.tag ≠ tag then
      .raise (.validation
        (command.tag.modelName ++ " cannot be issued as " ++ tag.spelling) "command")
    else if args.isEmpty then pure command
    else pure (command.withArgs args)
  | .value payload =>
    let clauses ← clausesOf tag payload
    create tag (if args.isEmpty then clauses else putValue clauses "args" (.list args))

end PortableSql.Payload
