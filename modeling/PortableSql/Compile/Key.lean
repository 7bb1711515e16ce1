import PortableSql.Dialect.Quotation
import PortableSql.Sql.Statement

/-!
# Key definitions in a dialect

A key of a new table is declared inside it, added by a statement of its own, or left out, as the
dialect allows. A key without a name gets one from its table and its columns.
-/

namespace PortableSql

/-- What becomes of a key of a new table. -/
inductive KeyPlacement where
  /-- It is declared inside the table. -/
  | inline (sql : String)
  /-- It is added by a statement of its own. -/
  | deferred
  /-- The dialect has no such keys. -/
  | unsupported

/-- The characters of generated names. -/
def isSafe (character : Char) : Bool :=
  character.isAlphanum || character = '_'

/-- Every run of characters that are not safe becomes one underscore; `skipped` says that the
last character belonged to such a run. -/
def safeFrom (skipped : Bool) : List Char → List Char
  | [] => []
  | character :: rest =>
    if isSafe character then character :: safeFrom false rest
    else if skipped then safeFrom true rest
    else '_' :: safeFrom true rest

/-- The first characters, up to a length; a negative length counts from the end. -/
def cutTo (length : Int) (characters : List Char) : List Char :=
  if 0 ≤ length then characters.take length.toNat
  else characters.take (characters.length - length.natAbs)

/-- The name of a key: its own, or one made of its table and its columns. -/
def indexName (dialect : Dialect) (table : String) (key : KeyDefinition) : String :=
  match key.name with
  | some name => if name.isEmpty then generated else name
  | none => generated
where
  /-- The name made of the last part of the table's name and the columns. -/
  generated : String :=
    let start := if key.type = .foreign then "fk" else "idx"
    let base := (Text.lastPart table).toList.dropWhile (· = '#')
    let long := start.toList ++ '_' :: base ++ '_' :: ("_".intercalate key.columns).toList
    String.ofList (cutTo dialect.table.maxIdentifierLength (safeFrom false long))

/-- Columns between quotes. -/
def keyColumns (dialect : Dialect) (columns : List String) : Reporting String := do
  pure (Text.listed (← dialect.quoteIdentifiers columns))

/-- An option of a foreign key. -/
def keyAction (words : String) : Option String → String
  | none => ""
  | some action => if action.isEmpty then "" else words ++ action

/-- The target of a foreign key and its actions. -/
def keyTarget (dialect : Dialect) (key : KeyDefinition) : Reporting String :=
  match key.references with
  | none => pure ""
  | some target => do
    let table ← dialect.quoteIdentifier target.table
    let columns ← keyColumns dialect target.columns
    pure ("REFERENCES " ++ table ++ " (" ++ columns ++ ")" ++
      keyAction " ON DELETE " key.onDelete ++ keyAction " ON UPDATE " key.onUpdate)

/-- The beginning of a constraint with a name. -/
def constraintName (dialect : Dialect) : Option String → Reporting String
  | none => pure ""
  | some name =>
    if name.isEmpty then pure ""
    else do pure ("CONSTRAINT " ++ (← dialect.quoteIdentifier name) ++ " ")

/-- A key as a table declares it. -/
def inlineKey (dialect : Dialect) (table : String) (key : KeyDefinition) : Reporting String := do
  let columns ← keyColumns dialect key.columns
  let altering := dialect.table.indexStatementStyle = .alterTable
  match key.type with
  | .primary => do
    let constraint ← constraintName dialect (if altering then none else key.name)
    pure (constraint ++ "PRIMARY KEY (" ++ columns ++ ")")
  | .foreign => do
    let constraint ← constraintName dialect key.name
    let target ← keyTarget dialect key
    pure (constraint ++ "FOREIGN KEY (" ++ columns ++ ") " ++ target)
  | type => do
    let name ← dialect.quoteIdentifier (indexName dialect table key)
    pure (match type with
      | .unique =>
        if altering then "UNIQUE KEY " ++ name ++ " (" ++ columns ++ ")"
        else "CONSTRAINT " ++ name ++ " UNIQUE (" ++ columns ++ ")"
      | .fulltext => "FULLTEXT KEY " ++ name ++ " (" ++ columns ++ ")"
      | _ => "KEY " ++ name ++ " (" ++ columns ++ ")")

/-- Where a key of a new table goes. -/
def placeKey (dialect : Dialect) (table : String) (key : KeyDefinition) :
    Reporting KeyPlacement :=
  if dialect.table.inlineKeys.contains key.type then do
    pure (.inline (← inlineKey dialect table key))
  else if dialect.table.separateKeys.contains key.type then pure .deferred
  else pure .unsupported

/-- The statement that adds a key to a table, if the dialect has such keys. -/
def addKey (dialect : Dialect) (table : String) (key : KeyDefinition) :
    Reporting (Option Statement) := do
  if !dialect.table.separateKeys.contains key.type then pure none
  else
    let quotedTable ← dialect.quoteIdentifier table
    if dialect.table.indexStatementStyle = .alterTable || key.type = .primary ||
        key.type = .foreign then
      let clause ← inlineKey dialect table key
      pure (some { sql := "ALTER TABLE " ++ quotedTable ++ " ADD " ++ clause })
    else
      let name ← dialect.quoteIdentifier (indexName dialect table key)
      let columns ← keyColumns dialect key.columns
      let unique := if key.type = .unique then "UNIQUE " else ""
      pure (some { sql := "CREATE " ++ unique ++ "INDEX " ++ name ++ " ON " ++ quotedTable ++
        " (" ++ columns ++ ")" })

/-- The parts of a dotted name before the last one. -/
def qualifiers (name : String) : List String := (Text.parts '.' name).dropLast

/-- The statement that removes an index. Where indexes are named apart from tables, an index
takes the qualifiers of its table. -/
def dropKey (dialect : Dialect) (table name : String) : Reporting Statement := do
  if dialect.table.dropIndexOnTable then
    let index ← dialect.quoteIdentifier name
    let quotedTable ← dialect.quoteIdentifier table
    pure { sql := "DROP INDEX " ++ index ++ " ON " ++ quotedTable }
  else
    let index ← dialect.quoteIdentifier (".".intercalate (qualifiers table ++ [name]))
    pure { sql := "DROP INDEX " ++ index }

end PortableSql
