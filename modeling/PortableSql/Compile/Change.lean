import PortableSql.Compile.Select

/-!
# Compiling changes of rows

Inserts are split into batches within the limits of the dialect. Updates and deletes keep their
conditions on every dialect; where rows to change cannot be ordered or limited, these clauses are
left out with a warning, since a cursor cannot make up for them.
-/

namespace PortableSql

/-- The placeholders of a text, outside its quoted spans. -/
def Dialect.placeholders (dialect : Dialect) (text : String) : Nat :=
  Sql.countPlaceholders dialect.table.quotedSpans text

/-- Refuses arguments for a command without placeholders. -/
def refuseArgs (tag : Tag) (args : List Value) : Reporting Unit :=
  if args.isEmpty then pure ()
  else .raise (.validation
    (tag.spelling ++ " takes no placeholder arguments, " ++ toString args.length ++ " given")
    "" .null .argumentMismatch)

/-- Refuses placeholders in a fragment that is written as it is. -/
def refusePlaceholders (dialect : Dialect) (column fragment : String) : Reporting Unit :=
  if dialect.placeholders fragment = 0 then pure ()
  else .raise (.validation
    ("inline value for " ++ Text.quoted column ++ " cannot contain ? placeholders") column)

/-- A list cut into pieces of `size` items, the last of which may be shorter. -/
def batches {α : Type} (size : Nat) : List α → List (List α)
  | [] => []
  | item :: rest => (item :: rest.take (size - 1)) :: batches size (rest.drop (size - 1))
termination_by items => items.length
decreasing_by
  simp only [List.length_drop, List.length_cons]
  omega

/-- Batches hold all items in their order. -/
theorem flatten_batches {α : Type} (size : Nat) (items : List α) :
    (batches size items).flatten = items := by
  fun_induction batches size items with
  | case1 => rfl
  | case2 item rest inductionHypothesis => simp [inductionHypothesis]

/-- The rows of an insert, batch by batch; a negative size leaves nothing to send. -/
def insertBatches (dialect : Dialect) (insert : Insert) : List (List Row) :=
  let size := dialect.table.insertBatchSize insert.valueColumns.length
  if size < 0 then []
  else batches (if size = 0 then insert.rows.length else size.toNat) insert.rows

/-- The parameters of one row. -/
def rowParameters (kinds : List (String × ValueKind)) (row : Row) : List Parameter :=
  row.map fun (column, value) => .infer value (kinds.lookup column)

/-- One row between parentheses: a placeholder for each value, then the fragments. -/
def rowGroup (fragments : List String) (row : Row) : String :=
  "(" ++ Text.listed (row.map (fun _ => "?") ++ fragments) ++ ")"

/-- The statement that inserts one batch. -/
def insertStatement (table : String) (names : List String) (insert : Insert) (rows : List Row) :
    Statement where
  sql := "INSERT INTO " ++ table ++ " (" ++ Text.listed names ++ ") VALUES " ++
    Text.listed (rows.map (rowGroup (insert.inline.map Prod.snd)))
  parameters := rows.flatMap (rowParameters insert.kinds)

/-- Compiles an insert. -/
def compileInsert (dialect : Dialect) (insert : Insert) : Reporting Plan := do
  refuseArgs .insert insert.args
  let table ← dialect.quoteIdentifier insert.table "table"
  match insert.select with
  | some select =>
    let statement ← compileNested dialect select
    let columns ← match insert.columns with
      | none | some [] => pure ""
      | some columns => do
        pure (" (" ++ Text.listed (← dialect.quoteIdentifiers columns) ++ ")")
    pure { statements := [{ statement with
      sql := "INSERT INTO " ++ table ++ columns ++ " " ++ statement.sql }] }
  | none =>
    for (column, fragment) in insert.inline do
      refusePlaceholders dialect column fragment
    let names ← dialect.quoteIdentifiers (insert.valueColumns ++ insert.inline.map Prod.fst)
    pure { statements :=
      (insertBatches dialect insert).map (insertStatement table names insert) }

/-- Why an update cannot be limited to the first rows after some others. -/
def offsetRefusal (tag : Tag) (limit : Option Limit) : Failure :=
  .validation (tag.spelling ++ " LIMIT does not accept an offset") "LIMIT"
    ((limit.map Limit.value).getD .null)

/-- The condition, order and limit of an update or a delete. -/
def emitRestrictions (dialect : Dialect) (tag : Tag) (condition ordering : Option String)
    (limit : Option Limit) : Emitting String := do
  let selected ← emitOptional dialect "WHERE" .value none condition
  let ordered ← emitOptional dialect "ORDER BY" .name none ordering
  let count? ← match ← resolveLimit limit with
    | none => pure none
    | some (offset, count) =>
      if offset = 0 then pure (some count) else Emitting.refuse (offsetRefusal tag limit)
  if dialect.table.updateLimit then do
    let limited ← match count? with
      | none => pure ""
      | some count => Emitting.ofExcept (limitSql 0 count)
    pure (selected ++ ordered ++ limited)
  else do
    if ordered.isEmpty && count?.isNone then pure ()
    else
      let warning : Log.Record := {
        level := .warning
        speaker := "sqlcommand.query_builder.base"
        message := tag.spelling ++ " ORDER BY/LIMIT ignored: " ++ dialect.name ++
          " cannot restrict " ++ tag.spelling
        fields := [("db.dialect", .text dialect.name), ("db.operation", .text tag.spelling)] }
      liftM (Reporting.log warning)
    pure selected

/-- Emits the assignment of a value: true stands for the default and false for null. -/
def emitAssignment (dialect : Dialect) (column : String) (value : Value) : Emitting String := do
  let quoted ← dialect.quoteIdentifier column
  match value with
  | .bool true =>
    if dialect.table.updateDefaultKeyword then pure (quoted ++ " = DEFAULT")
    else .refuse (.validation (dialect.name ++ " cannot reset " ++ Text.quoted column ++
      " to DEFAULT in an UPDATE") column)
  | .bool false => pure (quoted ++ " = NULL")
  | value => do
    Emitting.bind (.infer value)
    pure (quoted ++ " = ?")

/-- Emits the assignment of a fragment. -/
def emitFragment (dialect : Dialect) (column fragment : String) : Emitting String := do
  refusePlaceholders dialect column fragment
  pure ((← dialect.quoteIdentifier column) ++ " = " ++ fragment)

/-- Compiles an update. -/
def compileUpdate (dialect : Dialect) (update : Update) : Reporting Plan := do
  let statement ← Emitting.run update.args "UPDATE" do
    let values ← update.values.mapM fun (column, value) => emitAssignment dialect column value
    let fragments ← update.inline.mapM fun (column, fragment) =>
      emitFragment dialect column fragment
    let table ← dialect.quoteIdentifier update.table "table"
    let restrictions ←
      emitRestrictions dialect .update update.condition update.ordering update.limit
    pure ("UPDATE " ++ table ++ " SET " ++ Text.listed (values ++ fragments) ++ restrictions)
  pure { statements := [statement] }

/-- Compiles a delete. -/
def compileDelete (dialect : Dialect) (delete : Delete) : Reporting Plan := do
  let statement ← Emitting.run delete.args "DELETE" do
    let table ← dialect.quoteIdentifier delete.table "table"
    let restrictions ←
      emitRestrictions dialect .delete delete.condition delete.ordering delete.limit
    pure ("DELETE FROM " ++ table ++ restrictions)
  pure { statements := [statement] }

/-- A plan of texts without parameters. -/
def planOf (texts : List String) : Plan := { statements := texts.map fun sql => { sql } }

/-- Compiles the emptying of tables. -/
def compileTruncate (dialect : Dialect) (truncation : TruncateTable) : Reporting Plan := do
  refuseArgs .truncateTable truncation.args
  let tables ← dialect.quoteIdentifiers truncation.tables "table"
  if !dialect.table.truncateStatement then
    pure (planOf (tables.map ("DELETE FROM " ++ ·)))
  else if dialect.table.truncateMultiple then
    pure (planOf ["TRUNCATE TABLE " ++ Text.listed tables])
  else pure (planOf (tables.map ("TRUNCATE TABLE " ++ ·)))

end PortableSql
