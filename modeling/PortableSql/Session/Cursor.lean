import PortableSql.Server.Basic
import PortableSql.Sql.Statement

/-!
# Cursors

A cursor hands out the rows of a plan. Rows that are given with the plan come first; otherwise the
rows of the last result are read one by one, or all at once when they are reshaped. Then the row
filter leaves rows out, and the export notes how each column is bound. The result is closed as
soon as its last row was asked for, or when the cursor is freed.
-/

namespace PortableSql

/-- Where the next row comes from. -/
inductive RowSource where
  /-- There is no further row. -/
  | exhausted
  | given (rows : List Row)
  /-- Rows are read from the result. -/
  | result

/-- What a row filter still does: rows to leave out, and the most rows to pass on after them. -/
structure Window where
  skip : Nat := 0
  left : Option Nat := none
deriving DecidableEq, Repr

/-- The rows of a plan that are not handed out yet, and what is known of those that are. -/
structure Cursor where
  plan : Plan
  result? : Option ResultSet := none
  source : RowSource := .result
  window? : Option Window := none
  /-- How each column that was handed out is bound, for exports with hints. -/
  hints : List (String × ValueKind) := []
  /-- The cursor takes no further rows from its result. -/
  isFreed : Bool := false
  /-- How often the result was closed. -/
  closings : Nat := 0

/-- Reading from a cursor; it may fail, and what was read remains read. -/
abbrev Reading (α : Type) := ExceptT Failure (StateM Cursor) α

/-- The tail of both messages about the bounds of a row filter. -/
def boundsRule : String := "must be None or an integer: 0 <= x <= sys.maxsize."

/-- The window of a row filter. The end is checked before the beginning. -/
def RowFilter.window (filter : RowFilter) : Except Failure Window :=
  match filter.take with
  | none => if misplaced filter.skip then badStart else .ok { skip := filter.skip.toNat }
  | some take =>
    let stop := filter.skip + take
    if stop = -1 || stop < -Value.greatestIndex - 1 || Value.greatestIndex < stop then
      .error (.fault .badValue ("Stop argument for islice() " ++ boundsRule))
    else if stop < 0 || misplaced filter.skip then badStart
    else .ok { skip := filter.skip.toNat, left := some (stop - filter.skip).toNat }
where
  /-- The number is no index. -/
  misplaced (number : Int) : Bool := number < 0 || Value.greatestIndex < number
  /-- The beginning is no index. -/
  badStart : Except Failure Window :=
    .error (.fault .badValue ("Indices for islice() " ++ boundsRule))

/-- Notes how a column is bound: the first value that is not null decides. -/
def noteHint (hints : List (String × ValueKind)) (column : String) (value : Value) :
    List (String × ValueKind) :=
  match hints.lookup column with
  | none | some .null => putEntry hints column (Parameter.usualKind value)
  | some _ => hints

namespace Cursor

/-- The number of rows that can still be read. -/
def remaining (cursor : Cursor) : Nat :=
  match cursor.source, cursor.result? with
  | .exhausted, _ => 0
  | .given rows, _ => rows.length
  | .result, some result => result.rows.length
  | .result, none => 0

/-- The number of rows that the statement concerned, or one below zero when it is not known. -/
def rowCount (cursor : Cursor) : Int :=
  match cursor.result?, cursor.plan.staticRows with
  | some result, _ => result.rowCount
  | none, some rows => rows.length
  | none, none => -1

/-- The names of the columns, as far as they are known before a row is read. -/
def columns (cursor : Cursor) : List String :=
  match cursor.plan.staticRows, cursor.result?, cursor.plan.reshape with
  | some (row :: _), _, _ => row.map Prod.fst
  | _, some result, none => result.columns
  | _, _, _ => []

/-- There is no further row; the result stays as it is. -/
def finish : Reading Unit := modify fun cursor => { cursor with source := .exhausted }

/-- Gives up the remaining rows and closes the result, once. -/
def free : Reading Unit := do
  let cursor ← get
  if cursor.isFreed then pure ()
  else
    set { cursor with source := .exhausted, isFreed := true }
    match cursor.result? with
    | none => pure ()
    | some result => do
      modify fun cursor => { cursor with closings := cursor.closings + 1 }
      match result.closeFault? with
      | none => pure ()
      | some failure => throw failure

/-- The next row of the source. A result whose rows end is closed. -/
def pull : Reading (Option Row) := do
  let cursor ← get
  match cursor.source, cursor.result? with
  | .given (row :: rest), _ => do
    set { cursor with source := RowSource.given rest }
    pure (some row)
  | .result, some result =>
    if result.returnsRows then
      match result.rows with
      | [] => do
        free
        pure none
      | .error failure :: rest => do
        set { cursor with result? := some { result with rows := rest }, source := .exhausted }
        throw failure
      | .ok row :: rest => do
        set { cursor with result? := some { result with rows := rest } }
        pure (some row)
    else do
      finish
      pure none
  | _, _ => do
    finish
    pure none

/-- The rows that a step gives one after the other, at most as many as asked for. -/
def collected (step : Reading (Option Row)) : Nat → Reading (List Row)
  | 0 => pure []
  | count + 1 => do
    match ← step with
    | none => pure []
    | some row => return row :: (← collected step count)

/-- Leaves rows out: whether there were as many. -/
def discard : Nat → Reading Bool
  | 0 => pure true
  | count + 1 => do
    match ← pull with
    | none => pure false
    | some _ => discard count

/-- The next row that the row filter passes on. When it has passed on as many as it may, the
result is not asked again. -/
def passed : Reading (Option Row) := do
  match (← get).window? with
  | none => pull
  | some window =>
    if ← discard window.skip then
      match window.left with
      | some 0 => do
        finish
        pure none
      | some (left + 1) => do
        modify fun cursor => { cursor with window? := some { left := some left } }
        pull
      | none => do
        modify fun cursor => { cursor with window? := some {} }
        pull
    else pure none

/-- A row as it is exported: buffers of any form become fixed bytes when rows are exported, and
how each column is bound is noted when hints are. -/
def exported (row : Row) : Reading Row := do
  let plan := (← get).plan
  if plan.exportHints then
    modify fun cursor => { cursor with
      hints := row.foldl (fun hints (column, value) => noteHint hints column value) cursor.hints }
  pure (if plan.exportRows then row.map fun (column, value) => (column, Parameter.settled value)
    else row)

/-- The next row, or none at the end. -/
def fetch : Reading (Option Row) := do
  match ← passed with
  | none => pure none
  | some row => some <$> exported row

/-- The next rows, at most as many as asked for. -/
def fetchMany (count : Nat) : Reading (List Row) := collected fetch count

/-- All rows that are left. -/
def fetchAll : Reading (List Row) := do
  fetchMany ((← get).remaining + 1)

/-- Frees the cursor after an effect, also when that fails. -/
def freeing {α : Type} (action : Reading α) : Reading α := do
  let outcome ← (fun cursor => let (outcome, next) := action cursor; (.ok outcome, next) :
    Reading (Except Failure α))
  free
  match outcome with
  | .ok value => pure value
  | .error failure => throw failure

/-- The names of the columns of some rows, in the order in which they are met. -/
def metColumns (rows : List Row) : List String :=
  (entriesOf (rows.flatMap fun row => row.map fun (column, _) => (column, ()))).map Prod.fst

/-- Reads all rows into a table: the names of its columns and the number of its rows. -/
def tableShape : Reading (List String × Nat) := do
  let known := (← get).columns
  let rows ← fetchAll
  let names := metColumns rows
  pure (if rows.isEmpty then (known, 0) else (names, if names.isEmpty then 0 else rows.length))

/-- Makes a new cursor ready: given rows come first, a reshape reads all rows, and the bounds of
the row filter are checked. -/
def prepare : Reading Unit := do
  let cursor ← get
  match cursor.plan.staticRows, cursor.plan.reshape with
  | some rows, _ => set { cursor with source := .given rows }
  | none, none => pure ()
  | none, some reshape => do
    let rows ← collected pull (cursor.remaining + 1)
    match (reshape rows).result with
    | .ok reshaped => modify fun cursor => { cursor with source := .given reshaped }
    | .error failure => throw failure
  match cursor.plan.rowFilter with
  | none => pure ()
  | some filter => match filter.window with
    | .ok window => modify fun cursor => { cursor with window? := some window }
    | .error failure => throw failure

/-- A new cursor on the last result of a plan: whether it is ready, and what became of it. -/
def start (plan : Plan) (result? : Option ResultSet) : Except Failure Unit × Cursor :=
  prepare { plan, result? }

end Cursor

end PortableSql
