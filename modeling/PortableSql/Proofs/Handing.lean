import PortableSql.Proofs.Exporting
import PortableSql.Proofs.Limit

/-!
# Asking a cursor for rows in any way

A cursor is asked for one row, for the next row of an iteration or for all rows that are left, in
any order. The rows that it handed out and those that are left make up one list at any time: what
the row filter leaves of the rows of the plan, as they are exported. That list is computed here
without a cursor.

Every call takes rows from the front of what is left, so the law of one call carries over to all
sequences of calls.
-/

namespace PortableSql

/-! ## The rows of a plan -/

/-- The rows of a result, each of which may fail. What returns no rows has none. -/
def resultRows : Option ResultSet → List (Except Failure Row)
  | some result => if result.returnsRows then result.rows else []
  | none => []

/-- These are the rows of a result, and it is read to the end without failures. -/
structure ReadableAs (result? : Option ResultSet) (rows : List Row) : Prop where
  read : resultRows result? = rows.map .ok
  closes : ∀ result, result? = some result → result.closeFault? = none

/-- The rows that a plan begins with: those that it gives itself, or those of its result after the
reshape. -/
def Plan.sourceRows (plan : Plan) (rows : List Row) : Except Failure (List Row) :=
  match plan.staticRows, plan.reshape with
  | some given, _ => .ok given
  | none, some reshape => (reshape rows).result
  | none, none => .ok rows

/-- The rows that a row filter passes on. -/
def RowFilter.rows (filter : RowFilter) (rows : List Row) : List Row :=
  match filter.take with
  | none => rows.drop filter.skip.toNat
  | some take => (rows.drop filter.skip.toNat).take take.toNat

/-- A row filter begins and ends at positions that can be counted. -/
structure RowFilter.Bounded (filter : RowFilter) : Prop where
  begins : 0 ≤ filter.skip
  countable : filter.skip ≤ Value.greatestIndex
  ends : ∀ take, filter.take = some take → 0 ≤ take ∧ filter.skip + take ≤ Value.greatestIndex

/-- The rows that the row filter of a plan passes on. -/
def Plan.filteredRows (plan : Plan) (rows : List Row) : List Row :=
  plan.rowFilter.elim rows fun filter => filter.rows rows

/-- The window of a row filter whose bounds can be counted. -/
theorem RowFilter.Bounded.window {filter : RowFilter} (bounded : filter.Bounded) :
    filter.window = .ok { skip := filter.skip.toNat, left := filter.take.map Int.toNat } := by
  obtain ⟨skip, take⟩ := filter
  obtain ⟨begins, countable, ends⟩ := bounded
  dsimp only at begins countable ends
  cases take with
  | none =>
    have placed : ¬(skip < 0 ∨ Value.greatestIndex < skip) := by omega
    simp [RowFilter.window, RowFilter.window.misplaced, placed]
  | some take =>
    obtain ⟨counts, within⟩ := ends take rfl
    rw [window_of_limit begins counts, if_pos within]
    rfl

/-- The window of a row filter holds the rows that the row filter passes on. -/
theorem RowFilter.window_rows (filter : RowFilter) (rows : List Row) :
    Window.rows { skip := filter.skip.toNat, left := filter.take.map Int.toNat } rows =
      filter.rows rows := by
  unfold Window.rows RowFilter.rows
  cases filter.take <;> rfl

/-! ## Hints of columns -/

/-- The values of a column in some rows, from the first to the last. -/
def columnValues (column : String) (rows : List Row) : List Value :=
  (rows.flatten.filter (·.1 = column)).map Prod.snd

/-- The hint of a column with these values; without values there is none. -/
def hintOf : List Value → Option ValueKind
  | [] => none
  | values => some (firstKind values)

/-- Exporting a row leaves what it notes. -/
theorem noteRow_exportedRow (plan : Plan) (hints : List (String × ValueKind)) (row : Row) :
    noteRow hints (plan.exportedRow row) = noteRow hints row := by
  have same : ∀ (known : List (String × ValueKind)) column value,
      noteHint known column (Parameter.settled value) = noteHint known column value := by
    intro known column value
    unfold noteHint
    rw [Parameter.usualKind_settled]
  unfold Plan.exportedRow noteRow
  split
  · rw [List.foldl_map]
    simp only [same]
  · rfl

/-- Rows note the values of their columns one after the other. -/
theorem lookup_noteRows_columnValues (hints : List (String × ValueKind)) (column : String)
    (rows : List Row) :
    (rows.foldl noteRow hints).lookup column =
      (columnValues column rows).foldl noted (hints.lookup column) := by
  have entries : ∀ (entries : Row) (known : List (String × ValueKind)),
      (noteRow known entries).lookup column =
        ((entries.filter (·.1 = column)).map Prod.snd).foldl noted (known.lookup column) := by
    intro entries
    induction entries with
    | nil => exact fun _ => rfl
    | cons entry rest inductionHypothesis =>
      intro known
      change (noteRow (noteHint known entry.1 entry.2) rest).lookup column = _
      rw [inductionHypothesis]
      by_cases same : entry.1 = column
      · subst same
        simp [lookup_noteHint]
      · rw [lookup_noteHint_of_ne known column entry.2 (Ne.symm same)]
        simp [same]
  have joined : rows.foldl noteRow hints = noteRow hints rows.flatten := by
    unfold noteRow
    rw [List.foldl_flatten]
  rw [joined, entries]
  rfl

/-- The hints of rows are those of their columns. -/
theorem lookup_hints (column : String) (rows : List Row) :
    (rows.foldl noteRow []).lookup column = hintOf (columnValues column rows) := by
  rw [lookup_noteRows_columnValues]
  cases values : columnValues column rows with
  | nil => rfl
  | cons value rest => exact foldl_noted (List.cons_ne_nil value rest)

namespace Cursor

variable {cursor : Cursor} {rows : List Row}

/-! ## Making a cursor ready -/

/-- A source is read to its end by more pulls than it has rows. -/
theorem collected_pull (offers : cursor.Offers rows) (closes : cursor.Closes) {count : Nat}
    (enough : rows.length < count) :
    ∃ after, collected pull count cursor = (.ok rows, after) ∧ after.window? = cursor.window? ∧
      cursor.Follows after := by
  induction count generalizing cursor rows with
  | zero => cases enough
  | succ count inductionHypothesis =>
    rw [collected, Reading.bind_apply]
    cases rows with
    | nil =>
      obtain ⟨after, pulled, -, same, follows⟩ := pull_nil offers closes
      rw [pulled]
      exact ⟨after, rfl, same, follows⟩
    | cons row rest =>
      obtain ⟨between, pulled, offersRest, same, follows⟩ := pull_cons offers
      obtain ⟨after, collects, sameLater, following⟩ := inductionHypothesis offersRest
        (follows.closes closes) (Nat.lt_of_succ_lt_succ enough)
      rw [pulled]
      refine ⟨after, ?_, sameLater.trans same, follows.trans following⟩
      dsimp only
      rw [Reading.bind_apply, collects]
      rfl

/-- Before anything is read a cursor offers the rows of its result. -/
theorem offers_result (plan : Plan) {result? : Option ResultSet}
    (readable : ReadableAs result? rows) : Offers { plan, result? } rows := by
  have read := readable.read
  unfold Offers
  cases result? with
  | none => exact (List.map_eq_nil_iff.mp read.symm)
  | some result =>
    change (if result.returnsRows then result.rows else []) = _ at read
    dsimp only
    split at read
    case isTrue returns => simpa [returns] using read
    case isFalse silent => simpa [silent] using List.map_eq_nil_iff.mp read.symm

/-- A cursor that is ready: it holds what the row filter leaves, and noted nothing yet. -/
structure Ready (plan : Plan) (source : List Row) (cursor : Cursor) : Prop where
  holds : cursor.Holds (plan.filteredRows source)
  planned : cursor.plan = plan
  closes : cursor.Closes
  hints : cursor.hints = []

/-- A cursor whose source was made ready is ready once its row filter is applied. -/
theorem ready_filtered (cursor : Cursor) {plan : Plan} {source : List Row}
    (bounded : ∀ filter, plan.rowFilter = some filter → filter.Bounded) (same : cursor.plan = plan)
    (offers : cursor.Offers source) (fresh : cursor.window? = none) (closes : cursor.Closes)
    (unnoted : cursor.hints = []) :
    ∃ ready, (match plan.rowFilter with
      | none => pure ()
      | some filter => match filter.window with
        | .ok window => modify fun cursor => { cursor with window? := some window }
        | .error failure => throw failure : Reading Unit) cursor = (.ok (), ready) ∧
      Ready plan source ready := by
  cases filtered : plan.rowFilter with
  | none =>
    refine ⟨cursor, rfl, ⟨source, offers, ?_⟩, same, closes, unnoted⟩
    rw [fresh, Plan.filteredRows, filtered]
    rfl
  | some filter =>
    simp only [(bounded filter filtered).window]
    refine ⟨_, rfl, ⟨source, offers, ?_⟩, same, closes, unnoted⟩
    rw [Plan.filteredRows, filtered]
    exact filter.window_rows source

/-- A new cursor is ready, unless the reshape of its rows fails. -/
theorem start_ready {plan : Plan} {result? : Option ResultSet}
    (bounded : ∀ filter, plan.rowFilter = some filter → filter.Bounded)
    (readable : ReadableAs result? rows) :
    match plan.sourceRows rows with
    | .ok source => ∃ cursor, start plan result? = (.ok (), cursor) ∧ Ready plan source cursor
    | .error failure => (start plan result?).1 = .error failure := by
  have offers := offers_result plan readable
  have closes : Closes { plan, result? } := readable.closes
  unfold start prepare Plan.sourceRows
  rw [Reading.get_bind_apply]
  dsimp only
  cases plan.staticRows with
  | some given =>
    exact ready_filtered { plan, result?, source := .given given } bounded rfl rfl rfl closes rfl
  | none =>
    cases plan.reshape with
    | none => exact ready_filtered { plan, result? } bounded rfl offers rfl closes rfl
    | some reshape =>
      have enough := (Holds.length_le ⟨rows, offers, rfl⟩ :
        rows.length ≤ remaining { plan, result? })
      obtain ⟨after, collects, fresh, follows⟩ :=
        collected_pull offers closes (Nat.lt_succ_of_le enough)
      have unnoted := collected_keeps (Reading.keepsHints_iff.mp pull_keepsHints [])
        (remaining { plan, result? } + 1) { plan, result? } rfl
      dsimp only
      rw [collects] at unnoted
      rw [Reading.bind_apply, collects]
      dsimp only
      cases reshaped : (reshape rows).result with
      | error failure => rfl
      | ok source =>
        exact ready_filtered { after with source := .given source } bounded follows.plan rfl fresh
          (follows.closes closes) unnoted

/-! ## Calls -/

/-- A way to ask a cursor for rows, or to give them up. -/
inductive Call where
  | fetch
  /-- One step of an iteration. -/
  | next
  | fetchAll
  | free
deriving DecidableEq

/-- The rows that a call answers; there are none when it says that the rows are exhausted. -/
def Call.run : Call → Reading (List Row)
  | fetch => do pure (← Cursor.fetch).toList
  | next => fetchMany 1
  | fetchAll => Cursor.fetchAll
  | free => do
    Cursor.free
    pure []

/-- Of the rows that are left, those that a call takes. -/
def Call.taken : Call → List Row → List Row
  | fetch, left | next, left => left.take 1
  | fetchAll, left => left
  | free, _ => []

/-- The rows that calls answer, one call after the other, and the cursor behind them. A call that
fails answers none. -/
def called (cursor : Cursor) : List Call → List Row × Cursor
  | [] => ([], cursor)
  | call :: rest =>
    ((call.run cursor).1.toOption.getD [] ++ (called (call.run cursor).2 rest).1,
      (called (call.run cursor).2 rest).2)

/-- Whatever a cursor is asked next, it answers from these rows. -/
structure Leaves (cursor : Cursor) (left : List Row) : Prop where
  fetch : (Cursor.fetch cursor).1 = .ok left.head?
  next : (fetchMany 1 cursor).1 = .ok (left.take 1)
  all : (Cursor.fetchAll cursor).1 = .ok left

/-- The cursor has taken these rows from those that it held, and noted them if it exports hints. -/
structure Took (before after : Cursor) (taken left : List Row) : Prop where
  follows : before.Follows after
  holds : after.Holds left
  noted : before.plan.exportHints = true → after.hints = taken.foldl noteRow before.hints

/-- Fetching takes the first row, if there is one. -/
theorem fetch_took (holds : cursor.Holds rows) (closes : cursor.Closes) :
    ∃ after, fetch cursor = (.ok (rows.head?.map cursor.plan.exportedRow), after) ∧
      cursor.Took after (rows.take 1) (rows.drop 1) := by
  cases rows with
  | nil =>
    obtain ⟨after, fetched, holdsNone, follows⟩ := fetch_nil holds closes
    have kept := fetch_nil_hints holds closes
    rw [fetched] at kept
    exact ⟨after, fetched, follows, holdsNone, fun _ => kept⟩
  | cons row rest =>
    obtain ⟨after, fetched, holdsRest, follows⟩ := fetch_cons holds
    refine ⟨after, fetched, follows, holdsRest, fun exports => ?_⟩
    have noted := fetch_cons_hints exports holds
    rwa [fetched] at noted

/-- Fetching several rows takes the first ones. -/
theorem fetchMany_took (holds : cursor.Holds rows) (closes : cursor.Closes) (count : Nat) :
    ∃ after, fetchMany count cursor = (.ok ((rows.take count).map cursor.plan.exportedRow), after) ∧
      cursor.Took after (rows.take count) (rows.drop count) := by
  induction count generalizing cursor rows with
  | zero => exact ⟨cursor, rfl, .refl cursor, holds, fun _ => rfl⟩
  | succ count inductionHypothesis =>
    unfold fetchMany at inductionHypothesis ⊢
    obtain ⟨between, fetched, first⟩ := fetch_took holds closes
    rw [collected, Reading.bind_apply, fetched]
    cases rows with
    | nil => exact ⟨between, rfl, first⟩
    | cons row rest =>
      obtain ⟨after, collects, others⟩ :=
        inductionHypothesis first.holds (first.follows.closes closes)
      refine ⟨after, ?_, first.follows.trans others.follows, others.holds, fun exports => ?_⟩
      · dsimp only [List.head?_cons, Option.map_some]
        rw [Reading.bind_apply, collects, first.follows.plan]
        rfl
      · rw [others.noted (first.follows.plan ▸ exports), first.noted exports]
        rfl

/-- Fetching all rows leaves none. -/
theorem fetchAll_took (holds : cursor.Holds rows) (closes : cursor.Closes) :
    ∃ after, fetchAll cursor = (.ok (rows.map cursor.plan.exportedRow), after) ∧
      cursor.Took after rows [] := by
  have many := fetchMany_took holds closes (cursor.remaining + 1)
  rwa [List.take_of_length_le (Nat.le_succ_of_le holds.length_le),
    List.drop_eq_nil_of_le (Nat.le_succ_of_le holds.length_le)] at many

/-- A call takes rows from the front of those that the cursor holds. -/
theorem Call.run_took (holds : cursor.Holds rows) (closes : cursor.Closes) {call : Call}
    (asks : call ≠ .free) :
    ∃ after left, call.run cursor = (.ok ((call.taken rows).map cursor.plan.exportedRow), after) ∧
      call.taken rows ++ left = rows ∧ cursor.Took after (call.taken rows) left := by
  cases call with
  | free => exact absurd rfl asks
  | fetch =>
    obtain ⟨after, fetched, took⟩ := fetch_took holds closes
    refine ⟨after, rows.drop 1, ?_, List.take_append_drop 1 rows, took⟩
    rw [run, Reading.bind_apply, fetched]
    cases rows <;> rfl
  | next =>
    obtain ⟨after, fetched, took⟩ := fetchMany_took holds closes 1
    exact ⟨after, rows.drop 1, fetched, List.take_append_drop 1 rows, took⟩
  | fetchAll =>
    obtain ⟨after, fetched, took⟩ := fetchAll_took holds closes
    exact ⟨after, [], fetched, List.append_nil rows, took⟩

/-- Calls take rows from the front of those that the cursor holds. -/
theorem called_took (holds : cursor.Holds rows) (closes : cursor.Closes) {calls : List Call}
    (asks : Call.free ∉ calls) :
    ∃ taken left, taken ++ left = rows ∧
      (cursor.called calls).1 = taken.map cursor.plan.exportedRow ∧
      cursor.Took (cursor.called calls).2 taken left := by
  induction calls generalizing cursor rows with
  | nil => exact ⟨[], rows, rfl, rfl, .refl cursor, holds, fun _ => rfl⟩
  | cons call rest inductionHypothesis =>
    rw [List.mem_cons, not_or] at asks
    obtain ⟨between, left, ran, split, first⟩ := Call.run_took holds closes (Ne.symm asks.1)
    obtain ⟨others, last, splitLater, answers, later⟩ :=
      inductionHypothesis first.holds (first.follows.closes closes) asks.2
    refine ⟨call.taken rows ++ others, last, ?_, ?_⟩
    · rw [List.append_assoc, splitLater, split]
    rw [called, ran]
    refine ⟨?_, first.follows.trans later.follows, later.holds, fun exports => ?_⟩
    · rw [answers, first.follows.plan, List.map_append]
      rfl
    · dsimp only
      rw [later.noted (first.follows.plan ▸ exports), first.noted exports, List.foldl_append]

/-- A cursor answers from the rows that it holds, as they are exported. -/
theorem Holds.leaves (holds : cursor.Holds rows) (closes : cursor.Closes) :
    cursor.Leaves (rows.map cursor.plan.exportedRow) where
  fetch := by
    obtain ⟨after, fetched, -⟩ := fetch_took holds closes
    rw [fetched, List.head?_map]
  next := by
    obtain ⟨after, fetched, -⟩ := fetchMany_took holds closes 1
    rw [fetched, List.map_take]
  all := fetchAll_eq holds closes

/-- How a cursor of a plan stands when it has handed out some rows and others are left. -/
structure Stands (plan : Plan) (handed left : List Row) (cursor : Cursor) : Prop where
  leaves : cursor.Leaves left
  /-- Exhausted rows stay exhausted. -/
  ended : left = [] → ∀ calls, Call.free ∉ calls → (cursor.called calls).2.Leaves []
  hints : plan.exportHints = true →
    ∀ column, cursor.hints.lookup column = hintOf (columnValues column handed)

/-- A ready cursor that was asked in any way has handed out the first of the exported rows, and
answers from the others. -/
theorem Ready.called {plan : Plan} {source : List Row} (ready : Ready plan source cursor)
    {calls : List Call} (asks : Call.free ∉ calls) :
    ∃ left, (cursor.called calls).1 ++ left = (plan.filteredRows source).map plan.exportedRow ∧
      Stands plan (cursor.called calls).1 left (cursor.called calls).2 := by
  obtain ⟨taken, left, split, answers, took⟩ := called_took ready.holds ready.closes asks
  have closes := took.follows.closes ready.closes
  have planned := took.follows.plan.trans ready.planned
  have leaves := took.holds.leaves closes
  rw [ready.planned] at answers
  rw [planned] at leaves
  refine ⟨left.map plan.exportedRow, ?_, leaves, fun nothing more others => ?_, fun exports => ?_⟩
  · rw [answers, ← List.map_append, split]
  · rw [List.map_eq_nil_iff] at nothing
    subst nothing
    obtain ⟨_, rest, none, -, later⟩ := called_took took.holds closes others
    rw [(List.append_eq_nil_iff.mp none).2] at later
    exact later.holds.leaves (later.follows.closes closes)
  · have noted := took.noted (ready.planned ▸ exports)
    intro column
    rw [noted, ready.hints, answers, ← lookup_hints, List.foldl_map]
    simp only [noteRow_exportedRow]

/-- Whatever is asked of a new cursor, call by call, it hands out the rows of its plan from the
first to the last: those that the plan gives itself, or the rows of its result after the reshape,
without the rows that the row filter leaves out, and as they are exported. It answers none once
they are exhausted, all of them when it is asked for all, and notes the columns of the rows that it
handed out.

Proof: a new cursor holds exactly what the row filter leaves of the rows that the plan begins with.
A call takes rows from the front of those that the cursor holds and notes them, so by induction on
the calls any number of calls does. -/
theorem start_called {plan : Plan} {result? : Option ResultSet} {source : List Row}
    (bounded : ∀ filter, plan.rowFilter = some filter → filter.Bounded)
    (readable : ReadableAs result? rows) (sourced : plan.sourceRows rows = .ok source) :
    ∃ cursor, start plan result? = (.ok (), cursor) ∧ ∀ calls, Call.free ∉ calls →
      ∃ left, (cursor.called calls).1 ++ left =
          (plan.filteredRows source).map plan.exportedRow ∧
        Stands plan (cursor.called calls).1 left (cursor.called calls).2 := by
  have started := start_ready bounded readable
  rw [sourced] at started
  obtain ⟨cursor, started, ready⟩ := started
  exact ⟨cursor, started, fun calls asks => ready.called asks⟩

/-- A plan that turns the rows around, leaves out the first one and exports the next two with their
hints. -/
def pagePlan : Plan where
  rowFilter := some { skip := 1, take := some 2 }
  reshape := some fun rows => pure rows.reverse
  exportRows := true
  exportHints := true

/-- Four rows, one of them with a null. -/
def pageRows : List Row :=
  [[("data", .int 0)], [("data", .null)], [("data", .binary .growable [7])], [("data", .int 1)]]

/-- A fetch, one step of an iteration and another fetch hand out both rows of the page and then
none. -/
theorem pageRows_called : ∃ cursor,
    start pagePlan (some { rows := pageRows.map .ok, returnsRows := true }) = (.ok (), cursor) ∧
      (cursor.called [.fetch, .next, .fetch]).1 =
        [[("data", .binary .fixed [7])], [("data", .null)]] ∧
      (cursor.called [.fetch, .next, .fetch]).2.hints.lookup "data" = some .binary := by
  have bounded : ∀ filter, pagePlan.rowFilter = some filter → filter.Bounded := by
    rintro _ ⟨⟩
    exact ⟨by decide, by decide, by rintro _ ⟨⟩; decide⟩
  have readable : ReadableAs (some { rows := pageRows.map .ok, returnsRows := true }) pageRows :=
    ⟨rfl, by rintro _ ⟨⟩; rfl⟩
  obtain ⟨cursor, started, reads⟩ := start_called bounded readable rfl
  refine ⟨cursor, started, ?_⟩
  obtain rfl := congrArg Prod.snd started
  obtain ⟨_, -, stands⟩ := reads [.fetch, .next, .fetch] (by decide)
  exact ⟨rfl, stands.hints rfl "data"⟩

end Cursor

end PortableSql
