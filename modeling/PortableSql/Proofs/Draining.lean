import PortableSql.Proofs.Handing

/-!
# Drained cursors

A cursor closes its result when it asks for a row behind the last one. The row filter decides how
many rows are asked for: with as many rows as it may take, it never asks for another one, so such a
result stays open until the cursor is freed. Neither does a cursor ask again behind a row that
cannot be read.

At any time the result is read, or it is settled whether it was closed. One step leads from reading
to reading or to what is settled, and nothing leads back.
-/

namespace PortableSql

/-! ## The end of a result -/

/-- The end of the rows is met when at most this many rows are asked for: each of them can be read,
and one more is asked for. -/
def MeetsEnd (rows : List (Except Failure Row)) (asked : Option Nat) : Prop :=
  (∀ row ∈ rows, ∃ found, row = .ok found) ∧ ∀ most, asked = some most → rows.length < most

/-- The most rows that a row filter asks for: those that it leaves out, and those that it takes. -/
def RowFilter.asked (filter : RowFilter) : Option Nat :=
  filter.take.map fun take => filter.skip.toNat + take.toNat

/-- The most rows that a plan asks its result for. A reshape asks for all of them. -/
def Plan.asked (plan : Plan) : Option Nat :=
  match plan.reshape with
  | none => plan.rowFilter.bind RowFilter.asked
  | some _ => none

/-- The most rows that a window still asks its source for. -/
def Window.asked (window : Window) : Option Nat := window.left.map (window.skip + ·)

section MeetsEnd

variable {rows : List (Except Failure Row)} {asked : Option Nat}

/-- The end is met when there are no rows and one is asked for. -/
theorem meetsEnd_nil : MeetsEnd [] (asked.map (· + 1)) := by
  refine ⟨fun _ member => (List.not_mem_nil member).elim, fun most same => ?_⟩
  obtain ⟨before, -, rfl⟩ := Option.map_eq_some_iff.mp same
  exact Nat.succ_pos before

/-- Reading a row leaves it open whether the end is met. -/
theorem meetsEnd_cons (row : Row) :
    MeetsEnd (.ok row :: rows) (asked.map (· + 1)) ↔ MeetsEnd rows asked := by
  unfold MeetsEnd
  cases asked <;> simp

/-- Behind a row that cannot be read, no row is asked for. -/
theorem not_meetsEnd_error (failure : Failure) : ¬MeetsEnd (.error failure :: rows) asked := by
  rintro ⟨readable, -⟩
  obtain ⟨_, wrong⟩ := readable _ List.mem_cons_self
  cases wrong

/-- Who asks for no row meets no end. -/
theorem not_meetsEnd_zero : ¬MeetsEnd rows (some 0) :=
  fun meets => Nat.not_lt_zero _ (meets.2 0 rfl)

end MeetsEnd

/-- The window of a row filter asks for as many rows as the row filter. -/
theorem RowFilter.asked_window {filter : RowFilter} {window : Window}
    (opened : filter.window = .ok window) : window.asked = filter.asked := by
  obtain ⟨skip, take⟩ := filter
  unfold RowFilter.window at opened
  cases take with
  | none =>
    dsimp only at opened
    split at opened
    · cases opened
    · cases opened
      rfl
  | some take =>
    dsimp only at opened
    split at opened
    · cases opened
    split at opened
    · cases opened
    · cases opened
      have left : skip + take - skip = take := by omega
      rw [left]
      rfl

namespace Cursor

/-! ## Stages of a cursor -/

/-- The most rows that a cursor still asks its source for. -/
def asked (cursor : Cursor) : Option Nat := cursor.window?.bind Window.asked

/-- The cursor takes nothing more from its result: it was closed, once, or it stays open. -/
structure Settled (closes : Prop) (cursor : Cursor) : Prop where
  away : cursor.source ≠ .result
  held : ∃ result, cursor.result? = some result
  freed : cursor.isFreed = true ↔ closes
  counted : cursor.closings = cursor.isFreed.toNat

/-- The cursor takes rows from its result, and closes it when it meets the end. -/
structure Reads (closes : Prop) (asked : Option Nat) (cursor : Cursor) : Prop where
  source : cursor.source = .result
  held : ∃ result, cursor.result? = some result ∧ result.returnsRows = true ∧
    (closes ↔ MeetsEnd result.rows asked)
  unfreed : cursor.isFreed = false
  counted : cursor.closings = 0

/-- The result is read, or it is settled what becomes of it. -/
def Stage (closes : Prop) (asked : Option Nat) (cursor : Cursor) : Prop :=
  cursor.Reads closes asked ∨ cursor.Settled closes

variable {cursor : Cursor} {closes : Prop} {asked : Option Nat}

/-- Freeing closes the result of a cursor that is not freed yet. -/
theorem free_held {result : ResultSet} (unfreed : cursor.isFreed = false)
    (held : cursor.result? = some result) :
    free cursor = (result.closeFault?.elim (.ok ()) .error, { cursor with
      source := .exhausted, isFreed := true, closings := cursor.closings + 1 }) := by
  obtain ⟨plan, result?, source, window?, hints, isFreed, closings⟩ := cursor
  obtain rfl : isFreed = false := unfreed
  obtain rfl : result? = some result := held
  unfold free
  rw [Reading.get_bind_apply]
  dsimp only
  cases result.closeFault? <;> rfl

/-- Freeing a cursor that counts as freed does nothing. -/
theorem free_freed (isFreed : cursor.isFreed = true) : free cursor = (.ok (), cursor) := by
  unfold free
  rw [Reading.get_bind_apply, isFreed]
  rfl

/-- Nothing that is read later changes what is settled. -/
theorem Settled.of_kept {after : Cursor} (settled : cursor.Settled closes)
    (away : after.source ≠ .result) (held : after.result? = cursor.result?)
    (freed : after.isFreed = cursor.isFreed) (counted : after.closings = cursor.closings) :
    after.Settled closes where
  away := away
  held := held ▸ settled.held
  freed := freed ▸ settled.freed
  counted := by rw [counted, freed, settled.counted]

/-- A cursor that stops reading before it meets the end leaves its result open. -/
theorem Reads.left {after : Cursor} (reads : cursor.Reads closes asked) (open' : ¬closes)
    (away : after.source ≠ .result) (held : ∃ result, after.result? = some result)
    (freed : after.isFreed = cursor.isFreed) (counted : after.closings = cursor.closings) :
    after.Settled closes where
  away := away
  held := held
  freed := by
    rw [freed, reads.unfreed]
    exact iff_of_false nofun open'
  counted := by
    rw [counted, freed, reads.unfreed, reads.counted]
    rfl

/-- Freeing closes a result, unless it was closed before. -/
theorem Stage.free (stage : cursor.Stage closes asked) : (free cursor).2.Settled True := by
  have closing : ∀ result, cursor.result? = some result → cursor.isFreed = false →
      cursor.closings = 0 → (Cursor.free cursor).2.Settled True := by
    intro result held unfreed counted
    rw [free_held unfreed held]
    exact ⟨nofun, ⟨result, held⟩, iff_of_true rfl trivial, congrArg (· + 1) counted⟩
  rcases stage with reads | settled
  · obtain ⟨result, held, -⟩ := reads.held
    exact closing result held reads.unfreed reads.counted
  · obtain ⟨result, held⟩ := settled.held
    cases freed : cursor.isFreed with
    | false => exact closing result held freed (settled.counted.trans (congrArg Bool.toNat freed))
    | true =>
      rw [free_freed freed]
      exact ⟨settled.away, settled.held, iff_of_true freed trivial, settled.counted⟩

/-! ## Steps -/

/-- What a step that gives at most one row comes to: a row fewer remains, or it is settled what
becomes of the result. -/
inductive Advances (closes : Prop) (left : Cursor → Option Nat) (before : Cursor) :
    Except Failure (Option Row) × Cursor → Prop where
  | row (row : Row) (after : Cursor) (stage : after.Stage closes (left after))
      (shrinks : after.remaining < before.remaining) :
      Advances closes left before (.ok (some row), after)
  | last (after : Cursor) (settled : after.Settled closes) :
      Advances closes left before (.ok none, after)
  | failed (failure : Failure) (after : Cursor) (settled : after.Settled closes) :
      Advances closes left before (.error failure, after)

/-- What was settled stays settled when more rows are pulled. -/
theorem Settled.pull (settled : cursor.Settled closes) (left : Cursor → Option Nat) :
    cursor.Advances closes left (pull cursor) := by
  have kept : Settled closes { cursor with source := .exhausted } :=
    settled.of_kept nofun rfl rfl rfl
  unfold Cursor.pull
  rw [Reading.get_bind_apply]
  cases source : cursor.source with
  | result => exact absurd source settled.away
  | exhausted => exact .last _ kept
  | given rows =>
    cases rows with
    | nil => exact .last _ kept
    | cons row rest =>
      refine .row row _ (.inr (settled.of_kept nofun rfl rfl rfl)) ?_
      unfold remaining
      rw [source]
      exact Nat.lt_succ_self rest.length

/-- Pulling asks for one row. At the end of the result it is closed. -/
theorem Reads.pull (reads : cursor.Reads closes (asked.map (· + 1))) :
    match pull cursor with
    | (.ok (some _), after) => after.Reads closes asked ∧ after.remaining < cursor.remaining ∧
        after.window? = cursor.window?
    | (.ok none, after) => closes ∧ after.Settled closes
    | (.error _, after) => after.Settled closes := by
  obtain ⟨result, held, returns, meets⟩ := reads.held
  unfold Cursor.pull
  rw [Reading.get_bind_apply, reads.source, held]
  simp only [returns, if_true]
  rcases rows : result.rows with _ | ⟨first, rest⟩
  · have closed : closes := meets.mpr (rows ▸ meetsEnd_nil)
    change match (Cursor.free >>= fun _ => pure none : Reading (Option Row)) cursor with
      | (.ok (some _), after) => _
      | (.ok none, after) => _
      | (.error _, after) => _
    rw [Reading.bind_apply, free_held reads.unfreed held]
    have settled : Settled closes { cursor with
        source := .exhausted, isFreed := true, closings := cursor.closings + 1 } :=
      ⟨nofun, ⟨result, held⟩, iff_of_true rfl closed, congrArg (· + 1) reads.counted⟩
    cases result.closeFault? with
    | none => exact ⟨closed, settled⟩
    | some failure => exact settled
  · rw [rows] at meets
    cases first with
    | error failure =>
      have open' : ¬closes := fun closed => not_meetsEnd_error failure (meets.mp closed)
      exact reads.left open' nofun ⟨_, rfl⟩ rfl rfl
    | ok row =>
      refine ⟨⟨rfl, ⟨_, rfl, rfl, ?_⟩, reads.unfreed, reads.counted⟩, ?_, rfl⟩
      · exact meets.trans (meetsEnd_cons row)
      · unfold remaining
        rw [reads.source, held]
        dsimp only
        rw [rows]
        exact Nat.lt_succ_self rest.length

/-- Neither the window nor the hints matter for what becomes of the result. -/
theorem Stage.of_kept {after : Cursor} (stage : cursor.Stage closes asked)
    (source : after.source = cursor.source) (held : after.result? = cursor.result?)
    (freed : after.isFreed = cursor.isFreed) (counted : after.closings = cursor.closings) :
    after.Stage closes asked := by
  refine stage.imp (fun reads => ?_) fun settled =>
    settled.of_kept (source ▸ settled.away) held freed counted
  exact ⟨source.trans reads.source, held ▸ reads.held, freed.trans reads.unfreed,
    counted.trans reads.counted⟩

/-- Pulling advances, when the row that it asks for is one of those that may be asked for. -/
theorem Stage.pull (stage : cursor.Stage closes (asked.map (· + 1))) (left : Cursor → Option Nat)
    (known : ∀ after : Cursor, after.window? = cursor.window? → left after = asked) :
    cursor.Advances closes left (pull cursor) := by
  rcases stage with reads | settled
  · have pulled := reads.pull
    generalize Cursor.pull cursor = out at pulled ⊢
    rcases out with ⟨failure | _ | row, after⟩
    · exact .failed failure after pulled
    · exact .last after pulled.2
    · obtain ⟨reading, shrinks, same⟩ := pulled
      exact .row row after (.inl ((known after same).symm ▸ reading)) shrinks
  · exact settled.pull left

/-- Leaving out rows asks for all of them. -/
theorem Stage.discard {skip : Nat} (stage : cursor.Stage closes (asked.map (skip + ·))) :
    match discard skip cursor with
    | (.ok true, after) => after.Stage closes asked ∧ after.remaining ≤ cursor.remaining
    | (_, after) => after.Settled closes := by
  induction skip generalizing cursor with
  | zero =>
    refine ⟨?_, Nat.le_refl _⟩
    simpa using stage
  | succ skip inductionHypothesis =>
    have next : asked.map (skip + 1 + ·) = (asked.map (skip + ·)).map (· + 1) := by
      cases asked with
      | none => rfl
      | some most => exact congrArg some (Nat.add_right_comm skip 1 most)
    rw [next] at stage
    have pulled := stage.pull (fun _ => asked.map (skip + ·)) fun _ _ => rfl
    rw [Cursor.discard, Reading.bind_apply]
    generalize Cursor.pull cursor = out at pulled ⊢
    cases pulled with
    | failed failure after settled => exact settled
    | last after settled => exact settled
    | row row between later shrinks =>
      have discarded := inductionHypothesis later
      dsimp only
      generalize Cursor.discard skip between = out at discarded ⊢
      rcases out with ⟨_ | _ | _, after⟩
      · exact discarded
      · exact discarded
      · exact ⟨discarded.1, discarded.2.trans (Nat.le_of_lt shrinks)⟩

/-- What remains may have been more before. -/
theorem Advances.mono {before : Cursor} {left : Cursor → Option Nat}
    {out : Except Failure (Option Row) × Cursor} (advances : cursor.Advances closes left out)
    (fewer : cursor.remaining ≤ before.remaining) : before.Advances closes left out := by
  cases advances with
  | failed failure after settled => exact .failed failure after settled
  | last after settled => exact .last after settled
  | row row after later shrinks => exact .row row after later (Nat.lt_of_lt_of_le shrinks fewer)

/-- A row asked for while the window is open: what is left of the window behind it. -/
theorem Stage.pull_window {left : Option Nat} (stage : cursor.Stage closes (left.map (· + 1))) :
    Advances closes Cursor.asked cursor (Cursor.pull { cursor with window? := some { left } }) := by
  have opened : Stage closes (left.map (· + 1)) { cursor with window? := some { left } } :=
    stage.of_kept rfl rfl rfl rfl
  have pulled := opened.pull Cursor.asked fun after same => by
    rw [Cursor.asked, same]
    cases left <;> simp [Window.asked]
  exact pulled.mono (Nat.le_refl cursor.remaining)

/-- Passing on a row asks for it and for the rows before the window. Behind its window a cursor
asks for nothing. -/
theorem Stage.passed (stage : cursor.Stage closes cursor.asked) :
    cursor.Advances closes Cursor.asked (passed cursor) := by
  unfold Cursor.passed
  rw [Reading.get_bind_apply]
  unfold Cursor.asked at stage
  cases opened : cursor.window? with
  | none =>
    rw [opened] at stage
    have unbounded : cursor.Stage closes ((none : Option Nat).map (· + 1)) := stage
    refine unbounded.pull Cursor.asked fun after same => ?_
    rw [Cursor.asked, same, opened]
    rfl
  | some window =>
    rw [opened] at stage
    have bounded : cursor.Stage closes (window.left.map (window.skip + ·)) := stage
    have discarded := bounded.discard
    dsimp only
    rw [Reading.bind_apply]
    generalize Cursor.discard window.skip cursor = out at discarded ⊢
    rcases out with ⟨failure | _ | _, between⟩
    · exact .failed failure between discarded
    · exact .last between discarded
    · obtain ⟨later, fewer⟩ := discarded
      dsimp only
      rcases left : window.left with _ | _ | most
      · rw [left] at later
        have rest : between.Stage closes ((none : Option Nat).map (· + 1)) := later
        exact rest.pull_window.mono fewer
      · rw [left] at later
        refine .last { between with source := .exhausted } ?_
        rcases later with reads | settled
        · obtain ⟨result, held, -, meets⟩ := reads.held
          exact reads.left (fun closed => not_meetsEnd_zero (meets.mp closed)) nofun
            ⟨result, held⟩ rfl rfl
        · exact settled.of_kept nofun rfl rfl rfl
      · rw [left] at later
        have rest : between.Stage closes ((some most).map (· + 1)) := later
        exact rest.pull_window.mono fewer

/-- Fetching advances. -/
theorem Stage.fetch (stage : cursor.Stage closes cursor.asked) :
    cursor.Advances closes Cursor.asked (fetch cursor) := by
  have passing := stage.passed
  unfold Cursor.fetch
  rw [Reading.bind_apply]
  generalize Cursor.passed cursor = out at passing ⊢
  cases passing with
  | failed failure after settled => exact .failed failure after settled
  | last after settled => exact .last after settled
  | row row between later shrinks =>
    obtain ⟨hints, exports⟩ := exported_apply between row
    change cursor.Advances closes Cursor.asked
      ((exported row >>= fun row => pure (some row) : Reading (Option Row)) between)
    rw [Reading.bind_apply, exports]
    exact .row _ _ (later.of_kept rfl rfl rfl rfl) shrinks

/-! ## Runs -/

/-- Fetching several rows stays within the stages, and settles what becomes of the result when more
rows are fetched than remain. -/
theorem Stage.fetchMany (stage : cursor.Stage closes cursor.asked) (count : Nat) :
    match fetchMany count cursor with
    | (.ok _, after) => after.Stage closes after.asked ∧
        (cursor.remaining < count → after.Settled closes)
    | (.error _, after) => after.Settled closes := by
  induction count generalizing cursor with
  | zero => exact ⟨stage, nofun⟩
  | succ count inductionHypothesis =>
    unfold Cursor.fetchMany at inductionHypothesis ⊢
    have fetched := stage.fetch
    rw [collected, Reading.bind_apply]
    generalize Cursor.fetch cursor = out at fetched ⊢
    cases fetched with
    | failed failure after settled => exact settled
    | last after settled => exact ⟨.inr settled, fun _ => settled⟩
    | row row between later shrinks =>
      have others := inductionHypothesis later
      dsimp only
      rw [Reading.bind_apply]
      generalize collected Cursor.fetch count between = out at others ⊢
      rcases out with ⟨_ | rows, after⟩
      · exact others
      · exact ⟨others.1, fun enough => others.2 (by omega)⟩

/-- Fetching all rows settles what becomes of the result, whether it fails or not. -/
theorem Stage.fetchAll (stage : cursor.Stage closes cursor.asked) :
    (fetchAll cursor).2.Settled closes := by
  have many := stage.fetchMany (cursor.remaining + 1)
  change (Cursor.fetchMany (cursor.remaining + 1) cursor).2.Settled closes
  generalize Cursor.fetchMany (cursor.remaining + 1) cursor = out at many ⊢
  rcases out with ⟨_ | rows, after⟩
  · exact many
  · exact many.2 (Nat.lt_succ_self _)

/-- A call stays within the stages; when it gives the rows up, the result is closed. -/
theorem Stage.run (stage : cursor.Stage closes cursor.asked) (call : Call) :
    (call.run cursor).2.Stage (closes ∨ call = .free) (call.run cursor).2.asked := by
  have asks : call ≠ .free → closes = (closes ∨ call = .free) :=
    fun other => propext (or_iff_left other).symm
  cases call with
  | free =>
    have freed := stage.free
    rw [eq_true (Or.inr rfl : closes ∨ Call.free = .free)]
    rw [Call.run, Reading.bind_apply]
    generalize Cursor.free cursor = out at freed ⊢
    rcases out with ⟨_ | _, after⟩
    · exact .inr freed
    · exact .inr freed
  | fetch =>
    have fetched := stage.fetch
    rw [← asks (by decide), Call.run, Reading.bind_apply]
    generalize Cursor.fetch cursor = out at fetched ⊢
    cases fetched with
    | failed failure after settled => exact .inr settled
    | last after settled => exact .inr settled
    | row row after later shrinks => exact later
  | next =>
    have many := stage.fetchMany 1
    rw [← asks (by decide), Call.run]
    generalize Cursor.fetchMany 1 cursor = out at many ⊢
    rcases out with ⟨_ | rows, after⟩
    · exact .inr many
    · exact many.1
  | fetchAll =>
    rw [← asks (by decide)]
    exact .inr stage.fetchAll

/-- Calls stay within the stages; when one of them gives the rows up, the result is closed. -/
theorem Stage.called (stage : cursor.Stage closes cursor.asked) (calls : List Call) :
    (cursor.called calls).2.Stage (closes ∨ Call.free ∈ calls) (cursor.called calls).2.asked := by
  induction calls generalizing cursor closes with
  | nil =>
    rw [eq_false List.not_mem_nil, or_false]
    exact stage
  | cons call rest inductionHypothesis =>
    have later := inductionHypothesis (stage.run call)
    rw [or_assoc] at later
    rw [List.mem_cons, eq_comm (a := Call.free)]
    exact later

/-- In every stage the result was closed at most once. -/
theorem Stage.closings_le (stage : cursor.Stage closes asked) : cursor.closings ≤ 1 := by
  rcases stage with reads | settled
  · exact reads.counted.trans_le (Nat.zero_le 1)
  · exact settled.counted.trans_le (Bool.toNat_le cursor.isFreed)

/-- Once it is settled, it is known whether the result was closed. -/
theorem Settled.closings_eq_one (settled : cursor.Settled closes) :
    cursor.closings = 1 ↔ closes := by
  rw [settled.counted, ← settled.freed, Bool.toNat_eq_one]

/-- Who reads a result to its end has closed it. -/
theorem Reads.collected (reads : cursor.Reads closes none) {count : Nat}
    (enough : cursor.remaining < count) {rows : List Row} {after : Cursor}
    (ran : collected Cursor.pull count cursor = (.ok rows, after)) :
    closes ∧ after.Settled closes := by
  induction count generalizing cursor rows with
  | zero => cases enough
  | succ count inductionHypothesis =>
    have unbounded : cursor.Reads closes ((none : Option Nat).map (· + 1)) := reads
    have pulled := unbounded.pull
    rw [Cursor.collected, Reading.bind_apply] at ran
    generalize Cursor.pull cursor = out at pulled ran
    rcases out with ⟨_ | _ | row, between⟩
    · cases ran
    · cases ran
      exact pulled
    · obtain ⟨later, shrinks, -⟩ := pulled
      dsimp only at ran
      rw [Reading.bind_apply] at ran
      rcases rest : Cursor.collected Cursor.pull count between with ⟨_ | others, last⟩
      · rw [rest] at ran
        cases ran
      · rw [rest] at ran
        cases ran
        exact inductionHypothesis later (by omega) rest

/-- Applying a row filter opens its window, and nothing else changes. -/
theorem filtered_ok (cursor : Cursor) {rowFilter : Option RowFilter} {ready : Cursor}
    (ran : (match rowFilter with
      | none => pure ()
      | some filter => match filter.window with
        | .ok window => modify fun cursor => { cursor with window? := some window }
        | .error failure => throw failure : Reading Unit) cursor = (.ok (), ready)) :
    ready = { cursor with window? := ready.window? } ∧
      (cursor.window? = none → ready.asked = rowFilter.bind RowFilter.asked) := by
  cases rowFilter with
  | none =>
    cases ran
    exact ⟨rfl, fun fresh => congrArg (Option.bind · Window.asked) fresh⟩
  | some filter =>
    dsimp only at ran
    cases opened : filter.window with
    | error failure =>
      rw [opened] at ran
      cases ran
    | ok window =>
      rw [opened] at ran
      cases ran
      exact ⟨rfl, fun _ => RowFilter.asked_window opened⟩

/-- A new cursor reads its result, or has read and closed it when there is a reshape. -/
theorem start_stage {plan : Plan} {result : ResultSet} (dynamic : plan.staticRows = none)
    (returns : result.returnsRows = true) (started : start plan (some result) = (.ok (), cursor)) :
    cursor.Stage (MeetsEnd result.rows plan.asked) cursor.asked ∧
      (plan.reshape.isSome = true → cursor.closings = 1) := by
  unfold start prepare at started
  rw [Reading.get_bind_apply] at started
  dsimp only at started
  rw [dynamic] at started
  unfold Plan.asked
  have reads : ∀ asked, Reads (MeetsEnd result.rows asked) asked { plan, result? := some result } :=
    fun asked => ⟨rfl, ⟨result, rfl, returns, .rfl⟩, rfl, rfl⟩
  cases shaped : plan.reshape with
  | none =>
    rw [shaped] at started
    obtain ⟨same, asks⟩ := filtered_ok { plan, result? := some result } started
    refine ⟨.inl ?_, nofun⟩
    rw [asks rfl, same]
    have reading := reads (plan.rowFilter.bind RowFilter.asked)
    exact ⟨reading.source, reading.held, reading.unfreed, reading.counted⟩
  | some reshape =>
    rw [shaped] at started
    dsimp only at started
    rw [Reading.bind_apply] at started
    rcases ran : collected pull (remaining { plan, result? := some result } + 1)
      { plan, result? := some result } with ⟨_ | rows, after⟩
    · rw [ran] at started
      cases started
    · rw [ran] at started
      obtain ⟨meets, settled⟩ := (reads none).collected (Nat.lt_succ_self _) ran
      dsimp only at started ⊢
      cases reshaped : (reshape rows).result with
      | error failure =>
        rw [reshaped] at started
        cases started
      | ok source =>
        rw [reshaped] at started
        obtain ⟨same, -⟩ := filtered_ok { after with source := .given source } started
        rw [same]
        exact ⟨.inr (settled.of_kept nofun rfl rfl rfl),
          fun _ => settled.closings_eq_one.mpr meets⟩

/-- A cursor closes its result at most once. When a fetch answers none, or after all rows were
fetched, the result is closed exactly when the end of its rows was met or the cursor was freed. With
a reshape it is closed from the beginning; but a row filter that takes as many rows as there are, or
fewer, leaves it open, and so does a row that cannot be read.

Proof: while the result is read, pulling a row takes one of those that the row filter still asks
for, and it is closed when another one is asked for behind the last. A fetch that answers none, or
that fails, has settled what becomes of the result, and nothing changes that but freeing the
cursor. -/
theorem start_drained {plan : Plan} {result : ResultSet} (dynamic : plan.staticRows = none)
    (returns : result.returnsRows = true) (started : start plan (some result) = (.ok (), cursor))
    (calls : List Call) :
    let after := (cursor.called calls).2
    let closed := MeetsEnd result.rows plan.asked ∨ Call.free ∈ calls
    after.closings ≤ 1 ∧
      ((fetch after).1 = .ok none → ((fetch after).2.closings = 1 ↔ closed)) ∧
      ((fetchAll after).2.closings = 1 ↔ closed) ∧
      (plan.reshape.isSome = true → cursor.closings = 1) := by
  obtain ⟨first, shaped⟩ := start_stage dynamic returns started
  have stage := first.called calls
  refine ⟨stage.closings_le, fun exhausted => ?_, stage.fetchAll.closings_eq_one, shaped⟩
  have fetched := stage.fetch
  generalize fetch (cursor.called calls).2 = out at fetched exhausted ⊢
  cases fetched with
  | failed failure after settled => exact settled.closings_eq_one
  | last after settled => exact settled.closings_eq_one
  | row row after later shrinks => cases exhausted

/-- A plan that takes the first row. -/
def firstPlan : Plan where
  rowFilter := some { take := some 1 }

/-- When the first of four rows was taken, the result stays open. -/
theorem firstPlan_drained :
    let cursor := (start firstPlan (some { rows := pageRows.map .ok, returnsRows := true })).2
    (fetchAll cursor).1 = .ok [[("data", .int 0)]] ∧ (fetchAll cursor).2.closings ≠ 1 := by
  refine ⟨rfl, fun closed => ?_⟩
  have started : start firstPlan (some { rows := pageRows.map .ok, returnsRows := true }) =
    (.ok (), (start firstPlan (some { rows := pageRows.map .ok, returnsRows := true })).2) := rfl
  obtain ⟨-, -, drained, -⟩ := start_drained rfl rfl started []
  rcases drained.mp closed with ⟨-, short⟩ | freed
  · exact absurd (short 1 rfl) (by decide)
  · cases freed

end Cursor

end PortableSql
