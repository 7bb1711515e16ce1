import PortableSql.Proofs.Refusal

/-!
# Rows that a cursor hands out

A cursor is described by the rows that it still hands out. Fetching a row takes the first of them
and leaves the others; a row filter leaves out the rows before its window and those behind it. What
follows about any number of fetches comes from this one step.
-/

namespace PortableSql

/-- The rows inside a window. -/
def Window.rows (window : Window) (rows : List Row) : List Row :=
  match window.left with
  | none => rows.drop window.skip
  | some left => (rows.drop window.skip).take left

@[simp] theorem Window.rows_nil (window : Window) : window.rows [] = [] := by
  unfold rows
  cases window.left <;> simp

/-- A row as the cursor of a plan exports it. -/
def Plan.exportedRow (plan : Plan) (row : Row) : Row :=
  if plan.exportRows then row.map fun (column, value) => (column, Parameter.settled value) else row

variable {cursor : Cursor} {row : Row} {rows rest : List Row}

/-- A window with rows in it begins within the rows that it is applied to. -/
theorem Window.rows_cons {window : Window} (known : window.rows rows = row :: rest) :
    window.skip ≤ rows.length ∧ ∃ others, rows.drop window.skip = row :: others ∧
      (match window.left with
        | none => others
        | some left => others.take (left - 1)) = rest ∧ window.left ≠ some 0 := by
  obtain ⟨skip, left⟩ := window
  unfold Window.rows at known
  have within : ∀ others, rows.drop skip = row :: others → skip ≤ rows.length := by
    intro others same
    have positive := congrArg List.length same
    simp only [List.length_drop, List.length_cons] at positive
    omega
  rcases left with _ | _ | left
  · exact ⟨within _ known, _, known, rfl, nofun⟩
  · cases known
  · rcases dropped : rows.drop skip with _ | ⟨first, others⟩
    · simp [dropped] at known
    · simp only [dropped, List.take_succ_cons, List.cons.injEq] at known
      obtain ⟨rfl, rfl⟩ := known
      exact ⟨within _ dropped, _, rfl, rfl, nofun⟩

namespace Cursor

/-- The source of the cursor still gives exactly these rows. -/
def Offers (cursor : Cursor) (rows : List Row) : Prop :=
  match cursor.source, cursor.result? with
  | .given given, _ => given = rows
  | .result, some result =>
    if result.returnsRows then result.rows = rows.map .ok else rows = []
  | _, _ => rows = []

/-- Closing the result of the cursor does not fail. -/
def Closes (cursor : Cursor) : Prop :=
  ∀ result, cursor.result? = some result → result.closeFault? = none

/-- What remains of a cursor while rows are read from it. -/
structure Follows (before after : Cursor) : Prop where
  plan : after.plan = before.plan
  closes : before.Closes → after.Closes

theorem Follows.refl (cursor : Cursor) : cursor.Follows cursor := ⟨rfl, id⟩

theorem Follows.trans {before between after : Cursor} (first : before.Follows between)
    (second : between.Follows after) : before.Follows after :=
  ⟨second.plan.trans first.plan, second.closes ∘ first.closes⟩

/-- The cursor still hands out exactly these rows, before they are exported. -/
def Holds (cursor : Cursor) (rows : List Row) : Prop :=
  ∃ offered, cursor.Offers offered ∧
    (cursor.window?.elim offered fun window => window.rows offered) = rows

/-- A source without rows leaves none to hand out. -/
theorem Offers.holds {cursor : Cursor} (offers : cursor.Offers []) : cursor.Holds [] := by
  refine ⟨[], offers, ?_⟩
  cases cursor.window? with
  | none => rfl
  | some window => exact window.rows_nil

/-- Pulling takes the first row of the source. -/
theorem pull_cons (offers : cursor.Offers (row :: rest)) :
    ∃ after, pull cursor = (.ok (some row), after) ∧ after.Offers rest ∧
      after.window? = cursor.window? ∧ cursor.Follows after := by
  unfold Offers at offers
  unfold pull
  rw [Reading.get_bind_apply]
  cases source : cursor.source with
  | exhausted =>
    rw [source] at offers
    cases offers
  | given given =>
    rw [source] at offers
    cases offers
    exact ⟨_, rfl, rfl, rfl, rfl, id⟩
  | result =>
    cases read : cursor.result? with
    | none =>
      rw [source, read] at offers
      cases offers
    | some result =>
      rw [source, read] at offers
      dsimp only at offers ⊢
      by_cases returns : result.returnsRows
      · simp only [returns, if_true] at offers ⊢
        rw [offers]
        refine ⟨_, rfl, rfl, rfl, rfl, ?_⟩
        rintro closes _ ⟨⟩
        exact closes result read
      · simp [returns] at offers

/-- Freeing a cursor without rows leaves it without rows. -/
theorem free_offers (offers : cursor.Offers []) (closes : cursor.Closes) :
    ∃ after, free cursor = (.ok (), after) ∧ after.Offers [] ∧
      after.window? = cursor.window? ∧ cursor.Follows after := by
  unfold free
  rw [Reading.get_bind_apply]
  split
  · exact ⟨cursor, rfl, offers, rfl, .refl cursor⟩
  cases read : cursor.result? with
  | none => exact ⟨_, rfl, rfl, rfl, rfl, fun _ _ wrong => nomatch wrong⟩
  | some result =>
    dsimp only
    rw [closes result read]
    exact ⟨_, rfl, rfl, rfl, rfl, fun _ other same => closes other (read.trans same)⟩

/-- Pulling from a source without rows ends, once its result is closed. -/
theorem pull_nil (offers : cursor.Offers []) (closes : cursor.Closes) :
    ∃ after, pull cursor = (.ok none, after) ∧ after.Offers [] ∧
      after.window? = cursor.window? ∧ cursor.Follows after := by
  have finished : ∃ after, (do
      finish
      pure none : Reading (Option Row)) cursor = (.ok none, after) ∧ after.Offers [] ∧
        after.window? = cursor.window? ∧ cursor.Follows after := ⟨_, rfl, rfl, rfl, rfl, id⟩
  unfold Offers at offers
  unfold pull
  rw [Reading.get_bind_apply]
  cases source : cursor.source with
  | exhausted => exact finished
  | given given =>
    rw [source] at offers
    cases offers
    exact finished
  | result =>
    cases read : cursor.result? with
    | none => exact finished
    | some result =>
      rw [source, read] at offers
      dsimp only at offers ⊢
      by_cases returns : result.returnsRows
      · have nothing : cursor.Offers [] := by simpa only [Offers, source, read] using offers
        simp only [returns, if_true] at offers ⊢
        rw [offers]
        obtain ⟨after, freed, known⟩ := free_offers nothing closes
        refine ⟨after, ?_, known⟩
        change (free >>= fun _ => pure none : Reading (Option Row)) cursor = _
        rw [Reading.bind_apply, freed]
        rfl
      · simp only [returns, Bool.false_eq_true, if_false]
        exact finished

/-- Leaving out rows leaves out the first ones, if there are enough of them. -/
theorem discard_drop {skip : Nat} (offers : cursor.Offers rows) (enough : skip ≤ rows.length) :
    ∃ after, discard skip cursor = (.ok true, after) ∧ after.Offers (rows.drop skip) ∧
      after.window? = cursor.window? ∧ cursor.Follows after := by
  induction skip generalizing cursor rows with
  | zero => exact ⟨cursor, rfl, offers, rfl, .refl cursor⟩
  | succ skip inductionHypothesis =>
    cases rows with
    | nil => cases enough
    | cons row rest =>
      obtain ⟨between, pulled, offersRest, sameWindow, follows⟩ := pull_cons offers
      obtain ⟨after, discarded, offersLeft, same, following⟩ :=
        inductionHypothesis offersRest (Nat.le_of_succ_le_succ enough)
      refine ⟨after, ?_, offersLeft, same.trans sameWindow, follows.trans following⟩
      rw [discard, Reading.bind_apply, pulled]
      exact discarded

/-- Leaving out more rows than there are leaves none. -/
theorem discard_nil {skip : Nat} (offers : cursor.Offers rows) (short : rows.length < skip)
    (closes : cursor.Closes) :
    ∃ after, discard skip cursor = (.ok false, after) ∧ after.Offers [] ∧
      cursor.Follows after := by
  induction skip generalizing cursor rows with
  | zero => cases short
  | succ skip inductionHypothesis =>
    rw [discard, Reading.bind_apply]
    cases rows with
    | nil =>
      obtain ⟨after, pulled, offersNone, -, follows⟩ := pull_nil offers closes
      rw [pulled]
      exact ⟨after, rfl, offersNone, follows⟩
    | cons row rest =>
      obtain ⟨between, pulled, offersRest, -, follows⟩ := pull_cons offers
      obtain ⟨after, discarded, offersNone, following⟩ :=
        inductionHypothesis offersRest (Nat.lt_of_succ_lt_succ short) (follows.closes closes)
      rw [pulled]
      exact ⟨after, discarded, offersNone, follows.trans following⟩

/-- Passing on takes the first row that the cursor holds. -/
theorem passed_cons (holds : cursor.Holds (row :: rest)) :
    ∃ after, passed cursor = (.ok (some row), after) ∧ after.Holds rest ∧
      cursor.Follows after := by
  obtain ⟨offered, offers, windowed⟩ := holds
  unfold passed
  rw [Reading.get_bind_apply]
  cases opened : cursor.window? with
  | none =>
    rw [opened] at windowed
    subst windowed
    obtain ⟨after, pulled, offersRest, same, follows⟩ := pull_cons offers
    refine ⟨after, pulled, ⟨rest, offersRest, ?_⟩, follows⟩
    rw [same, opened]
    rfl
  | some window =>
    rw [opened] at windowed
    obtain ⟨within, others, dropped, inside, open'⟩ := Window.rows_cons windowed
    obtain ⟨between, discarded, offersLeft, -, follows⟩ := discard_drop offers within
    rw [dropped] at offersLeft
    dsimp only
    rw [Reading.bind_apply, discarded]
    -- Once the window has begun, nothing more is left out before its rows.
    have begun : ∀ left : Option Nat, (match left with
        | none => others
        | some left => others.take left) = rest →
        ∃ after, pull { between with window? := some { left } } = (.ok (some row), after) ∧
          after.Holds rest ∧ cursor.Follows after := by
      intro left inside
      have offersNow : Offers { between with window? := some { left } } (row :: others) :=
        offersLeft
      obtain ⟨after, pulled, offersRest, same, following⟩ := pull_cons offersNow
      refine ⟨after, pulled, ⟨others, offersRest, ?_⟩, ?_, following.closes ∘ follows.closes⟩
      · rw [same]
        cases left <;> exact inside
      · exact following.plan.trans follows.plan
    rcases known : window.left with _ | _ | left
    · rw [known] at inside
      exact begun none inside
    · exact absurd known open'
    · rw [known] at inside
      exact begun (some left) inside

/-- Passing on ends when the cursor holds no row. -/
theorem passed_nil (holds : cursor.Holds []) (closes : cursor.Closes) :
    ∃ after, passed cursor = (.ok none, after) ∧ after.Holds [] ∧ cursor.Follows after := by
  obtain ⟨offered, offers, windowed⟩ := holds
  unfold passed
  rw [Reading.get_bind_apply]
  cases opened : cursor.window? with
  | none =>
    rw [opened] at windowed
    subst windowed
    obtain ⟨after, pulled, offersNone, -, follows⟩ := pull_nil offers closes
    exact ⟨after, pulled, offersNone.holds, follows⟩
  | some window =>
    rw [opened] at windowed
    dsimp only
    rw [Reading.bind_apply]
    rcases Nat.lt_or_ge offered.length window.skip with short | enough
    · obtain ⟨after, discarded, offersNone, follows⟩ := discard_nil offers short closes
      rw [discarded]
      exact ⟨after, rfl, offersNone.holds, follows⟩
    obtain ⟨between, discarded, offersLeft, -, follows⟩ := discard_drop offers enough
    rw [discarded]
    -- At the end of its source the cursor looks for a row; behind its window it does not.
    have ended : ∀ left : Option Nat, offered.drop window.skip = [] →
        ∃ after, pull { between with window? := some { left } } = (.ok none, after) ∧
          after.Holds [] ∧ cursor.Follows after := by
      intro left nothing
      have offersNow : Offers { between with window? := some { left } } [] := nothing ▸ offersLeft
      have closing : Closes { between with window? := some { left } } := follows.closes closes
      obtain ⟨after, pulled, offersNone, -, following⟩ := pull_nil offersNow closing
      exact ⟨after, pulled, offersNone.holds, following.plan.trans follows.plan,
        following.closes ∘ follows.closes⟩
    change window.rows offered = [] at windowed
    unfold Window.rows at windowed
    rcases known : window.left with _ | _ | left
    · rw [known] at windowed
      exact ended none windowed
    · exact ⟨{ between with source := .exhausted }, rfl, Offers.holds rfl, follows.plan,
        follows.closes⟩
    · rw [known, List.take_eq_nil_iff] at windowed
      exact ended (some left) (windowed.resolve_left (Nat.succ_ne_zero left))

/-- Exporting changes no more than the hints. -/
theorem exported_apply (cursor : Cursor) (row : Row) :
    ∃ hints, exported row cursor = (.ok (cursor.plan.exportedRow row), { cursor with hints }) := by
  unfold exported Plan.exportedRow
  rw [Reading.bind_apply]
  change ∃ hints, (if cursor.plan.exportHints then _ else _ : Reading Row) cursor = _
  split
  · exact ⟨_, rfl⟩
  · exact ⟨cursor.hints, rfl⟩

theorem fetch_cons (holds : cursor.Holds (row :: rest)) :
    ∃ after, fetch cursor = (.ok (some (cursor.plan.exportedRow row)), after) ∧
      after.Holds rest ∧ cursor.Follows after := by
  obtain ⟨between, passes, holdsRest, follows⟩ := passed_cons holds
  obtain ⟨hints, exports⟩ := exported_apply between row
  refine ⟨{ between with hints }, ?_, holdsRest, follows.plan, follows.closes⟩
  unfold fetch
  rw [Reading.bind_apply, passes, ← follows.plan]
  change (exported row >>= fun row => pure (some row) : Reading (Option Row)) between = _
  rw [Reading.bind_apply, exports]
  rfl

theorem fetch_nil (holds : cursor.Holds []) (closes : cursor.Closes) :
    ∃ after, fetch cursor = (.ok none, after) ∧ after.Holds [] ∧ cursor.Follows after := by
  obtain ⟨after, passes, known⟩ := passed_nil holds closes
  refine ⟨after, ?_, known⟩
  unfold fetch
  rw [Reading.bind_apply, passes]
  rfl

/-- Fetching takes the first rows that the cursor holds; it may ask for more than there are when
closing the result does not fail.

Proof: by induction on the number of rows that are asked for. Each fetch takes one row from those
that the cursor holds, and the plan, by which rows are exported, stays. -/
theorem fetchMany_take (holds : cursor.Holds rows) (count : Nat)
    (possible : cursor.Closes ∨ count ≤ rows.length) :
    (fetchMany count cursor).1 = .ok ((rows.take count).map cursor.plan.exportedRow) := by
  induction count generalizing cursor rows with
  | zero => rfl
  | succ count inductionHypothesis =>
    unfold fetchMany at inductionHypothesis ⊢
    rw [collected, Reading.bind_apply]
    cases rows with
    | nil =>
      have closes := possible.resolve_right (Nat.not_succ_le_zero count)
      obtain ⟨after, fetched, -⟩ := fetch_nil holds closes
      rw [fetched]
      rfl
    | cons row rest =>
      obtain ⟨after, fetched, holdsRest, follows⟩ := fetch_cons holds
      have others := inductionHypothesis holdsRest
        (possible.imp follows.closes Nat.le_of_succ_le_succ)
      rw [fetched]
      dsimp only
      rw [Reading.bind_apply]
      rw [follows.plan] at others
      cases collects : collected fetch count after with
      | mk outcome last =>
        rw [collects] at others
        subst others
        rfl

/-- No more rows are handed out than can be read. -/
theorem Holds.length_le (holds : cursor.Holds rows) : rows.length ≤ cursor.remaining := by
  obtain ⟨offered, offers, rfl⟩ := holds
  have offeredAll : offered.length ≤ cursor.remaining := by
    unfold Offers at offers
    unfold remaining
    split at offers
    case h_1 given source => simp [source, offers]
    case h_2 result source read =>
      rw [source, read]
      split at offers
      · simp [offers]
      · simp [offers]
    case h_3 => simp [offers]
  refine Nat.le_trans ?_ offeredAll
  cases cursor.window? with
  | none => exact Nat.le_refl _
  | some window =>
    change (window.rows offered).length ≤ offered.length
    unfold Window.rows
    split <;> simp only [List.length_take, List.length_drop] <;> omega

/-- Fetching all rows gives those that the cursor holds. -/
theorem fetchAll_eq (holds : cursor.Holds rows) (closes : cursor.Closes) :
    (fetchAll cursor).1 = .ok (rows.map cursor.plan.exportedRow) := by
  have known := fetchMany_take holds (cursor.remaining + 1) (.inl closes)
  rw [List.take_of_length_le (Nat.le_succ_of_le holds.length_le)] at known
  exact known

end Cursor

end PortableSql
