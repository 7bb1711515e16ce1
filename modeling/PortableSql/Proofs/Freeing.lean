import PortableSql.Proofs.Draining

/-!
# Freed cursors

Freeing a cursor gives up the rows that are left and closes its result, unless that was done before.
A result that is read to its end is closed on the way, and its cursor counts as freed. Where rows
are read one by one this makes no difference, for none is left then. But a reshape reads all rows of
a result before the first one is handed out. Such a cursor counts as freed from the beginning, so
freeing it does nothing, and its rows are handed out as if nobody had freed it.
-/

namespace PortableSql

/-- The rows of the result are all read while the cursor is made, for they are reshaped together. -/
def Plan.ReadsAhead (plan : Plan) (result? : Option ResultSet) : Prop :=
  plan.staticRows = none ∧ plan.reshape.isSome = true ∧
    ∃ result, result? = some result ∧ result.returnsRows = true

namespace Cursor

open Reading

variable {cursor : Cursor} {ahead given : Prop} {hasResult : Bool}

/-- What holds of a cursor between calls. Its result was closed once if it counts as freed, and else
not at all. When it counts as freed no row is left, unless the rows were read ahead. It does count
as freed once it was `given` up. -/
structure Tidy (ahead : Prop) (hasResult : Bool) (given : Prop) (cursor : Cursor) : Prop where
  held : cursor.result?.isSome = hasResult
  counted : cursor.closings = (cursor.isFreed && hasResult).toNat
  idle : cursor.isFreed = true → ahead ∨ cursor.source = .exhausted
  freed : given → cursor.isFreed = true

/-- A cursor with rows left counts as freed only when they were read ahead. -/
theorem Tidy.ahead_of_freed (tidy : cursor.Tidy ahead hasResult given)
    (more : cursor.source ≠ .exhausted) (isFreed : cursor.isFreed = true) : ahead :=
  (tidy.idle isFreed).resolve_right more

/-- Less may be asked of a cursor that was given up. -/
theorem Tidy.imp {other : Prop} (tidy : cursor.Tidy ahead hasResult given) (less : other → given) :
    cursor.Tidy ahead hasResult other :=
  { tidy with freed := fun known => tidy.freed (less known) }

/-- A cursor without a result only gives up its rows. -/
theorem free_unheld (unfreed : cursor.isFreed = false) (none : cursor.result? = none) :
    free cursor = (.ok (), { cursor with source := .exhausted, isFreed := true }) := by
  obtain ⟨plan, result?, source, window?, hints, isFreed, closings⟩ := cursor
  obtain rfl : isFreed = false := unfreed
  obtain rfl : result? = .none := none
  rfl

/-- A cursor that was freed counts as freed. -/
theorem Tidy.free (tidy : cursor.Tidy ahead hasResult given) :
    (free cursor).2.Tidy ahead hasResult True := by
  cases isFreed : cursor.isFreed with
  | true =>
    rw [free_freed isFreed]
    exact { tidy with freed := fun _ => isFreed }
  | false =>
    have unclosed : cursor.closings = 0 := by rw [tidy.counted, isFreed]; rfl
    cases known : cursor.result? with
    | none =>
      rw [free_unheld isFreed known]
      have unheld : hasResult = false := by rw [← tidy.held, known]; rfl
      refine ⟨tidy.held, ?_, fun _ => .inr rfl, fun _ => rfl⟩
      rw [unheld]
      exact unclosed
    | some result =>
      rw [free_held isFreed known]
      have isHeld : hasResult = true := by rw [← tidy.held, known]; rfl
      refine ⟨tidy.held, ?_, fun _ => .inr rfl, fun _ => rfl⟩
      rw [isHeld]
      exact congrArg (· + 1) unclosed

/-! ## Steps -/

theorem pull_tidy : pull.Keeps (Tidy ahead hasResult given) := by
  intro cursor tidy
  have finished : Tidy ahead hasResult given { cursor with source := .exhausted } :=
    ⟨tidy.held, tidy.counted, fun _ => .inr rfl, tidy.freed⟩
  unfold pull
  rw [get_bind_apply]
  cases source : cursor.source with
  | exhausted => exact finished
  | given rows => cases rows with
    | nil => exact finished
    | cons row rest =>
      have more : cursor.source ≠ .exhausted := by rw [source]; nofun
      exact ⟨tidy.held, tidy.counted, fun isFreed => .inl (tidy.ahead_of_freed more isFreed),
        tidy.freed⟩
  | result => cases known : cursor.result? with
    | none => exact finished
    | some result =>
      have isHeld : true = hasResult := by rw [← tidy.held, known]; rfl
      dsimp only
      split
      case isFalse => exact finished
      case isTrue =>
        rcases result.rows with _ | ⟨_ | row, rest⟩
        · have closed : Tidy ahead hasResult given (Cursor.free cursor).2 :=
            tidy.free.imp fun _ => trivial
          change Tidy ahead hasResult given
            ((Cursor.free >>= fun _ => pure none : Reading (Option Row)) cursor).2
          rw [bind_apply]
          generalize Cursor.free cursor = out at closed ⊢
          rcases out with ⟨_ | _, later⟩
          · exact closed
          · exact closed
        · exact ⟨isHeld, tidy.counted, fun _ => .inr rfl, tidy.freed⟩
        · have more : cursor.source ≠ .exhausted := by rw [source]; nofun
          exact ⟨isHeld, tidy.counted, fun isFreed => .inl (tidy.ahead_of_freed more isFreed),
            tidy.freed⟩

theorem passed_tidy : passed.Keeps (Tidy ahead hasResult given) :=
  passed_keeps pull_tidy
    (fun _ tidy => ⟨tidy.held, tidy.counted, fun _ => .inr rfl, tidy.freed⟩)
    fun _ _ tidy => ⟨tidy.held, tidy.counted, tidy.idle, tidy.freed⟩

theorem exported_tidy (row : Row) : (exported row).Keeps (Tidy ahead hasResult given) := by
  intro cursor tidy
  obtain ⟨hints, exports⟩ := exported_apply cursor row
  rw [exports]
  exact ⟨tidy.held, tidy.counted, tidy.idle, tidy.freed⟩

theorem fetch_tidy : fetch.Keeps (Tidy ahead hasResult given) := by
  refine passed_tidy.bind fun row? => ?_
  cases row? with
  | none => exact keeps_pure none
  | some row => exact (exported_tidy row).bind fun _ => keeps_pure _

/-! ## Calls -/

/-- A call keeps a cursor tidy; one that is freed counts as freed. -/
theorem Tidy.run (tidy : cursor.Tidy ahead hasResult given) (call : Call) :
    (call.run cursor).2.Tidy ahead hasResult (given ∨ call = .free) := by
  have asks : call ≠ .free → given = (given ∨ call = .free) :=
    fun other => propext (or_iff_left other).symm
  cases call with
  | free =>
    have closed := tidy.free
    rw [Call.run, bind_apply]
    generalize Cursor.free cursor = out at closed ⊢
    rcases out with ⟨_ | _, later⟩
    · exact closed.imp fun _ => trivial
    · exact closed.imp fun _ => trivial
  | fetch =>
    rw [← asks (by decide)]
    exact fetch_tidy.bind (fun _ => keeps_pure _) cursor tidy
  | next =>
    rw [← asks (by decide)]
    exact collected_keeps fetch_tidy 1 cursor tidy
  | fetchAll =>
    rw [← asks (by decide)]
    exact collected_keeps fetch_tidy (cursor.remaining + 1) cursor tidy

/-- Calls keep a cursor tidy; once it is freed it counts as freed. -/
theorem Tidy.called (tidy : cursor.Tidy ahead hasResult given) (calls : List Call) :
    (cursor.called calls).2.Tidy ahead hasResult (given ∨ Call.free ∈ calls) := by
  induction calls generalizing cursor given with
  | nil =>
    rw [eq_false List.not_mem_nil, or_false]
    exact tidy
  | cons call rest inductionHypothesis =>
    have later := inductionHypothesis (tidy.run call)
    rw [or_assoc] at later
    rw [List.mem_cons, eq_comm (a := Call.free)]
    exact later

/-- Freeing makes no difference to a cursor that counts as freed from the beginning. -/
theorem called_free (tidy : cursor.Tidy True hasResult True) (before later : List Call) :
    cursor.called (before ++ .free :: later) = cursor.called (before ++ later) := by
  induction before generalizing cursor with
  | nil =>
    have idle : Call.free.run cursor = (.ok [], cursor) := by
      rw [Call.run, bind_apply, free_freed (tidy.freed trivial)]
      rfl
    change (_ ++ _, _) = _
    rw [idle]
    rfl
  | cons call rest inductionHypothesis =>
    have next : (call.run cursor).2.Tidy True hasResult True :=
      (tidy.run call).imp fun _ => .inl trivial
    rw [List.cons_append, List.cons_append, Cursor.called, Cursor.called, inductionHypothesis next]

/-! ## Exhausted cursors -/

theorem pull_exhausted (exhausted : cursor.source = .exhausted) :
    pull cursor = (.ok none, cursor) := by
  obtain ⟨plan, result?, source, window?, hints, isFreed, closings⟩ := cursor
  obtain rfl : source = .exhausted := exhausted
  rfl

/-- An exhausted cursor has no row to leave out. -/
theorem discard_exhausted (exhausted : cursor.source = .exhausted) (skip : Nat) :
    discard skip cursor = (.ok (skip == 0), cursor) := by
  cases skip with
  | zero => rfl
  | succ skip =>
    rw [discard, bind_apply, pull_exhausted exhausted]
    rfl

/-- An exhausted cursor passes no row on, whatever its window is. -/
theorem passed_exhausted (exhausted : cursor.source = .exhausted) :
    (passed cursor).1 = .ok none := by
  have pulled : ∀ window? : Option Window, (pull { cursor with window? }).1 = .ok none := by
    intro window?
    have still : Cursor.source { cursor with window? } = .exhausted := exhausted
    exact congrArg Prod.fst (pull_exhausted still)
  unfold passed
  rw [get_bind_apply]
  cases cursor.window? with
  | none => exact congrArg Prod.fst (pull_exhausted exhausted)
  | some window =>
    dsimp only
    rw [bind_apply, discard_exhausted exhausted]
    cases window.skip == 0 with
    | false => rfl
    | true =>
      rcases window.left with _ | _ | left
      · exact pulled _
      · rfl
      · exact pulled _

theorem fetch_exhausted (exhausted : cursor.source = .exhausted) :
    (fetch cursor).1 = .ok none := by
  have passes := passed_exhausted exhausted
  unfold fetch
  rw [bind_apply]
  generalize passed cursor = out at passes ⊢
  obtain ⟨outcome, later⟩ := out
  obtain rfl : outcome = .ok none := passes
  rfl

theorem fetchAll_exhausted (exhausted : cursor.source = .exhausted) :
    (fetchAll cursor).1 = .ok [] := by
  have fetched := fetch_exhausted exhausted
  change (collected fetch (cursor.remaining + 1) cursor).1 = .ok []
  rw [collected, bind_apply]
  generalize fetch cursor = out at fetched ⊢
  obtain ⟨outcome, later⟩ := out
  obtain rfl : outcome = .ok none := fetched
  rfl

/-! ## From the beginning -/

/-- Without rows to be read ahead, pulling before a cursor is ready exhausts it. -/
theorem collected_unread {plan : Plan} {result? : Option ResultSet}
    (dynamic : plan.staticRows = none) (shaped : plan.reshape.isSome = true)
    (unread : ¬plan.ReadsAhead result?) (count : Nat) :
    collected pull (count + 1) { plan, result? } =
      (.ok [], { plan, result?, source := .exhausted }) := by
  have silent : ∀ result, result? = some result → result.returnsRows = false :=
    fun result known => Bool.eq_false_iff.mpr fun returns =>
      unread ⟨dynamic, shaped, result, known, returns⟩
  have pulled : pull { plan, result? } = (.ok none, { plan, result?, source := .exhausted }) := by
    unfold pull
    rw [get_bind_apply]
    cases result? with
    | none => rfl
    | some result =>
      simp only [silent result rfl, Bool.false_eq_true, if_false]
      rfl
  rw [collected, bind_apply, pulled]
  rfl

/-- A new cursor is tidy, and counts as freed when its rows were read ahead.

Proof: the rows are read while the cursor is made when they are reshaped. The result is closed then
if it has any rows to be read, and else nothing happens to it. -/
theorem start_tidy {plan : Plan} {result? : Option ResultSet}
    (started : start plan result? = (.ok (), cursor)) :
    cursor.Tidy (plan.ReadsAhead result?) result?.isSome (plan.ReadsAhead result?) := by
  by_cases ahead : plan.ReadsAhead result?
  case pos =>
    obtain ⟨dynamic, shaped, result, rfl, returns⟩ := id ahead
    obtain ⟨reads | settled, closed⟩ := start_stage dynamic returns started
    · rw [reads.counted] at closed
      cases closed shaped
    · obtain ⟨_, held⟩ := settled.held
      have isFreed : cursor.isFreed = true :=
        Bool.toNat_eq_one.mp (settled.counted.symm.trans (closed shaped))
      refine ⟨by rw [held]; rfl, ?_, fun _ => .inl ahead, fun _ => isFreed⟩
      rw [settled.counted, Option.isSome_some, Bool.and_true]
  case neg =>
    have fresh : ∀ source window?, Tidy (plan.ReadsAhead result?) result?.isSome
        (plan.ReadsAhead result?) { plan, result?, source, window? } :=
      fun source window? => ⟨rfl, rfl, nofun, fun wrong => absurd wrong ahead⟩
    unfold start prepare at started
    rw [get_bind_apply] at started
    dsimp only at started
    cases dynamic : plan.staticRows with
    | some rows =>
      rw [dynamic] at started
      obtain ⟨same, -⟩ := filtered_ok { plan, result?, source := .given rows } started
      rw [same]
      exact fresh _ _
    | none =>
      rw [dynamic] at started
      cases shaped : plan.reshape with
      | none =>
        rw [shaped] at started
        obtain ⟨same, -⟩ := filtered_ok { plan, result? } started
        rw [same]
        exact fresh _ _
      | some reshape =>
        have unread := collected_unread dynamic (by rw [shaped]; rfl) ahead
          (remaining { plan, result? })
        rw [shaped] at started
        dsimp only at started
        rw [bind_apply, unread] at started
        dsimp only at started
        cases reshaped : (reshape []).result with
        | error failure =>
          rw [reshaped] at started
          cases started
        | ok source =>
          rw [reshaped] at started
          obtain ⟨same, -⟩ := filtered_ok { plan, result?, source := .given source } started
          rw [same]
          exact fresh _ _

/-- Freeing a cursor gives up the rows that are left: whatever is called before and later, it hands
out none from then on, and its result was closed exactly once. The exception is a cursor whose rows
were read ahead: its result is closed once as well, but freeing it makes no difference to what it
hands out.

Proof: every call keeps a cursor tidy. One that was freed counts as freed, so it is exhausted, and
an exhausted cursor stays exhausted; unless its rows were read ahead, for then it counted as freed
before and freeing did nothing. -/
theorem start_freed {plan : Plan} {result? : Option ResultSet}
    (started : start plan result? = (.ok (), cursor)) (before later : List Call) :
    let after := (cursor.called (before ++ .free :: later)).2
    (∀ result, result? = some result → after.closings = 1) ∧
      (¬plan.ReadsAhead result? → (fetch after).1 = .ok none ∧ (fetchAll after).1 = .ok []) ∧
      (plan.ReadsAhead result? →
        cursor.called (before ++ .free :: later) = cursor.called (before ++ later)) := by
  have first := start_tidy started
  have tidy := first.called (before ++ .free :: later)
  have member : Call.free ∈ before ++ .free :: later :=
    List.mem_append_right before List.mem_cons_self
  have isFreed := tidy.freed (.inr member)
  refine ⟨fun result known => ?_, fun unread => ?_, fun ahead => ?_⟩
  · rw [tidy.counted, isFreed, known]
    rfl
  · have exhausted := (tidy.idle isFreed).resolve_left unread
    exact ⟨fetch_exhausted exhausted, fetchAll_exhausted exhausted⟩
  · rw [eq_true ahead] at first
    exact called_free first before later

/-- A plan whose only column is renamed. -/
def renamedPlan : Plan where
  reshape := some (renamedRows ["name"])

/-- After it was freed, a cursor on renamed rows still hands out the first of them. -/
theorem renamedPlan_freed :
    let result : ResultSet := { rows := pageRows.map .ok, returnsRows := true }
    let cursor := (start renamedPlan (some result)).2
    start renamedPlan (some result) = (.ok (), cursor) ∧ renamedPlan.ReadsAhead (some result) ∧
      (cursor.called [.free]).2.closings = 1 ∧
      (cursor.called [.free, .fetch]).1 = [[("name", .int 0)]] := by
  intro result cursor
  have started : start renamedPlan (some result) = (.ok (), cursor) := rfl
  have ahead : renamedPlan.ReadsAhead (some result) := ⟨rfl, rfl, result, rfl, rfl⟩
  obtain ⟨closed, -, -⟩ := start_freed started [] []
  obtain ⟨-, -, same⟩ := start_freed started [] [.fetch]
  exact ⟨started, ahead, closed result rfl, congrArg Prod.fst (same ahead)⟩

end Cursor

end PortableSql
