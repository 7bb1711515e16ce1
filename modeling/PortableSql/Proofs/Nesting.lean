import PortableSql.Proofs.Leaving

/-!
# Nested transactions on one connection

A slot counts the levels of its transaction, and only the outermost beginning and commit are sent.
Whatever is asked of it, and whichever beginnings and commits fail, the count is zero exactly when
the server has no transaction, as long as a call that failed did nothing there and no rollback
fails.
-/

namespace PortableSql

namespace Slot

open Acting

variable {σ : Type}

/-- What is asked of a slot. -/
inductive Turn where
  | control (control : Control)
  | commitAll
deriving DecidableEq, Repr

namespace Turn

def act (server : Server σ) : Turn → Acting σ Slot Unit
  | control asked => asked.onSlot server
  | commitAll => Slot.commitAll server

/-- The statements that are sent at a depth. -/
def statements (dialect : Dialect) : Turn → Nat → List Statement
  | control asked, depth => asked.statements dialect depth
  | commitAll, depth => dialect.commits depth

/-- The depth that is left by how it ends. Where committing all levels fails, one level stays. -/
def left : Turn → Except Failure Unit → Nat → Nat
  | control asked, outcome, depth => asked.left outcome depth
  | commitAll, outcome, depth => if depth = 0 then 0 else Control.commit.left outcome 1

variable {slot : Slot} {number engines : Nat}

theorem act_tells (isOn : slot.connection.On number) (server : Server σ) (turn : Turn) :
    (turn.act server).Tells slot engines fun outcome after later added =>
      after = { slot with depth := turn.left outcome slot.depth } ∧ later = engines ∧
        Served number slot.connection.dialect
          (turn.statements slot.connection.dialect slot.depth) added := by
  cases turn with
  | control asked => exact asked.onSlot_settles isOn server
  | commitAll => exact commitAll_settles isOn server

theorem statements_bare {turn : Turn} {dialect : Dialect} {depth : Nat} {statement : Statement}
    (member : statement ∈ turn.statements dialect depth) : statement.parameters = [] := by
  cases turn with
  | control asked => exact (Control.statements_bare member).1
  | commitAll =>
    rw [statements, Dialect.commits] at member
    split at member
    · cases member
    · rw [List.mem_singleton.mp member]
      rfl

/-- What is sent at a depth moves the transaction as success moves the depth. -/
theorem statements_advance (family : Family) (turn : Turn) (depth : Nat) :
    (turn.statements family.dialect depth).foldlM
        (fun isOpen statement => family.dialect.advance isOpen statement.sql) (decide (depth ≠ 0)) =
      some (decide (turn.left (.ok ()) depth ≠ 0)) := by
  cases turn with
  | control asked =>
    rw [Turn.left, Control.left_ok]
    exact asked.statements_advance family depth
  | commitAll =>
    obtain ⟨-, commits, -⟩ := family.control?_eq
    rcases depth with _ | depth
    · simp [statements, Dialect.commits, Turn.left]
    · simp [statements, Dialect.commits, Dialect.advance, commits, Control.advance, Turn.left,
        Control.left, Control.depth]

/-- Failing does not close a transaction or open one, but for a rollback. -/
theorem left_error {turn : Turn} (moving : turn ≠ control .rollback) (failure : Failure)
    (depth : Nat) : turn.left (.error failure) depth ≠ 0 ↔ depth ≠ 0 := by
  cases turn with
  | control asked =>
    have other : asked ≠ .rollback := fun same => moving (congrArg control same)
    rw [left, Control.left_error other]
  | commitAll => by_cases flat : depth = 0 <;> simp [left, flat, Control.left]

end Turn

/-! ## Runs -/

/-- One call on a slot: what was asked, how it ended, the slot before and after it, and what
happened. -/
structure Entry where
  turn : Turn
  outcome : Except Failure Unit
  before : Slot
  after : Slot
  events : List Event

/-- What is asked of a slot, one after the other, whatever fails. -/
def history (server : Server σ) : List Turn → Slot × World σ → List Entry
  | [], _ => []
  | turn :: rest, (before, world) =>
    let (outcome, after, later) := turn.act server (before, world)
    let events := later.events.drop world.events.length
    { turn, outcome, before, after, events } :: history server rest (after, later)

namespace Entry

/-- The call ended well. -/
def succeeds (entry : Entry) : Bool := entry.outcome matches .ok _

/-- Whether the server has a transaction after a call, where one that failed did nothing. There is
no answer when a transaction was begun inside of an open one, or committed outside of one, be it by
a call that failed. -/
def advance (dialect : Dialect) (number : Nat) (isOpen : Bool) (entry : Entry) : Option Bool :=
  (transactionAfter dialect number isOpen entry.events).map fun moved =>
    if entry.succeeds then moved else isOpen

/-- What a call does on an open connection. -/
structure Made (number : Nat) (entry : Entry) : Prop where
  after : entry.after =
    { entry.before with depth := entry.turn.left entry.outcome entry.before.depth }
  served : Served number entry.before.connection.dialect
    (entry.turn.statements entry.before.connection.dialect entry.before.depth) entry.events

end Entry

/-- Whether the server has a transaction after some calls. -/
def onServer (dialect : Dialect) (number : Nat) (isOpen : Bool) (entries : List Entry) :
    Option Bool :=
  entries.foldlM (Entry.advance dialect number) isOpen

/-- Calls that were made from one slot to another. -/
inductive Run (number : Nat) : Slot → List Entry → Slot → Prop
  | done (slot : Slot) : Run number slot [] slot
  | call {entry : Entry} {rest : List Entry} {last : Slot} (made : entry.Made number)
      (others : Run number entry.after rest last) : Run number entry.before (entry :: rest) last

variable {slot last : Slot} {number : Nat} {entries : List Entry} {family : Family}

/-- What is asked of a slot on an open connection is a run. -/
theorem history_run (isOn : slot.connection.On number) (server : Server σ) (turns : List Turn)
    (world : World σ) : ∃ last, Run number slot (history server turns (slot, world)) last := by
  induction turns generalizing slot world with
  | nil => exact ⟨slot, .done slot⟩
  | cons turn rest inductionHypothesis =>
    obtain ⟨outcome, after, added, later, ran, events, same, -, served⟩ :=
      turn.act_tells isOn server world rfl
    have still : after.connection.On number := by
      rw [same]
      exact isOn
    obtain ⟨last, run⟩ := inductionHypothesis still later
    let entry : Entry := { turn, outcome, before := slot, after, events := added }
    have begun : history server (turn :: rest) (slot, world) =
        entry :: history server rest (after, later) := by
      rw [history, ran]
      dsimp only
      rw [events, List.drop_left]
    have made : entry.Made number := ⟨same, served⟩
    rw [begun]
    exact ⟨last, .call made run⟩

/-- A call moves the transaction on the server as it moves the depth. -/
theorem Entry.Made.advance {entry : Entry} (made : entry.Made number)
    (spoken : entry.before.connection.dialect = family.dialect)
    (rolls : entry.turn = .control .rollback → entry.succeeds = true) :
    entry.advance family.dialect number (decide (entry.before.depth ≠ 0)) =
      some (decide (entry.after.depth ≠ 0)) := by
  have served := made.served
  rw [spoken] at served
  have moved : transactionAfter family.dialect number (decide (entry.before.depth ≠ 0))
      entry.events = some (decide (entry.turn.left (.ok ()) entry.before.depth ≠ 0)) := by
    rw [served.transactionAfter, Turn.statements_advance]
    intro statement member request renders
    rw [(renders.plain (Turn.statements_bare member)).1]
  rw [Entry.advance, moved, made.after, Option.map_some]
  unfold succeeds at rolls ⊢
  cases ended : entry.outcome with
  | ok done => rfl
  | error failure =>
    rw [ended] at rolls
    have moving : entry.turn ≠ .control .rollback := fun asked => nomatch rolls asked
    simp [Turn.left_error moving]

/-- The depth of a run tells the transaction on the server after each of its calls. -/
theorem Run.onServer (run : Run number slot entries last)
    (spoken : slot.connection.dialect = family.dialect)
    (rolls : ∀ entry ∈ entries, entry.turn = .control .rollback → entry.succeeds = true) :
    ∀ front entry, front ++ [entry] <+: entries →
      Slot.onServer family.dialect number (decide (slot.depth ≠ 0)) (front ++ [entry]) =
        some (decide (entry.after.depth ≠ 0)) := by
  -- From what the first call leaves, the depth tells the transaction again.
  induction run with
  | done slot =>
    intro front entry upTo
    cases front <;> cases List.prefix_nil.mp upTo
  | @call first rest last made others inductionHypothesis =>
    have moved := made.advance spoken (rolls first List.mem_cons_self)
    have still : first.after.connection.dialect = family.dialect := by
      rw [made.after]
      exact spoken
    intro front entry upTo
    cases front with
    | nil =>
      obtain ⟨rfl, -⟩ := List.cons_prefix_cons.mp upTo
      rw [Slot.onServer, List.nil_append, List.foldlM_cons, moved]
      rfl
    | cons head front =>
      obtain ⟨rfl, behind⟩ := List.cons_prefix_cons.mp upTo
      have following := inductionHypothesis still
        (fun other member => rolls other (List.mem_cons_of_mem _ member)) front entry behind
      rw [List.cons_append, Slot.onServer, List.foldlM_cons, moved]
      exact following

/-- Every call of a run was made, on the connection of its first slot. -/
theorem Run.made (run : Run number slot entries last) :
    ∀ entry ∈ entries, entry.Made number ∧ entry.before.connection = slot.connection := by
  induction run with
  | done slot => exact fun _ member => nomatch member
  | @call first rest last made others inductionHypothesis =>
    intro entry member
    rcases List.mem_cons.mp member with rfl | following
    · exact ⟨made, rfl⟩
    · obtain ⟨known, same⟩ := inductionHypothesis entry following
      refine ⟨known, same.trans ?_⟩
      rw [made.after]

/-- A run of two parts goes over some slot between them. -/
theorem Run.split {front back : List Entry} (run : Run number slot (front ++ back) last) :
    ∃ middle, Run number slot front middle ∧ Run number middle back last := by
  induction front generalizing slot with
  | nil => exact ⟨slot, .done slot, run⟩
  | cons head rest inductionHypothesis =>
    cases run with
    | call made others =>
      obtain ⟨middle, first, second⟩ := inductionHypothesis others
      exact ⟨middle, .call made first, second⟩

/-! ## Beginnings and commits in pairs -/

/-- The statements of the calls that ended well. -/
def accepted (dialect : Dialect) (entries : List Entry) : List Statement :=
  (entries.filter Entry.succeeds).flatMap fun entry =>
    entry.turn.statements dialect entry.before.depth

/-- The calls that ended well sent their statements. -/
theorem Run.served_accepted (run : Run number slot entries last)
    (spoken : slot.connection.dialect = family.dialect) :
    Served number family.dialect (accepted family.dialect entries)
      ((entries.filter Entry.succeeds).flatMap Entry.events) := by
  have each : ∀ entry ∈ entries.filter Entry.succeeds, Served number family.dialect
      (entry.turn.statements family.dialect entry.before.depth) entry.events := by
    intro entry member
    obtain ⟨made, same⟩ := run.made entry (List.mem_of_mem_filter member)
    have served := made.served
    rw [same, spoken] at served
    exact served
  unfold accepted
  generalize entries.filter Entry.succeeds = kept at each ⊢
  induction kept with
  | nil => exact served_nil
  | cons head rest inductionHypothesis =>
    obtain ⟨first, others⟩ := List.forall_mem_cons.mp each
    exact first.append (inductionHypothesis others)

variable {entry : Entry} {rest : List Entry} {dialect : Dialect}

theorem accepted_failed (failed : entry.succeeds = false) :
    accepted dialect (entry :: rest) = accepted dialect rest := by
  rw [accepted, List.filter_cons_of_neg (by simp [failed]), accepted]

theorem accepted_succeeded (ended : entry.succeeds = true) :
    accepted dialect (entry :: rest) =
      entry.turn.statements dialect entry.before.depth ++ accepted dialect rest := by
  rw [accepted, List.filter_cons_of_pos ended, List.flatMap_cons, accepted]

/-- The depth that a beginning or a commit leaves. -/
theorem Entry.Made.depth_eq {control : Control} (made : entry.Made number)
    (asked : entry.turn = .control control) (moving : control ≠ .rollback) :
    entry.after.depth =
      if entry.succeeds then control.depth entry.before.depth else entry.before.depth := by
  rw [made.after, asked]
  unfold succeeds
  cases entry.outcome <;> cases control <;> first | rfl | exact absurd rfl moving

/-- Of the beginnings that end well only the outermost one is sent. -/
theorem Run.begins (run : Run number slot entries last)
    (begins : ∀ entry ∈ entries, entry.turn = .control .begin) (dialect : Dialect) :
    last.depth = slot.depth + entries.countP Entry.succeeds ∧
      accepted dialect entries =
        if slot.depth = 0 then mirrored dialect (entries.countP Entry.succeeds) else [] := by
  induction run with
  | done slot => simp [accepted, mirrored]
  | @call first rest last made others inductionHypothesis =>
    obtain ⟨head, tail⟩ := List.forall_mem_cons.mp begins
    obtain ⟨depth, sent⟩ := inductionHypothesis tail
    have moved := made.depth_eq head (by decide)
    cases ended : first.succeeds with
    | false =>
      have same : first.after.depth = first.before.depth := by simpa [ended] using moved
      rw [List.countP_cons_of_neg (by simp [ended]), accepted_failed ended, depth, sent, same]
      exact ⟨rfl, rfl⟩
    | true =>
      have deeper : first.after.depth = first.before.depth + 1 := by
        simpa [ended, Control.depth] using moved
      rw [List.countP_cons_of_pos ended, accepted_succeeded ended, depth, sent, deeper, head]
      refine ⟨by omega, ?_⟩
      simp [Turn.statements, Control.statements, mirrored]

/-- Of as many commits as there are levels only the last one is sent. -/
theorem Run.commits (run : Run number slot entries last)
    (commits : ∀ entry ∈ entries, entry.turn = .control .commit) (dialect : Dialect)
    (levels : entries.countP Entry.succeeds = slot.depth) :
    accepted dialect entries = dialect.commits slot.depth := by
  induction run with
  | done slot =>
    have flat : slot.depth = 0 := levels.symm
    rw [Dialect.commits, if_pos flat]
    rfl
  | @call first rest last made others inductionHypothesis =>
    obtain ⟨head, tail⟩ := List.forall_mem_cons.mp commits
    have moved := made.depth_eq head (by decide)
    cases ended : first.succeeds with
    | false =>
      have same : first.after.depth = first.before.depth := by simpa [ended] using moved
      rw [List.countP_cons_of_neg (by simp [ended])] at levels
      rw [accepted_failed ended, inductionHypothesis tail (levels.trans same.symm), same]
    | true =>
      have lower : first.after.depth = first.before.depth - 1 := by
        simpa [ended, Control.depth] using moved
      rw [List.countP_cons_of_pos ended] at levels
      rw [accepted_succeeded ended, inductionHypothesis tail (by omega), lower, head, ← levels]
      cases rest.countP Entry.succeeds <;>
        simp [Turn.statements, Control.statements, Dialect.commits]

/-- As many beginnings as commits, from a slot without a transaction: of those that end well one
of each is sent. -/
theorem Run.paired {begins commits : List Entry} (run : Run number slot (begins ++ commits) last)
    (flat : slot.depth = 0) (beginnings : ∀ entry ∈ begins, entry.turn = .control .begin)
    (endings : ∀ entry ∈ commits, entry.turn = .control .commit)
    (level : begins.countP Entry.succeeds = commits.countP Entry.succeeds)
    (some : begins.countP Entry.succeeds ≠ 0) (dialect : Dialect) :
    accepted dialect (begins ++ commits) =
      [dialect.beginTransaction, dialect.commitTransaction] := by
  obtain ⟨middle, first, second⟩ := run.split
  obtain ⟨depth, begun⟩ := first.begins beginnings dialect
  rw [flat, Nat.zero_add] at depth
  have ended := second.commits endings dialect (level.symm.trans depth.symm)
  have parts : accepted dialect (begins ++ commits) =
      accepted dialect begins ++ accepted dialect commits := by
    rw [accepted, List.filter_append, List.flatMap_append, accepted, accepted]
  have deep : middle.depth ≠ 0 := depth ▸ some
  rw [parts, begun, ended, if_pos flat, mirrored, if_neg some, Dialect.commits, if_neg deep]
  rfl

/-- Calls that all ask the same and end well are as many as were asked. -/
theorem countP_of_replicate {levels : Nat} {turn : Turn}
    (asked : entries.map Entry.turn = List.replicate levels turn)
    (succeed : ∀ entry ∈ entries, entry.succeeds = true) :
    (∀ entry ∈ entries, entry.turn = turn) ∧ entries.countP Entry.succeeds = levels := by
  obtain ⟨count, each⟩ := List.eq_replicate_iff.mp asked
  refine ⟨fun entry member => each _ (List.mem_map_of_mem member), ?_⟩
  rw [List.countP_eq_length.mpr succeed, ← count, List.length_map]

/-- How the calls on a slot and the transaction on its server go together. -/
structure Nested (family : Family) (number : Nat) (slot : Slot) (entries : List Entry) : Prop where
  /-- After every call the server has a transaction exactly when there is a level, and none was
  begun inside of another one or committed outside of one. -/
  follows : ∀ front entry, front ++ [entry] <+: entries →
    onServer family.dialect number (decide (slot.depth ≠ 0)) (front ++ [entry]) =
      some (decide (entry.after.depth ≠ 0))
  failed : ∀ entry ∈ entries, entry.turn = .control .begin ∨ entry.turn = .control .commit →
    entry.succeeds = false → entry.after.depth = entry.before.depth
  rolledBack : ∀ entry ∈ entries, entry.turn = .control .rollback → entry.after.depth = 0 ∧
    Served number family.dialect [family.dialect.rollbackTransaction] entry.events
  /-- Some beginnings and then as many commits, not counting those that fail, begin and commit one
  transaction. -/
  paired : slot.depth = 0 → ∀ begins commits, entries = begins ++ commits →
    (∀ entry ∈ begins, entry.turn = .control .begin) →
    (∀ entry ∈ commits, entry.turn = .control .commit) →
    begins.countP Entry.succeeds = commits.countP Entry.succeeds →
    begins.countP Entry.succeeds ≠ 0 →
    Served number family.dialect
      [family.dialect.beginTransaction, family.dialect.commitTransaction]
      ((entries.filter Entry.succeeds).flatMap Entry.events)
  /-- Nothing else is sent when none of them fails. -/
  whole : slot.depth = 0 → ∀ levels, levels ≠ 0 → entries.map Entry.turn =
    List.replicate levels (.control .begin) ++ List.replicate levels (.control .commit) →
    (∀ entry ∈ entries, entry.succeeds = true) →
    Served number family.dialect
      [family.dialect.beginTransaction, family.dialect.commitTransaction]
      (entries.flatMap Entry.events)

/-- Whatever is asked of a slot on an open connection, and whichever beginnings and commits fail,
its depth tells the transaction on the server, as long as no rollback fails.

Proof: a call sends what its depth asks for, and moves the depth only when that is answered. So each
call moves the transaction as it moves the depth, which carries over to runs. Between beginnings
and as many commits the depth is not zero, so what is inside of the first and the last is not
sent. -/
theorem transactions_nested (isOn : slot.connection.On number)
    (spoken : slot.connection.dialect = family.dialect) (server : Server σ) (turns : List Turn)
    (world : World σ)
    (rolls : ∀ entry ∈ history server turns (slot, world),
      entry.turn = .control .rollback → entry.succeeds = true) :
    Nested family number slot (history server turns (slot, world)) := by
  obtain ⟨last, run⟩ := history_run isOn server turns world
  generalize history server turns (slot, world) = entries at run rolls
  have paired : slot.depth = 0 → ∀ begins commits, entries = begins ++ commits →
      (∀ entry ∈ begins, entry.turn = .control .begin) →
      (∀ entry ∈ commits, entry.turn = .control .commit) →
      begins.countP Entry.succeeds = commits.countP Entry.succeeds →
      begins.countP Entry.succeeds ≠ 0 →
      Served number family.dialect
        [family.dialect.beginTransaction, family.dialect.commitTransaction]
        ((entries.filter Entry.succeeds).flatMap Entry.events) := by
    rintro flat begins commits rfl beginnings endings level some
    rw [← run.paired flat beginnings endings level some family.dialect]
    exact run.served_accepted spoken
  refine ⟨run.onServer spoken rolls, fun entry member asked failed => ?_,
    fun entry member asked => ?_, paired, fun flat levels some asked succeed => ?_⟩
  · obtain ⟨made, -⟩ := run.made entry member
    rcases asked with begun | committed
    · simpa [failed] using made.depth_eq begun (by decide)
    · simpa [failed] using made.depth_eq committed (by decide)
  · obtain ⟨made, same⟩ := run.made entry member
    have served := made.served
    rw [same, spoken, asked] at served
    exact ⟨by rw [made.after, asked]; rfl, served⟩
  · obtain ⟨begins, commits, rfl, first, second⟩ := List.map_eq_append_iff.mp asked
    obtain ⟨beginnings, begun⟩ := countP_of_replicate first fun entry member =>
      succeed entry (List.mem_append_left _ member)
    obtain ⟨endings, ended⟩ := countP_of_replicate second fun entry member =>
      succeed entry (List.mem_append_right _ member)
    have served := paired flat begins commits rfl beginnings endings (begun.trans ended.symm)
      (begun ▸ some)
    rwa [List.filter_eq_self.mpr succeed] at served

/-- A beginning is refused and tried again, another one is made inside of it, and committing both
levels at once is refused and tried again. The last beginning is refused, and rolled back. -/
theorem refusals_nested :
    let slot : Slot := {
      name := "primary"
      connection := {
        settings := { url := "mysql://p/" }
        dialect := Family.mysql.dialect
        engine? := some 0
        isOpen := true } }
    let turns : List Turn :=
      [.control .begin, .control .begin, .control .begin, .commitAll, .control .commit,
       .control .begin, .control .rollback]
    let entries := history Server.fickle turns (slot, { memory := 0, engines := 1 })
    slot.connection.On 0 ∧ slot.connection.dialect = Family.mysql.dialect ∧
      (∀ entry ∈ entries, entry.turn = .control .rollback → entry.succeeds = true) ∧
      Nested .mysql 0 slot entries ∧
      entries.map Entry.succeeds = [false, true, true, false, true, false, true] ∧
      entries.map (fun entry => entry.after.depth) = [0, 1, 2, 1, 0, 0, 0] := by
  intro slot turns entries
  have isOn : slot.connection.On 0 := ⟨rfl, rfl⟩
  have rolls : ∀ entry ∈ entries, entry.turn = .control .rollback → entry.succeeds = true := by
    decide
  exact ⟨isOn, rfl, rolls,
    transactions_nested isOn rfl Server.fickle turns { memory := 0, engines := 1 } rolls,
    by decide, by decide⟩

end Slot

end PortableSql
