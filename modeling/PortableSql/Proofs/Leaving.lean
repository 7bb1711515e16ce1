import PortableSql.Proofs.Mirroring

/-!
# Leaving a session by an error

A session that is left by an error rolls back and closes its connections. Whether it rolls back is
decided by the connection that commands run on, and closing commits what any connection still has
open. So a transaction that only the primary has is committed; it remains there alone when it was
begun on the primary and not on the master. And a rollback that ends by a failure which is no
report ends everything: then no connection is closed.
-/

namespace PortableSql

/-- The statements that commit what is open at a depth. -/
def Dialect.commits (dialect : Dialect) (depth : Nat) : List Statement :=
  if depth = 0 then [] else [dialect.commitTransaction]

namespace Connection

open Acting

variable {σ : Type} {connection : Connection} {number engines : Nat}

/-- Closing an open connection closes it and gives up its engine, whatever the server answers. -/
theorem On.close_tells (isOn : connection.On number) (server : Server σ) :
    (Connection.close server).Tells connection engines fun _ _ later added =>
      later = engines ∧ added = [.closed number, .disposed number] := by
  have closing : (Connection.closeOpen server).Tells connection engines
      fun _ after later added => after = connection ∧ later = engines ∧
        added = [.closed number] := by
    refine tells_this_bind ?_
    rw [isOn.1, isOn.2]
    exact tells_note_bind (tells_call_bind fun _ => tells_settle ⟨rfl, rfl, rfl⟩)
  refine closing.outcomeBind ?_
  rintro ending after later added ⟨rfl, rfl, rfl⟩
  refine tells_this_bind ?_
  rw [isOn.1]
  exact tells_note_bind (tells_change_bind (tells_settle ⟨rfl, rfl⟩))

end Connection

namespace Control

open Acting

variable {σ : Type} {slot : Slot} {number engines : Nat}

theorem onSlot_leaves (isOn : slot.connection.On number) (server : Server σ) (control : Control) :
    (control.onSlot server).Tells slot engines fun outcome after later _ =>
      later = engines ∧ after = { slot with depth := control.left outcome slot.depth } := by
  refine (control.onSlot_settles isOn server).imp ?_
  rintro outcome after later added ⟨same, count, -⟩
  exact ⟨count, same⟩

end Control

/-! ## Commits among events -/

/-- Some engine was asked to commit. -/
def Dialect.CommitIn (dialect : Dialect) (events : List Event) : Prop :=
  ∃ engine request, .executed engine request ∈ events ∧
    request.sql = dialect.commitTransaction.sql

namespace Dialect

variable {dialect : Dialect} {number : Nat} {events others : List Event}

theorem commitIn_append :
    dialect.CommitIn (events ++ others) ↔ dialect.CommitIn events ∨ dialect.CommitIn others := by
  simp only [CommitIn, List.mem_append, or_and_right, exists_or]

theorem not_commitIn_nil : ¬dialect.CommitIn [] := fun ⟨_, _, member, _⟩ => nomatch member

theorem not_commitIn_closing : ¬dialect.CommitIn [.closed number, .disposed number] := by
  rintro ⟨engine, request, member, -⟩
  rcases List.mem_cons.mp member with wrong | member
  · cases wrong
  · cases List.mem_singleton.mp member

/-- A commit is sent exactly where something is open. -/
theorem commitIn_commits {depth : Nat}
    (served : Served number dialect (dialect.commits depth) events) :
    dialect.CommitIn events ↔ depth ≠ 0 := by
  constructor
  · rintro ⟨engine, request, member, -⟩ flat
    obtain ⟨statement, belongs, -⟩ := served.rendered member
    rw [commits, if_pos flat] at belongs
    cases belongs
  · intro deep
    obtain ⟨-, renders⟩ := served
    rw [commits, if_neg deep] at renders
    obtain ⟨request, rest, known, -, requests⟩ := List.forall₂_cons_left_iff.mp renders
    have member : request ∈ events.filterMap Event.request? := requests ▸ List.mem_cons_self
    obtain ⟨event, belongs, asked⟩ := List.mem_filterMap.mp member
    cases event with
    | executed engine other =>
      cases asked
      exact ⟨engine, request, belongs, (known.plain rfl).1⟩
    | _ => cases asked

/-- Rolling back commits nothing, where the two are told apart. -/
theorem not_commitIn_rollback
    (apart : dialect.rollbackTransaction.sql ≠ dialect.commitTransaction.sql)
    (served : Served number dialect [dialect.rollbackTransaction] events) :
    ¬dialect.CommitIn events := by
  rintro ⟨engine, request, member, same⟩
  obtain ⟨statement, belongs, renders⟩ := served.rendered member
  rw [List.mem_singleton.mp belongs] at renders
  exact apart ((renders.plain rfl).1.symm.trans same)

end Dialect

namespace Slot

open Acting

variable {σ : Type} {slot : Slot} {number engines : Nat}

/-- Committing all levels sends one commit, if there is a level. When that fails one level is
left. -/
theorem commitAll_settles (isOn : slot.connection.On number) (server : Server σ) :
    (commitAll server).Tells slot engines fun outcome after later added =>
      after = { slot with
        depth := if slot.depth = 0 then 0 else Control.commit.left outcome 1 } ∧
      later = engines ∧ Served number slot.connection.dialect
        (slot.connection.dialect.commits slot.depth) added := by
  refine tells_this_bind ?_
  unfold Dialect.commits
  by_cases flat : slot.depth = 0
  case pos =>
    simp only [if_pos flat]
    refine tells_pure ⟨?_, rfl, served_nil⟩
    exact congrArg (fun depth => { slot with depth }) flat
  case neg =>
    simp only [if_neg flat]
    refine tells_change_bind ?_
    have single : Connection.On { slot with depth := 1 }.connection number := isOn
    exact Control.onSlot_settles single server .commit

theorem commitAll_tells (isOn : slot.connection.On number) (server : Server σ) :
    (commitAll server).Tells slot engines fun _ after later added => later = engines ∧
      after.connection = slot.connection ∧ Served number slot.connection.dialect
        (slot.connection.dialect.commits slot.depth) added := by
  refine (commitAll_settles isOn server).imp ?_
  rintro outcome after later added ⟨rfl, count, served⟩
  exact ⟨count, rfl, served⟩

theorem close_tells (isOn : slot.connection.On number) (server : Server σ) :
    (onConnection (Connection.close server)).Tells slot engines fun _ _ later added =>
      later = engines ∧ added = [.closed number, .disposed number] :=
  (isOn.close_tells server).within fun _ _ _ _ told => told

end Slot

namespace Session

open Acting

variable {σ : Type} {session : Session} {primary engines : Nat}

/-- What closing every slot does to one of them. -/
abbrev Closed (_ : Slot) (number : Nat) (_ : Except Failure Unit) (_ : Slot)
    (added : List Event) : Prop :=
  added = [.closed number, .disposed number]

/-- What committing all levels does to a slot. -/
abbrev Committed (slot : Slot) (number : Nat) (_ : Except Failure Unit) (moved : Slot)
    (added : List Event) : Prop :=
  moved.connection = slot.connection ∧ Served number slot.connection.dialect
    (slot.connection.dialect.commits slot.depth) added

/-- What rolling back does to a slot. -/
abbrev RolledBack (slot : Slot) (number : Nat) (_ : Except Failure Unit) (moved : Slot)
    (added : List Event) : Prop :=
  moved = { slot with depth := 0 } ∧ Served number slot.connection.dialect
    [slot.connection.dialect.rollbackTransaction] added

/-- Every connection is closed, the master first. -/
theorem closeSlots_tells (isOn : session.primary.connection.On primary)
    (reaches : session.Reaches) (server : Server σ) :
    (closeSlots server).Tells session engines fun _ after later added => later = engines ∧
      after.isClosed = session.isClosed ∧
      ∃ first, added = first ++ [.closed primary, .disposed primary] ∧
        ∃ outcome master?, OnMaster Closed session.master? outcome master? first := by
  have closes : ∀ slot number, slot.connection.On number →
      (Slot.onConnection (Connection.close server)).Tells slot engines
        fun outcome after later added => later = engines ∧ Closed slot number outcome after added :=
    fun slot number isOn => Slot.close_tells isOn server
  refine (onMaster_follows closes reaches).outcomeBind ?_
  rintro outcome after later added ⟨rfl, master?, rfl, known⟩
  have primaryOn : ({ session with master? } : Session).primary.connection.On primary := isOn
  refine (onPrimary_follows closes primaryOn).outcomeBind ?_
  rintro other last final others ⟨rfl, moved, rfl, rfl⟩
  refine tells_change_bind (tells_settle ⟨rfl, rfl, added, ?_, outcome, master?, known⟩)
  rw [List.append_nil]

/-- What closing a session adds to the events: it commits what is open, on the primary first, and
closes every connection, the master first. -/
structure Disconnects (primary : Nat) (before : Session) (first second third : List Event) :
    Prop where
  primary : Served primary before.primary.connection.dialect
    (before.primary.connection.dialect.commits before.primary.depth) first
  master : ∃ outcome master?, OnMaster Committed before.master? outcome master? second
  closes : ∃ outcome master?, OnMaster Closed before.master? outcome master? third

/-- A master that was acted on is closed like the one before. -/
theorem OnMaster.closes_before {before? after? last? : Option Slot}
    {outcome other : Except Failure Unit} {added closings : List Event}
    (committed : OnMaster Committed before? outcome after? added)
    (closed : OnMaster Closed after? other last? closings) :
    OnMaster Closed before? other last? closings := by
  cases committed with
  | absent => exact closed
  | present isOn known => cases closed with
    | present still told =>
      rw [known.1] at still
      exact .present still told

theorem disconnect_tells (isOn : session.primary.connection.On primary)
    (reaches : session.Reaches) (isOpen : session.isClosed = false) (server : Server σ) :
    (disconnect server).Tells session engines fun _ after later added => later = engines ∧
      after.isClosed = true ∧ ∃ first second third, added = first ++ (second ++
        (third ++ [.closed primary, .disposed primary])) ∧
        Disconnects primary session first second third := by
  have commits : ∀ slot number, slot.connection.On number →
      (Slot.commitAll server).Tells slot engines
        fun outcome after later added => later = engines ∧
          Committed slot number outcome after added :=
    fun slot number isOn => Slot.commitAll_tells isOn server
  refine tells_this_bind ?_
  rw [isOpen]
  refine tells_change_bind ?_
  have begun : Connection.On { session with isClosed := true }.primary.connection primary := isOn
  refine (onPrimary_follows commits begun).outcomeBind ?_
  rintro outcome after later first ⟨rfl, moved, rfl, same, served⟩
  have still : Reaches { session with isClosed := true, primary := moved } := reaches
  refine (onMaster_follows commits still).outcomeBind ?_
  rintro other last final second ⟨rfl, master?, rfl, committed⟩
  have primaryOn : Connection.On
      { session with isClosed := true, primary := moved, master? }.primary.connection primary := by
    rw [same]
    exact isOn
  have reached : Reaches { session with isClosed := true, primary := moved, master? } := by
    rintro slot ⟨⟩
    generalize session.master? = before? at committed
    cases committed with
    | present slotOn known =>
      rw [known.1]
      exact ⟨_, slotOn⟩
  refine (closeSlots_tells primaryOn reached server).outcomeBind ?_
  rintro third ended count closings ⟨rfl, shut, closing, rfl, outcome', last?, closed⟩
  have told : Disconnects primary session first second closing :=
    ⟨served, ⟨_, _, committed⟩, ⟨_, _, committed.closes_before closed⟩⟩
  have all : first ++ (second ++ (closing ++ [.closed primary, .disposed primary] ++ [])) =
      first ++ (second ++ (closing ++ [.closed primary, .disposed primary])) := by
    rw [List.append_nil]
  have done : ended.isClosed = true := shut
  split
  · exact tells_pure ⟨rfl, done, first, second, closing, all, told⟩
  · split
    · exact tells_throw ⟨rfl, done, first, second, closing, all, told⟩
    · exact tells_raise ⟨rfl, done, first, second, closing, all, told⟩

/-- The session with nothing open on its connections. -/
def withoutDepth (session : Session) : Session :=
  { session with
    primary := { session.primary with depth := 0 }
    master? := session.master?.map fun slot => { slot with depth := 0 } }

/-- Rolling back sends a rollback to every open connection, and leaves no depth. -/
theorem rollback_tells (isOn : session.primary.connection.On primary)
    (reaches : session.Reaches) (server : Server σ) :
    (rollback server).Tells session engines fun _ after later added => later = engines ∧
      after = session.withoutDepth ∧ ∃ first second, added = first ++ second ∧
        Served primary session.primary.connection.dialect
          [session.primary.connection.dialect.rollbackTransaction] first ∧
        ∃ outcome master?, OnMaster RolledBack session.master? outcome master? second := by
  have rolls : ∀ slot number, slot.connection.On number →
      (Slot.rollback server).Tells slot engines fun outcome after later added => later = engines ∧
        RolledBack slot number outcome after added := by
    intro slot number isOn
    refine (Control.onSlot_settles isOn server .rollback).imp ?_
    rintro outcome after later added ⟨rfl, count, served⟩
    exact ⟨count, rfl, served⟩
  refine (onPrimary_follows rolls isOn).outcomeBind ?_
  rintro outcome after later first ⟨rfl, moved, rfl, rfl, served⟩
  have still : Reaches { session with primary := { session.primary with depth := 0 } } := reaches
  refine (onMaster_follows rolls still).outcomeBind ?_
  rintro other last final second ⟨rfl, master?, rfl, known⟩
  have flat : master? = session.master?.map fun slot => { slot with depth := 0 } := by
    generalize session.master? = before? at known
    cases known with
    | absent => rfl
    | present slotOn told => exact congrArg some told.1
  refine tells_settle ⟨rfl, ?_, first, second, ?_, served, other, master?, known⟩
  · rw [withoutDepth, flat]
  · rw [List.append_nil]

namespace Disconnects

variable {first second third : List Event} {dialect : Dialect}

theorem commitIn_first (told : Disconnects primary session first second third)
    (spoken : ∀ slot ∈ session.slots, slot.connection.dialect = dialect) :
    dialect.CommitIn first ↔ session.primary.depth ≠ 0 := by
  have served := told.primary
  rw [spoken session.primary List.mem_cons_self] at served
  exact Dialect.commitIn_commits served

theorem commitIn_second (told : Disconnects primary session first second third)
    (spoken : ∀ slot ∈ session.slots, slot.connection.dialect = dialect) :
    dialect.CommitIn second ↔ ∃ slot, session.master? = some slot ∧ slot.depth ≠ 0 := by
  obtain ⟨outcome, master?, known⟩ := told.master
  cases opened : session.master? with
  | none =>
    rw [opened] at known
    cases known
    simp [Dialect.not_commitIn_nil]
  | some slot =>
    rw [opened] at known
    have belongs : slot ∈ session.slots := by simp [slots, opened]
    cases known with
    | present isOn committed =>
      have served := committed.2
      rw [spoken slot belongs] at served
      simpa using Dialect.commitIn_commits served

theorem not_commitIn_third (told : Disconnects primary session first second third) :
    ¬dialect.CommitIn third := by
  obtain ⟨outcome, master?, known⟩ := told.closes
  generalize session.master? = before? at known
  cases known with
  | absent => exact Dialect.not_commitIn_nil
  | present isOn same => exact same ▸ Dialect.not_commitIn_closing

/-- A closed session has committed what its connections had open. -/
theorem commitIn_iff (told : Disconnects primary session first second third)
    (spoken : ∀ slot ∈ session.slots, slot.connection.dialect = dialect) :
    dialect.CommitIn (first ++ (second ++ (third ++ [.closed primary, .disposed primary]))) ↔
      session.primary.depth ≠ 0 ∨ ∃ slot, session.master? = some slot ∧ slot.depth ≠ 0 := by
  rw [Dialect.commitIn_append, Dialect.commitIn_append, Dialect.commitIn_append,
    told.commitIn_first spoken, told.commitIn_second spoken]
  simp [told.not_commitIn_third, Dialect.not_commitIn_closing]

/-- Where the master has nothing open, only the primary is asked to commit. -/
theorem asked (told : Disconnects primary session first second third)
    (spoken : ∀ slot ∈ session.slots, slot.connection.dialect = dialect)
    (idle : ∀ slot, session.master? = some slot → slot.depth = 0) {engine : Nat}
    {request : Request} (member : .executed engine request ∈
      first ++ (second ++ (third ++ [.closed primary, .disposed primary])))
    (commits : request.sql = dialect.commitTransaction.sql) : engine = primary := by
  simp only [List.mem_append] at member
  rcases member with early | wrong | wrong | wrong
  · exact told.primary.asked early
  · obtain ⟨slot, opened, deep⟩ := (told.commitIn_second spoken).mp ⟨_, _, wrong, commits⟩
    exact absurd (idle slot opened) deep
  · exact absurd ⟨_, _, wrong, commits⟩ told.not_commitIn_third
  · exact absurd ⟨_, _, wrong, commits⟩ Dialect.not_commitIn_closing

/-- Every connection of a closed session was closed. -/
theorem closed_mem (told : Disconnects primary session first second third)
    (isOn : session.primary.connection.On primary) :
    ∀ slot ∈ session.slots, ∀ number, slot.connection.On number → .closed number ∈
      first ++ (second ++ (third ++ [.closed primary, .disposed primary])) := by
  intro slot member number on
  simp only [List.mem_append]
  rcases List.mem_cons.mp member with rfl | opened
  · obtain rfl := isOn.unique on
    exact .inr (.inr (.inr List.mem_cons_self))
  · obtain ⟨outcome, master?, known⟩ := told.closes
    rw [Option.mem_toList.mp opened] at known
    cases known with
    | present still same =>
      obtain rfl := still.unique on
      rw [same]
      exact .inr (.inr (.inl List.mem_cons_self))

end Disconnects

/-! ## Leaving -/

/-- There is something to roll back, and rolling it back ends by a failure that is no report. -/
def Breaks (server : Server σ) (session : Session) (world : World σ) : Prop :=
  session.active.depth ≠ 0 ∧
    ∃ failure, (rollback server (session, world)).1 = .error failure ∧ failure.isReport = false

theorem leave_flat {server : Server σ} {world : World σ} (flat : session.active.depth = 0) :
    leave server true (session, world) = disconnect server (session, world) := by
  rw [leave, this_bind_apply, if_neg (by simp [flat])]

/-- What leaving does behind a rollback, by how that ended. -/
def leaveBehind (server : Server σ) :
    Except Failure Unit × Session × World σ → Except Failure Unit × Session × World σ
  | (.ok (), after, world) => disconnect server (after, world)
  | (.error failure, after, world) =>
    if failure.isReport then
      disconnect server (after, { world with records := world.records ++ [rollbackFailed] })
    else (.error failure, after, world)

theorem leave_deep {server : Server σ} {world : World σ} (deep : session.active.depth ≠ 0) :
    leave server true (session, world) =
      leaveBehind server (rollback server (session, world)) := by
  rw [leave, this_bind_apply, if_pos (by simp [deep]), bind_apply, Acting.outcome]
  obtain ⟨ending, after, later⟩ := rollback server (session, world)
  cases ending with
  | ok done => rfl
  | error failure =>
    unfold leaveBehind
    dsimp only
    cases failure.isReport <;> rfl

/-- How a session is left by an error: what is sent, and what becomes of its connections. -/
structure Left (server : Server σ) (primary : Nat) (before : Session) (world : World σ)
    (after : Session) (added : List Event) : Prop where
  /-- A commit is sent exactly when commands run without a transaction while the primary has
  one. -/
  commits : before.dialect.CommitIn added ↔ before.active.depth = 0 ∧ before.primary.depth ≠ 0
  /-- Only the primary is asked to commit. -/
  asked : ∀ engine request, .executed engine request ∈ added →
    request.sql = before.dialect.commitTransaction.sql → engine = primary
  isClosed : after.isClosed = true ↔ ¬before.Breaks server world
  /-- Every open connection is closed, unless the rollback breaks. -/
  closed : ¬before.Breaks server world → ∀ slot ∈ before.slots, ∀ number,
    slot.connection.On number → .closed number ∈ added
  kept : before.Breaks server world → ∀ number, .closed number ∉ added

namespace Standing

variable {dialect : Dialect}

theorem spoken_slots (standing : session.Standing primary engines) :
    ∀ slot ∈ session.slots, slot.connection.dialect = session.dialect := by
  intro slot member
  rcases List.mem_cons.mp member with rfl | opened
  · exact standing.spoken
  · obtain ⟨_, -, -, -, spoken⟩ := standing.master slot (Option.mem_toList.mp opened)
    exact spoken

theorem withoutDepth (standing : session.Standing primary engines) :
    session.withoutDepth.Standing primary engines := by
  refine standing.kept rfl rfl fun slot opened => ?_
  obtain ⟨old, known, rfl⟩ := Option.map_eq_some_iff.mp opened
  exact ⟨old, known, rfl⟩

end Standing

/-- Without a transaction to roll back, leaving a session closes it. -/
theorem leave_flat_tells (server : Server σ) {world : World σ}
    (standing : session.Standing primary world.engines) (isOpen : session.isClosed = false)
    (flat : session.active.depth = 0) :
    ∃ outcome after added later, leave server true (session, world) = (outcome, after, later) ∧
      later.events = world.events ++ added ∧ later.engines = world.engines ∧
      Left server primary session world after added ∧
      (after.isClosed = false → after = session.withoutDepth) := by
  have steady : ¬session.Breaks server world := fun breaks => breaks.1 flat
  obtain ⟨outcome, after, added, later, ran, events, count, shut, first, second, third, rfl,
    told⟩ := disconnect_tells standing.opened standing.reaches isOpen server world rfl
  have idle : ∀ slot, session.master? = some slot → slot.depth = 0 := by
    intro slot opened
    rw [active, opened] at flat
    exact flat
  refine ⟨outcome, after, _, later, (leave_flat flat).trans ran, events, count, ?_, fun wrong => ?_⟩
  · refine ⟨?_, fun engine request => told.asked standing.spoken_slots idle, ?_,
      fun _ => told.closed_mem standing.opened, fun breaks => absurd breaks steady⟩
    · rw [told.commitIn_iff standing.spoken_slots]
      refine ⟨?_, fun deep => .inl deep.2⟩
      rintro (deep | ⟨slot, opened, deep⟩)
      · exact ⟨flat, deep⟩
      · exact absurd (idle slot opened) deep
    · simp [shut, steady]
  · rw [shut] at wrong
    cases wrong

/-- Rolling back commits nothing and closes nothing. -/
theorem rollback_quiet (server : Server σ) {world : World σ}
    (standing : session.Standing primary world.engines)
    (apart : session.dialect.rollbackTransaction.sql ≠ session.dialect.commitTransaction.sql) :
    ∃ outcome added later, rollback server (session, world) =
        (outcome, session.withoutDepth, later) ∧
      later.events = world.events ++ added ∧ later.engines = world.engines ∧
      ¬session.dialect.CommitIn added ∧ ∀ number, .closed number ∉ added := by
  obtain ⟨outcome, after, added, later, ran, events, count, rfl, first, second, rfl, served, _, _,
    known⟩ := rollback_tells standing.opened standing.reaches server world rfl
  have quiet : ∀ {number : Nat} {sent : List Event},
      Served number session.dialect [session.dialect.rollbackTransaction] sent →
      ¬session.dialect.CommitIn sent ∧ ∀ engine, .closed engine ∉ sent :=
    fun served => ⟨Dialect.not_commitIn_rollback apart served,
      fun engine member => served.serves _ member⟩
  rw [standing.spoken] at served
  have onMaster : ¬session.dialect.CommitIn second ∧ ∀ engine, .closed engine ∉ second := by
    cases opened : session.master? with
    | none =>
      rw [opened] at known
      cases known
      exact ⟨Dialect.not_commitIn_nil, fun engine member => nomatch member⟩
    | some slot =>
      rw [opened] at known
      cases known with
      | present isOn told =>
        have sent := told.2
        rw [standing.spoken_slots slot (by simp [slots, opened])] at sent
        exact quiet sent
  refine ⟨outcome, first ++ second, later, ran, events, count, ?_, fun number member => ?_⟩
  · rw [Dialect.commitIn_append]
    exact not_or.mpr ⟨(quiet served).1, onMaster.1⟩
  · rcases List.mem_append.mp member with early | late
    · exact (quiet served).2 number early
    · exact onMaster.2 number late

/-- A session that was rolled back is closed without a commit. -/
theorem disconnect_withoutDepth (server : Server σ) {world : World σ}
    (standing : session.Standing primary world.engines) (isOpen : session.isClosed = false) :
    ∃ outcome after added later, disconnect server (session.withoutDepth, world) =
        (outcome, after, later) ∧
      later.events = world.events ++ added ∧ later.engines = world.engines ∧
      after.isClosed = true ∧ ¬session.dialect.CommitIn added ∧
      ∀ slot ∈ session.slots, ∀ number, slot.connection.On number → .closed number ∈ added := by
  have flat := standing.withoutDepth
  obtain ⟨outcome, after, added, later, ran, events, count, shut, first, second, third, rfl,
    told⟩ := disconnect_tells flat.opened flat.reaches isOpen server world rfl
  have idle : ∀ slot, session.withoutDepth.master? = some slot → slot.depth = 0 := by
    intro slot opened
    obtain ⟨old, known, rfl⟩ := Option.map_eq_some_iff.mp opened
    rfl
  have spoken : ∀ slot ∈ session.withoutDepth.slots, slot.connection.dialect = session.dialect :=
    flat.spoken_slots
  refine ⟨outcome, after, _, later, ran, events, count, shut, ?_, fun slot member number isOn => ?_⟩
  · rw [told.commitIn_iff spoken]
    rintro (deep | ⟨slot, opened, deep⟩)
    · exact deep rfl
    · exact deep (idle slot opened)
  · have moved : { slot with depth := 0 } ∈ session.withoutDepth.slots := by
      rcases List.mem_cons.mp member with rfl | opened
      · exact List.mem_cons_self
      · refine List.mem_cons_of_mem _ (Option.mem_toList.mpr ?_)
        exact Option.mem_map_of_mem _ (Option.mem_toList.mp opened)
    exact told.closed_mem flat.opened _ moved number isOn

/-- A session is left by closing it behind a rollback that does not break. -/
theorem disconnect_left (server : Server σ) {world between : World σ} {rolling : List Event}
    (standing : session.Standing primary between.engines) (isOpen : session.isClosed = false)
    (deep : session.active.depth ≠ 0) (steady : ¬session.Breaks server world)
    (events : between.events = world.events ++ rolling) (count : between.engines = world.engines)
    (quiet : ¬session.dialect.CommitIn rolling) :
    ∃ outcome after added later, disconnect server (session.withoutDepth, between) =
        (outcome, after, later) ∧
      later.events = world.events ++ added ∧ later.engines = world.engines ∧
      Left server primary session world after added ∧
      (after.isClosed = false → after = session.withoutDepth) := by
  obtain ⟨outcome, after, added, later, closes, told, number, shut, silent, closed⟩ :=
    disconnect_withoutDepth server standing isOpen
  have none : ¬session.dialect.CommitIn (rolling ++ added) := by
    rw [Dialect.commitIn_append]
    exact not_or.mpr ⟨quiet, silent⟩
  refine ⟨outcome, after, rolling ++ added, later, closes, ?_, ?_, ?_, fun wrong => ?_⟩
  · rw [told, events, List.append_assoc]
  · rw [number, count]
  · refine ⟨⟨fun commits => absurd commits none, fun wrong => absurd wrong.1 deep⟩,
      fun engine request member commits => absurd ⟨_, _, member, commits⟩ none, ?_,
      fun _ slot member number isOn => List.mem_append_right _ (closed slot member number isOn),
      fun breaks => absurd breaks steady⟩
    simp [shut, steady]
  · rw [shut] at wrong
    cases wrong

/-- With a transaction to roll back, leaving a session rolls it back, and then closes it unless the
rollback breaks. -/
theorem leave_deep_tells (server : Server σ) {world : World σ}
    (standing : session.Standing primary world.engines) (isOpen : session.isClosed = false)
    (apart : session.dialect.rollbackTransaction.sql ≠ session.dialect.commitTransaction.sql)
    (deep : session.active.depth ≠ 0) :
    ∃ outcome after added later, leave server true (session, world) = (outcome, after, later) ∧
      later.events = world.events ++ added ∧ later.engines = world.engines ∧
      Left server primary session world after added ∧
      (after.isClosed = false → after = session.withoutDepth) := by
  obtain ⟨ending, rolling, rolled, ran, events, count, quiet, kept⟩ :=
    rollback_quiet server standing apart
  have stands : session.Standing primary rolled.engines := by rw [count]; exact standing
  have behind : leave server true (session, world) =
      leaveBehind server (rollback server (session, world)) := leave_deep deep
  rw [ran] at behind
  have steady : (∀ failure, ending = .error failure → failure.isReport = true) →
      ¬session.Breaks server world := by
    rintro reports ⟨-, failure, failed, wrong⟩
    rw [ran] at failed
    rw [reports failure failed] at wrong
    cases wrong
  cases ending with
  | ok done =>
    rw [behind, leaveBehind]
    exact disconnect_left server stands isOpen deep (steady fun _ wrong => nomatch wrong) events
      count quiet
  | error failure =>
    by_cases report : failure.isReport = true
    case pos =>
      rw [behind, leaveBehind, if_pos report]
      refine disconnect_left server stands isOpen deep (steady ?_) events count quiet
      rintro _ ⟨⟩
      exact report
    case neg =>
      have breaks : session.Breaks server world :=
        ⟨deep, failure, by rw [ran], Bool.eq_false_iff.mpr report⟩
      rw [leaveBehind, if_neg report] at behind
      refine ⟨_, _, rolling, rolled, behind, events, count, ?_, fun _ => rfl⟩
      refine ⟨⟨fun commits => absurd commits quiet, fun wrong => absurd wrong.1 deep⟩,
        fun engine request member commits => absurd ⟨_, _, member, commits⟩ quiet, ?_,
        fun steady => absurd breaks steady, fun _ => kept⟩
      have still : session.withoutDepth.isClosed = false := isOpen
      simp [still, breaks]

/-- Leaving an open session by an error. -/
theorem leave_tells (server : Server σ) {world : World σ}
    (standing : session.Standing primary world.engines) (isOpen : session.isClosed = false)
    (apart : session.dialect.rollbackTransaction.sql ≠ session.dialect.commitTransaction.sql) :
    ∃ outcome after added later, leave server true (session, world) = (outcome, after, later) ∧
      later.events = world.events ++ added ∧ later.engines = world.engines ∧
      Left server primary session world after added ∧
      (after.isClosed = false → after = session.withoutDepth) := by
  by_cases flat : session.active.depth = 0
  case pos => exact leave_flat_tells server standing isOpen flat
  case neg => exact leave_deep_tells server standing isOpen apart flat

/-! ## Reachable sessions -/

/-- The primary is not deeper in transactions than the master. -/
def Balanced (session : Session) : Prop :=
  ∀ slot, session.master? = some slot → session.primary.depth ≤ slot.depth

/-- Opening the master leaves the session balanced. -/
theorem Opening.balanced {after : Session} {later : Nat} {outcome : Except Failure Unit}
    {added : List Event} (opening : session.Opening engines outcome after later added)
    (balanced : session.Balanced) : after.Balanced := by
  cases opening with
  | idle settled => exact balanced
  | failed closed configured concerns => exact balanced
  | opened closed configured replays served =>
    rintro slot ⟨⟩
    exact Nat.le_refl _

/-- What committing a level does to the depth of a slot. -/
abbrev Lowered (slot : Slot) (_ : Nat) (outcome : Except Failure Unit) (moved : Slot)
    (_ : List Event) : Prop :=
  moved = { slot with depth := Control.commit.left outcome slot.depth }

/-- Committing a level does not leave the primary deeper, whatever fails: the master goes up only
after the primary did. -/
theorem commit_balanced (isOn : session.primary.connection.On primary)
    (reaches : session.Reaches) (server : Server σ) (balanced : session.Balanced) :
    (commit server).Tells session engines fun _ after _ _ => after.Balanced := by
  have commits : ∀ slot number, slot.connection.On number →
      (Slot.commit server).Tells slot engines fun outcome after later added => later = engines ∧
        Lowered slot number outcome after added :=
    fun slot number isOn => Control.commit.onSlot_leaves isOn server
  refine (onPrimary_follows commits isOn).bind ?_ ?_
  · rintro failure after later added ⟨-, moved, rfl, rfl⟩
    exact balanced
  rintro ⟨⟩ after later added ⟨rfl, moved, rfl, rfl⟩
  have still : Reaches { session with
      primary := { session.primary with depth := session.primary.depth - 1 } } := reaches
  refine (onMaster_follows commits still).imp ?_
  rintro outcome last final others ⟨-, master?, rfl, known⟩ slot opened
  obtain rfl : master? = some slot := opened
  cases before : session.master? with
  | none =>
    rw [before] at known
    cases known
  | some old =>
    rw [before] at known
    have less := balanced old before
    cases known with
    | present slotOn moved =>
      rw [moved]
      cases outcome with
      | ok done => exact Nat.sub_le_sub_right less 1
      | error failure => exact Nat.le_trans (Nat.sub_le _ _) less

end Session

namespace Operation

open Session Acting

variable {σ : Type} {session after : Session} {operation : Operation} {primary engines later : Nat}
  {outcome : Except Failure Unit} {added : List Event}

/-- How the beginning of a transaction ended, if that was asked. -/
def begun : Operation → Except Failure Unit → List (Except Failure Unit)
  | .control .begin, outcome => [outcome]
  | _, _ => []

/-- Operations leave a session open. -/
theorem Step.isClosed_eq (step : operation.Step primary session engines outcome after later added) :
    after.isClosed = session.isClosed := by
  have opens : ∀ {outcome after later added}, session.Opening engines outcome after later added →
      after.isClosed = session.isClosed := fun opening => by cases opening <;> rfl
  cases step with
  | unread | insertId | setLargeResults => rfl
  | unrouted found writing opening => exact opens opening
  | ran found routes isOn runs =>
    rw [runs.slots]
    dsimp only
    cases routes with
    | read reads => rfl
    | write writes opening => exact opens opening
  | useMaster opening => exact opens opening
  | control moves => rw [moves.kept]

/-- Operations leave a session balanced, unless they end a transaction or fail to begin one. -/
theorem Step.balanced (step : operation.Step primary session engines outcome after later added)
    (standing : session.Standing primary engines) (balanced : session.Balanced)
    (begins : ∀ control, operation = .control control → control = .begin ∧ outcome = .ok ()) :
    after.Balanced := by
  cases step with
  | unread | insertId | setLargeResults => exact balanced
  | unrouted found writing opening => exact opening.balanced balanced
  | ran found routes isOn runs =>
    rw [runs.slots]
    cases routes with
    | read reads => exact balanced
    | write writes opening => exact opening.balanced balanced
  | useMaster opening => exact opening.balanced balanced
  | @control control _ _ _ moves =>
    obtain ⟨rfl, done⟩ := begins control rfl
    obtain ⟨-, first, second, -, primaryMoves, masterMoves⟩ := moves
    intro slot opened
    cases before : session.master? with
    | none =>
      rw [before] at masterMoves
      cases opened.symm.trans masterMoves.absent.1
    | some old =>
      rw [before] at masterMoves
      obtain ⟨number, isOn, -⟩ := standing.master old before
      obtain ⟨still, moved, moves⟩ := masterMoves.present isOn
      obtain rfl := Option.some.inj (moved.symm.trans opened)
      rw [primaryMoves.moved done, moves.moved done]
      exact Nat.succ_le_succ (balanced old before)

/-- An operation leaves a session balanced unless it fails to begin a transaction. -/
theorem act_balanced (standing : session.Standing primary engines) (balanced : session.Balanced)
    (server : Server σ) (operation : Operation) :
    (operation.act server).Tells session engines fun outcome after _ _ =>
      (operation = .control .begin → outcome = .ok ()) → after.Balanced := by
  have steps : (∀ control, operation = .control control → control = .begin) →
      (operation.act server).Tells session engines fun outcome after _ _ =>
        (operation = .control .begin → outcome = .ok ()) → after.Balanced := by
    intro begins
    refine (act_tells standing server operation).imp fun outcome after later added step begun => ?_
    refine step.balanced standing balanced fun control asked => ?_
    obtain rfl := begins control asked
    exact ⟨rfl, begun asked⟩
  cases operation with
  | control control => cases control with
    | begin => exact steps (by rintro _ ⟨⟩; rfl)
    | commit =>
      refine (commit_balanced standing.opened standing.reaches server balanced).imp ?_
      exact fun outcome after later added balanced _ => balanced
    | rollback =>
      refine (rollback_tells standing.opened standing.reaches server).imp ?_
      rintro outcome after later added ⟨-, rfl, -⟩ -
      exact fun slot _ => Nat.zero_le _
  | execute | executeCommand | insertId | useMaster | setLargeResults =>
    exact steps fun _ wrong => nomatch wrong

end Operation

namespace Session

variable {σ : Type} {server : Server σ} {session : Session} {world : World σ}
  {begins : List (Except Failure Unit)}

/-- The sessions that are open after some use, with the world that they are in and how the
beginnings of transactions ended on the way. A session that was left stays open when rolling it back
broke, and may be used again. -/
inductive Reached (server : Server σ) : List (Except Failure Unit) → Session → World σ → Prop
  | opened (settings : Settings) {world started : World σ} {session : Session}
      (connected : (Session.connect server settings : Acting σ Unit Session) ((), world) =
        (.ok session, (), started)) :
      Reached server [] session started
  | acted {begins : List (Except Failure Unit)} {session after : Session}
      {world later : World σ} (reached : Reached server begins session world)
      (operation : Operation) {outcome : Except Failure Unit}
      (acts : operation.act server (session, world) = (outcome, after, later)) :
      Reached server (begins ++ operation.begun outcome) after later
  | left {begins : List (Except Failure Unit)} {session after : Session} {world later : World σ}
      (reached : Reached server begins session world) {outcome : Except Failure Unit}
      (leaves : leave server true (session, world) = (outcome, after, later))
      (isOpen : after.isClosed = false) : Reached server begins after later

/-- What holds of every session that is open after some use. -/
structure Usable (begins : List (Except Failure Unit)) (primary : Nat) (session : Session)
    (engines : Nat) : Prop where
  standing : session.Standing primary engines
  isOpen : session.isClosed = false
  family : ∃ family : Family, session.dialect = family.dialect
  balanced : (∀ outcome ∈ begins, outcome = .ok ()) → session.Balanced

/-- The texts that end transactions are told apart. -/
theorem Usable.apart {primary engines : Nat} (usable : session.Usable begins primary engines) :
    session.dialect.rollbackTransaction.sql ≠ session.dialect.commitTransaction.sql := by
  obtain ⟨family, spoken⟩ := usable.family
  rw [spoken]
  cases family <;> decide

theorem Reached.usable (reached : Reached server begins session world) :
    ∃ primary, session.Usable begins primary world.engines := by
  induction reached with
  | opened settings connected =>
    obtain ⟨dialect, named, rfl, standing, -⟩ := connected_eq connected
    obtain ⟨family, -, ended⟩ := Reporting.yields_bind named
    exact ⟨_, standing, rfl, ⟨family, Reporting.yields_pure.mp ended⟩,
      fun _ slot wrong => nomatch wrong⟩
  | @acted begins session after world later reached operation outcome acts inductionHypothesis =>
    obtain ⟨primary, standing, isOpen, ⟨family, spoken⟩, balanced⟩ := inductionHypothesis
    obtain ⟨_, _, _, _, ran, -, step⟩ := Operation.act_tells standing server operation world rfl
    cases acts.symm.trans ran
    refine ⟨primary, step.standing standing, step.isClosed_eq.trans isOpen,
      ⟨family, step.settings_eq.1.trans spoken⟩, fun begun => ?_⟩
    have before : session.Balanced :=
      balanced fun outcome member => begun outcome (List.mem_append_left _ member)
    obtain ⟨_, _, _, _, ran, -, known⟩ :=
      Operation.act_balanced standing before server operation world rfl
    cases acts.symm.trans ran
    refine known ?_
    rintro rfl
    exact begun outcome (List.mem_append_right _ List.mem_cons_self)
  | left reached leaves isOpen inductionHypothesis =>
    obtain ⟨primary, usable⟩ := inductionHypothesis
    obtain ⟨_, _, _, _, ran, -, count, -, rolled⟩ :=
      leave_tells server usable.standing usable.isOpen usable.apart
    cases leaves.symm.trans ran
    obtain rfl := rolled isOpen
    rw [count]
    exact ⟨primary, usable.standing.withoutDepth, isOpen, usable.family,
      fun _ slot _ => Nat.zero_le _⟩

/-- Leaving a session by an error commits exactly when commands run without a transaction while the
primary still has one, and then on the primary alone; that takes a beginning that failed. Every
open connection is closed unless there is something to roll back and rolling it back ends by a
failure which is no report; then none is closed.

Proof: whether a session is rolled back is decided by its active slot, and closing commits what
every slot has open. With a transaction on the active slot the rollback leaves no depth to commit.
Without one, only the primary can be deep, since the active slot is the master if that is open. -/
theorem errors_leave_sessions (reached : Reached server begins session world) :
    ∃ primary outcome after added later, session.primary.connection.On primary ∧
      leave server true (session, world) = (outcome, after, later) ∧
      later.events = world.events ++ added ∧ Left server primary session world after added ∧
      ((∀ outcome ∈ begins, outcome = .ok ()) → ¬session.dialect.CommitIn added) := by
  obtain ⟨primary, usable⟩ := reached.usable
  obtain ⟨outcome, after, added, later, leaves, events, -, left, -⟩ :=
    leave_tells server usable.standing usable.isOpen usable.apart
  refine ⟨primary, outcome, after, added, later, usable.standing.opened, leaves, events, left, ?_⟩
  intro begun commits
  obtain ⟨flat, deep⟩ := left.commits.mp commits
  cases opened : session.master? with
  | none =>
    rw [active, opened] at flat
    exact deep flat
  | some slot =>
    have less := usable.balanced begun slot opened
    rw [active, opened] at flat
    exact deep (Nat.le_zero.mp (flat ▸ less))

/-- Two servers of which the second runs nothing. -/
def lostMaster : Server Unit :=
  { Server.silent with
    execute := fun engine _ memory =>
      (if engine = 0 then .ok {} else .error (.fault .database "lost"), memory) }

/-- A transaction that was begun on the primary and not on the master is committed when the session
is left by an error. -/
theorem halfBegun_commits : ∃ begins session world, Reached lostMaster begins session world ∧
    session.active.depth = 0 ∧ session.primary.depth = 1 ∧
    ∃ outcome after added later, leave lostMaster true (session, world) = (outcome, after, later) ∧
      later.events = world.events ++ added ∧ session.dialect.CommitIn added := by
  have connected : (Session.connect lostMaster twoServers : Acting Unit Unit Session)
      ((), { memory := () }) =
        (.ok (connectedOn twoServers Family.mysql.dialect 0), (), begunWorld) := rfl
  have begun := ((Reached.opened twoServers connected).acted .useMaster rfl).acted
    (.control .begin) rfl
  obtain ⟨primary, outcome, after, added, later, -, leaves, events, left, -⟩ :=
    errors_leave_sessions begun
  exact ⟨_, _, _, begun, rfl, rfl, outcome, after, added, later, leaves, events,
    left.commits.mpr ⟨rfl, fun wrong => nomatch wrong⟩⟩

end Session

end PortableSql
