import PortableSql.Proofs.Traffic

/-!
# Depths of transactions

Beginning, committing and rolling back move the depth of a slot; which of them reach the server is
decided by the depth before. On a session they act on the primary and then on the master, if it is
open, and leave everything else.
-/

namespace PortableSql

/-- The text begins or ends a transaction. -/
def Dialect.IsControl (dialect : Dialect) (sql : String) : Prop :=
  sql = dialect.beginTransaction.sql ∨ sql = dialect.commitTransaction.sql ∨
    sql = dialect.rollbackTransaction.sql

/-- What is asked of the transactions of a session. -/
inductive Control where
  | begin
  | commit
  | rollback
deriving DecidableEq, Repr

namespace Control

open Acting

variable {σ : Type}

/-- The depth that a control leaves. -/
def depth : Control → Nat → Nat
  | begin, depth => depth + 1
  | commit, depth => depth - 1
  | rollback, _ => 0

/-- The depth that a control leaves by how it ends: a rollback leaves none in any case, and the
others leave the depth as it was when they fail. -/
def left : Control → Except Failure Unit → Nat → Nat
  | rollback, _, _ => 0
  | control, .ok _, depth => control.depth depth
  | _, .error _, depth => depth

/-- Failing leaves the depth, but for a rollback. -/
theorem left_error {control : Control} (moving : control ≠ .rollback) (failure : Failure)
    (depth : Nat) : control.left (.error failure) depth = depth := by
  cases control with
  | begin | commit => rfl
  | rollback => exact absurd rfl moving

theorem left_ok (control : Control) (depth : Nat) :
    control.left (.ok ()) depth = control.depth depth := by
  cases control <;> rfl

/-- The statements that a control sends at a depth. -/
def statements (dialect : Dialect) : Control → Nat → List Statement
  | begin, depth => if depth = 0 then [dialect.beginTransaction] else []
  | commit, depth => if depth = 1 then [dialect.commitTransaction] else []
  | rollback, _ => [dialect.rollbackTransaction]

/-- A control on a slot. -/
def onSlot (server : Server σ) : Control → Acting σ Slot Unit
  | begin => Slot.begin server
  | commit => Slot.commit server
  | rollback => Slot.rollback server

/-- A control on a session. -/
def onSession (server : Server σ) : Control → Acting σ Session Unit
  | begin => Session.begin server
  | commit => Session.commit server
  | rollback => Session.rollback server

/-- A control leaves a slot but for its depth, and sends its statements to an engine; all of them,
with the depth moved, when it is done whole. -/
structure Moves (control : Control) (number : Nat) (whole : Prop) (before after : Slot)
    (added : List Event) : Prop where
  kept : ∃ depth, after = { before with depth }
  moved : whole → after.depth = control.depth before.depth
  served : ∃ sent, sent <+: control.statements before.connection.dialect before.depth ∧
    Served number before.connection.dialect sent added ∧
    (whole → sent = control.statements before.connection.dialect before.depth)

/-- The story of a control on a slot. -/
abbrev SlotStory (control : Control) (number : Nat) (before : Slot) (engines : Nat) :
    Story Slot Unit :=
  fun outcome after later added =>
    later = engines ∧ control.Moves number (outcome = .ok ()) before after added

variable {number engines : Nat} {slot : Slot}

/-- The statements of a control are bare texts that begin or end a transaction. -/
theorem statements_bare {control : Control} {dialect : Dialect} {depth : Nat}
    {statement : Statement} (member : statement ∈ control.statements dialect depth) :
    statement.parameters = [] ∧ dialect.IsControl statement.sql := by
  cases control with
  | begin =>
    rw [statements] at member
    split at member
    · rw [List.mem_singleton.mp member]
      exact ⟨rfl, .inl rfl⟩
    · cases member
  | commit =>
    rw [statements] at member
    split at member
    · rw [List.mem_singleton.mp member]
      exact ⟨rfl, .inr (.inl rfl)⟩
    · cases member
  | rollback =>
    rw [List.mem_singleton.mp member]
    exact ⟨rfl, .inr (.inr rfl)⟩

/-- Behind its statement a control moves the depth, unless that failed. -/
theorem tells_moving (control : Control) (moving : control ≠ .rollback)
    {action : Acting σ Connection Unit} {story : Story Slot Unit}
    (tells : action.Tells slot.connection engines fun outcome connection later added =>
      story outcome { slot with connection, depth := control.left outcome slot.depth } later
        added) :
    (Slot.onConnection action >>= fun _ =>
      change fun slot => { slot with depth := control.depth slot.depth }).Tells slot engines
        story := by
  have acted : (Slot.onConnection action).Tells slot engines fun outcome after later added =>
      after.depth = slot.depth ∧
        story outcome { after with depth := control.left outcome slot.depth } later added :=
    tells.within fun _ _ _ _ told => ⟨rfl, told⟩
  refine acted.bind ?_ ?_
  · rintro failure after later added ⟨same, told⟩
    rw [left_error moving, ← same] at told
    exact told
  · rintro ⟨⟩ after later added ⟨same, told⟩
    refine tells_change ?_
    rw [left_ok, ← same] at told
    rw [List.append_nil]
    exact told

/-- What a control does to a slot follows its statement: where there is none to send the depth moves
alone, and else it moves by how the statement ends. -/
theorem onSlot_follows (server : Server σ) {control : Control} {story : Story Slot Unit}
    (silent : control.statements slot.connection.dialect slot.depth = [] →
      story (.ok ()) { slot with depth := control.depth slot.depth } engines [])
    (sends : ∀ statement, control.statements slot.connection.dialect slot.depth = [statement] →
      (Connection.run server statement).Tells slot.connection engines
        fun outcome connection later added =>
          story outcome { slot with connection, depth := control.left outcome slot.depth } later
            added) :
    (control.onSlot server).Tells slot engines story := by
  cases control with
  | begin =>
    refine tells_this_bind ?_
    dsimp only
    split
    case isTrue flat =>
      exact tells_moving .begin (by decide) (tells_this_bind (sends _ (if_pos flat)))
    case isFalse deep => exact tells_change (silent (if_neg deep))
  | commit =>
    refine tells_this_bind ?_
    split
    case isTrue flat =>
      have idle : slot = { slot with depth := commit.depth slot.depth } := by
        rw [flat]
        exact congrArg (fun depth => { slot with depth }) flat
      have none : commit.statements slot.connection.dialect slot.depth = [] := by
        rw [flat]
        rfl
      have told := silent none
      rw [← idle] at told
      exact tells_report fun _ => told
    case isFalse deep =>
      dsimp only
      split
      case isTrue single =>
        exact tells_moving .commit (by decide) (tells_this_bind (sends _ (if_pos single)))
      case isFalse inner => exact tells_change (silent (if_neg inner))
  | rollback =>
    have acted : (Slot.onConnection (Connection.rollback server)).Tells slot engines
        fun outcome after later added => story outcome { after with depth := 0 } later added :=
      (tells_this_bind (sends _ rfl)).within fun _ _ _ _ told => told
    refine acted.outcomeBind fun ending after later added told => ?_
    refine tells_change_bind (tells_settle ?_)
    rw [List.append_nil]
    exact told

/-- A control on a slot sends its statements, whatever the server answers. -/
theorem onSlot_settles (isOn : slot.connection.On number) (server : Server σ) (control : Control) :
    (control.onSlot server).Tells slot engines fun outcome after later added =>
      after = { slot with depth := control.left outcome slot.depth } ∧ later = engines ∧
        Served number slot.connection.dialect
          (control.statements slot.connection.dialect slot.depth) added := by
  refine onSlot_follows server (fun silent => ?_) fun statement sends => ?_
  · rw [left_ok, silent]
    exact ⟨rfl, rfl, served_nil⟩
  · have bare := (statements_bare (sends ▸ List.mem_singleton_self statement)).1
    refine (isOn.run_bare server bare).imp ?_
    rintro outcome connection later added ⟨rfl, rfl, served⟩
    rw [sends]
    exact ⟨rfl, rfl, served⟩

/-- What a control does to a slot whose connection is open. -/
theorem onSlot_tells (isOn : slot.connection.On number) (server : Server σ) (control : Control) :
    (control.onSlot server).Tells slot engines (control.SlotStory number slot engines) := by
  refine (control.onSlot_settles isOn server).imp ?_
  rintro outcome after later added ⟨rfl, count, served⟩
  refine ⟨count, ⟨_, rfl⟩, ?_, _, List.prefix_rfl, served, fun _ => rfl⟩
  rintro rfl
  exact control.left_ok slot.depth

/-- What a control sends begins or ends a transaction. -/
theorem Moves.requests {control : Control} {asked : Nat} {whole : Prop} {before after : Slot}
    {added : List Event} {request : Request}
    (moves : control.Moves number whole before after added)
    (member : .executed asked request ∈ added) :
    before.connection.dialect.IsControl request.sql := by
  obtain ⟨sent, upTo, served, -⟩ := moves.served
  obtain ⟨statement, belongs, renders⟩ := served.rendered member
  obtain ⟨bare, isControl⟩ := statements_bare (upTo.subset belongs)
  rw [(renders.plain bare).1]
  exact isControl

/-- Less can be said of a control that is not known to be done whole. -/
theorem Moves.imp {control : Control} {whole less : Prop} {before after : Slot}
    {added : List Event} (moves : control.Moves number whole before after added)
    (implies : less → whole) : control.Moves number less before after added where
  kept := moves.kept
  moved done := moves.moved (implies done)
  served := by
    obtain ⟨sent, upTo, served, all⟩ := moves.served
    exact ⟨sent, upTo, served, fun done => all (implies done)⟩

/-- A control that did not reach a slot left it. -/
theorem moves_unreached {control : Control} {whole : Prop} (never : ¬whole) :
    control.Moves number whole slot slot [] where
  kept := ⟨slot.depth, rfl⟩
  moved done := absurd done never
  served := ⟨[], List.nil_prefix, served_nil, fun done => absurd done never⟩

/-- A control on the master, which may not be open. -/
def MovesMaster (control : Control) (whole : Prop) :
    Option Slot → Option Slot → List Event → Prop
  | none, none, added => added = []
  | some slot, some moved, added =>
    ∀ number, slot.connection.On number → control.Moves number whole slot moved added
  | _, _, _ => False

/-- A master that is not open is not sent anything. -/
theorem MovesMaster.absent {control : Control} {whole : Prop} {after? : Option Slot}
    {added : List Event} (moves : control.MovesMaster whole none after? added) :
    after? = none ∧ added = [] := by
  cases after? with
  | none => exact ⟨rfl, moves⟩
  | some moved => exact moves.elim

/-- A master that is open stays so. -/
theorem MovesMaster.present {control : Control} {whole : Prop} {after? : Option Slot}
    {added : List Event} (moves : control.MovesMaster whole (some slot) after? added)
    (isOn : slot.connection.On number) :
    ∃ moved, after? = some moved ∧ control.Moves number whole slot moved added := by
  cases after? with
  | none => exact moves.elim
  | some moved => exact ⟨moved, rfl, moves number isOn⟩

theorem MovesMaster.imp {control : Control} {whole less : Prop} {before? after? : Option Slot}
    {added : List Event} (moves : control.MovesMaster whole before? after? added)
    (implies : less → whole) : control.MovesMaster less before? after? added := by
  match before?, after? with
  | none, none => exact moves
  | some slot, some moved => exact fun number isOn => (moves number isOn).imp implies
  | none, some _ => exact moves.elim
  | some _, none => exact moves.elim

theorem movesMaster_unreached {control : Control} {whole : Prop} (never : ¬whole)
    (master? : Option Slot) : control.MovesMaster whole master? master? [] := by
  cases master? with
  | none => rfl
  | some slot => exact fun _ _ => moves_unreached never

/-- A control leaves a session but for the depths of its slots. What it sends goes to the primary
first and to the master after it. -/
structure MovesAll (control : Control) (primary : Nat) (whole : Prop) (before after : Session)
    (added : List Event) : Prop where
  kept : after = { before with primary := after.primary, master? := after.master? }
  moved : ∃ first second, added = first ++ second ∧
    control.Moves primary whole before.primary after.primary first ∧
    control.MovesMaster whole before.master? after.master? second

end Control

namespace Session

open Acting

variable {σ : Type} {session : Session} {primary engines : Nat}

/-- Where the master is open, it is what commands run on. -/
theorem active_of_master {slot : Slot} (opened : session.master? = some slot) :
    session.active = slot := by
  rw [active, opened]
  rfl

/-- What becomes of the master when it is acted on, if it is open. -/
inductive OnMaster (told : Slot → Nat → Except Failure Unit → Slot → List Event → Prop) :
    Option Slot → Except Failure Unit → Option Slot → List Event → Prop
  | absent : OnMaster told none (.ok ()) none []
  | present {slot moved : Slot} {number : Nat} {outcome : Except Failure Unit}
      {added : List Event} (isOn : slot.connection.On number)
      (known : told slot number outcome moved added) :
      OnMaster told (some slot) outcome (some moved) added

/-- Every open master is on an engine. -/
def Reaches (session : Session) : Prop :=
  ∀ slot, session.master? = some slot → ∃ number, slot.connection.On number

/-- What an action does to open slots it does to the master, if it is open. -/
theorem onMaster_follows {action : Acting σ Slot Unit}
    {told : Slot → Nat → Except Failure Unit → Slot → List Event → Prop}
    (each : ∀ slot number, slot.connection.On number → action.Tells slot engines
      fun outcome after later added => later = engines ∧ told slot number outcome after added)
    (reaches : session.Reaches) :
    (onMaster action).Tells session engines fun outcome after later added => later = engines ∧
      ∃ master?, after = { session with master? } ∧
        OnMaster told session.master? outcome master? added := by
  refine tells_this_bind ?_
  cases known : session.master? with
  | none =>
    refine tells_pure ⟨rfl, none, ?_, .absent⟩
    rw [← known]
  | some slot =>
    obtain ⟨number, isOn⟩ := reaches slot known
    have acts : action.Tells session.active engines fun outcome after later added =>
        later = engines ∧ told slot number outcome after added := by
      rw [active_of_master known]
      exact each slot number isOn
    refine Tells.within acts ?_
    rintro outcome part later added ⟨count, tells⟩
    refine ⟨count, some part, ?_, .present isOn tells⟩
    rw [known]

/-- What an action does to open slots it does to the primary. -/
theorem onPrimary_follows {action : Acting σ Slot Unit}
    {told : Slot → Nat → Except Failure Unit → Slot → List Event → Prop}
    (each : ∀ slot number, slot.connection.On number → action.Tells slot engines
      fun outcome after later added => later = engines ∧ told slot number outcome after added)
    (isOn : session.primary.connection.On primary) :
    (onPrimary action).Tells session engines fun outcome after later added => later = engines ∧
      ∃ moved, after = { session with primary := moved } ∧
        told session.primary primary outcome moved added := by
  refine Tells.within (each session.primary primary isOn) ?_
  rintro outcome part later added ⟨count, tells⟩
  exact ⟨count, part, rfl, tells⟩

/-- The connections of a session are open, each on an engine of its own, and speak its dialect. -/
structure Standing (session : Session) (primary engines : Nat) : Prop where
  opened : session.primary.connection.On primary
  known : primary < engines
  spoken : session.primary.connection.dialect = session.dialect
  master : ∀ slot, session.master? = some slot → ∃ number, slot.connection.On number ∧
    number < engines ∧ number ≠ primary ∧ slot.connection.dialect = session.dialect

theorem Standing.reaches (standing : session.Standing primary engines) : session.Reaches := by
  intro slot opened
  obtain ⟨number, isOn, -⟩ := standing.master slot opened
  exact ⟨number, isOn⟩

/-- What a control does to the primary. -/
theorem onPrimary_tells (isOn : session.primary.connection.On primary) (server : Server σ)
    (control : Control) :
    (onPrimary (control.onSlot server)).Tells session engines fun outcome after later added =>
      later = engines ∧ ∃ moved, after = { session with primary := moved } ∧
        control.Moves primary (outcome = .ok ()) session.primary moved added :=
  onPrimary_follows (fun _ _ isOn => control.onSlot_tells isOn server) isOn

/-- What a control does to the master, if it is open. -/
theorem onMaster_tells (reaches : session.Reaches) (server : Server σ) (control : Control) :
    (onMaster (control.onSlot server)).Tells session engines fun outcome after later added =>
      later = engines ∧ ∃ master?, after = { session with master? } ∧
        control.MovesMaster (outcome = .ok ()) session.master? master? added := by
  refine (onMaster_follows (fun _ _ isOn => control.onSlot_tells isOn server) reaches).imp ?_
  rintro outcome after later added ⟨count, master?, rfl, acted⟩
  refine ⟨count, master?, rfl, ?_⟩
  generalize session.master? = before? at acted
  cases acted with
  | absent => rfl
  | present isOn moves =>
    intro other same
    exact isOn.unique same ▸ moves

/-- What a control does to a session whose connections are open. -/
theorem onSession_tells (standing : session.Standing primary engines) (server : Server σ)
    (control : Control) :
    (control.onSession server).Tells session engines fun outcome after later added =>
      later = engines ∧ control.MovesAll primary (outcome = .ok ()) session after added := by
  have reaches : ∀ moved, Reaches { session with primary := moved } :=
    fun _ => standing.reaches
  have all : (onAll (control.onSlot server)).Tells session engines fun outcome after later added =>
      later = engines ∧ control.MovesAll primary (outcome = .ok ()) session after added := by
    refine (onPrimary_tells standing.opened server control).bind ?_ ?_
    · rintro failure after later added ⟨count, moved, rfl, moves⟩
      refine ⟨count, rfl, added, [], (List.append_nil _).symm, ?_, ?_⟩
      · exact moves.imp fun wrong => nomatch wrong
      · exact Control.movesMaster_unreached (fun wrong => nomatch wrong) session.master?
    · rintro ⟨⟩ after later added ⟨rfl, moved, rfl, moves⟩
      refine (onMaster_tells (reaches moved) server control).imp ?_
      rintro outcome last final others ⟨count, master?, rfl, movesMaster⟩
      exact ⟨count, rfl, added, others, rfl, moves.imp fun _ => rfl, movesMaster⟩
  cases control with
  | begin => exact all
  | commit => exact all
  | rollback =>
    refine (onPrimary_tells standing.opened server .rollback).outcomeBind ?_
    rintro first after later added ⟨rfl, moved, rfl, moves⟩
    refine (onMaster_tells (reaches moved) server .rollback).outcomeBind ?_
    rintro second last final others ⟨rfl, master?, rfl, movesMaster⟩
    refine tells_settle ⟨rfl, rfl, added, others, ?_, ?_, ?_⟩
    · rw [List.append_nil]
    · refine moves.imp fun whole => ?_
      cases first with
      | ok _ => rfl
      | error failure => cases whole
    · refine movesMaster.imp fun whole => ?_
      cases first with
      | error failure => cases whole
      | ok _ => cases second with
        | ok _ => rfl
        | error failure => cases whole

end Session

end PortableSql
