import PortableSql.Proofs.Faultless
import PortableSql.Proofs.Wording

/-!
# Transactions on both connections

What is sent to an engine tells whether a transaction is open there. As long as no beginning, commit
or rollback fails, a transaction is open on every connection of a session exactly when its depth is
not zero, and the depths agree, whenever the master is opened.
-/

namespace PortableSql

/-- What a text asks of the transaction of its connection. -/
def Dialect.control? (dialect : Dialect) (sql : String) : Option Control :=
  if sql = dialect.beginTransaction.sql then some .begin
  else if sql = dialect.commitTransaction.sql then some .commit
  else if sql = dialect.rollbackTransaction.sql then some .rollback
  else none

/-- Whether a transaction is open afterwards. None can be begun where one is open, or committed
where none is. -/
def Control.advance (isOpen : Bool) : Control → Option Bool
  | begin => if isOpen then none else some true
  | commit => if isOpen then some false else none
  | rollback => some false

/-- What a text does to the transaction of its connection. -/
def Dialect.advance (dialect : Dialect) (isOpen : Bool) (sql : String) : Option Bool :=
  match dialect.control? sql with
  | some control => control.advance isOpen
  | none => some isOpen

/-- What an event does to the transaction on an engine; a closed connection has none. -/
def Event.advance (dialect : Dialect) (engine : Nat) (isOpen : Bool) : Event → Option Bool
  | .executed asked request =>
    if asked = engine then dialect.advance isOpen request.sql else some isOpen
  | .closed asked => some (isOpen && asked ≠ engine)
  | _ => some isOpen

/-- Whether a transaction is open on an engine after some events; there is no answer when one was
begun inside of an open one, or committed outside of one. -/
def transactionAfter (dialect : Dialect) (engine : Nat) (isOpen : Bool) (events : List Event) :
    Option Bool :=
  events.foldlM (Event.advance dialect engine) isOpen

section

variable {dialect : Dialect} {engine number : Nat} {isOpen : Bool}

theorem transactionAfter_cons (event : Event) (events : List Event) :
    transactionAfter dialect engine isOpen (event :: events) =
      (event.advance dialect engine isOpen).bind fun between =>
        transactionAfter dialect engine between events := by
  rw [transactionAfter, List.foldlM_cons]
  rfl

/-- What happens later goes on from what happened before. -/
theorem transactionAfter_append {between : Bool} {events : List Event} (others : List Event)
    (before : transactionAfter dialect engine isOpen events = some between) :
    transactionAfter dialect engine isOpen (events ++ others) =
      transactionAfter dialect engine between others := by
  unfold transactionAfter at before ⊢
  rw [List.foldlM_append, before]
  rfl

/-- What concerns another engine leaves the transaction on this one. -/
theorem transactionAfter_other {events : List Event}
    (concerns : ∀ event ∈ events, event.Concerns number) (other : number ≠ engine) :
    transactionAfter dialect engine isOpen events = some isOpen := by
  induction events with
  | nil => rfl
  | cons event rest inductionHypothesis =>
    obtain ⟨head, tail⟩ := List.forall_mem_cons.mp concerns
    have kept : event.advance dialect engine isOpen = some isOpen := by
      cases event with
      | executed asked request =>
        obtain rfl : asked = number := head
        exact if_neg other
      | closed asked =>
        obtain rfl : asked = number := head
        simp [Event.advance, other]
      | created _ _ | connected _ | resultClosed | disposed _ => rfl
    rw [transactionAfter_cons, kept]
    exact inductionHypothesis tail

/-- Statements that are sent do what their texts do, as long as what a driver makes of them asks
the same of transactions. -/
theorem Served.transactionAfter {statements : List Statement} {events : List Event}
    (served : Served engine dialect statements events)
    (same : ∀ statement ∈ statements, ∀ request, statement.Renders dialect request →
      dialect.control? request.sql = dialect.control? statement.sql) :
    PortableSql.transactionAfter dialect engine isOpen events =
      statements.foldlM (fun isOpen statement => dialect.advance isOpen statement.sql) isOpen := by
  obtain ⟨serves, renders⟩ := served
  -- On the events, not the statements: results are closed between them.
  induction events generalizing statements isOpen with
  | nil =>
    cases renders
    rfl
  | cons event rest inductionHypothesis =>
    obtain ⟨head, tail⟩ := List.forall_mem_cons.mp serves
    rw [transactionAfter_cons]
    cases event with
    | resultClosed => exact inductionHypothesis same tail renders
    | executed asked request =>
      obtain rfl : asked = engine := head
      rw [List.filterMap_cons_some (by rfl)] at renders
      cases renders with
      | @cons statement _ statements _ first others =>
        have asks : Event.advance dialect asked isOpen (.executed asked request) =
            dialect.advance isOpen statement.sql := by
          rw [Event.advance, if_pos rfl, Dialect.advance, Dialect.advance,
            same statement List.mem_cons_self request first]
        rw [asks, List.foldlM_cons]
        refine Option.bind_congr fun between _ => ?_
        exact inductionHypothesis (fun other member => same other (List.mem_cons_of_mem _ member))
          tail others
    | created _ _ => exact (head : False).elim
    | connected _ => exact (head : False).elim
    | closed _ => exact (head : False).elim
    | disposed _ => exact (head : False).elim

end

/-- The texts that begin and end transactions are told apart in every family. -/
theorem Family.control?_eq (family : Family) :
    family.dialect.control? family.dialect.beginTransaction.sql = some .begin ∧
      family.dialect.control? family.dialect.commitTransaction.sql = some .commit ∧
      family.dialect.control? family.dialect.rollbackTransaction.sql = some .rollback := by
  cases family <;> decide

/-- A text is told to be a control only when it is one. -/
theorem Dialect.control?_eq_none {dialect : Dialect} {sql : String}
    (other : ¬dialect.IsControl sql) : dialect.control? sql = none := by
  unfold Dialect.IsControl at other
  simp only [not_or] at other
  rw [Dialect.control?, if_neg other.1, if_neg other.2.1, if_neg other.2.2]

/-- Statements of commands ask nothing of transactions. -/
theorem advance_ordinary {dialect : Dialect} (worded : dialect.Worded)
    {statements : List Statement} (ordinary : ∀ statement ∈ statements, Ordinary statement.sql)
    (isOpen : Bool) :
    statements.foldlM (fun isOpen statement => dialect.advance isOpen statement.sql) isOpen =
      some isOpen := by
  induction statements with
  | nil => rfl
  | cons statement rest inductionHypothesis =>
    obtain ⟨head, tail⟩ := List.forall_mem_cons.mp ordinary
    have idle : dialect.advance isOpen statement.sql = some isOpen := by
      rw [Dialect.advance, Dialect.control?_eq_none (worded.not_control head)]
    rw [List.foldlM_cons, idle]
    exact inductionHypothesis tail

/-- What drivers make of them asks nothing either. -/
theorem control?_renders {dialect : Dialect} (worded : dialect.Worded) {statement : Statement}
    (ordinary : Ordinary statement.sql) {request : Request}
    (renders : statement.Renders dialect request) :
    dialect.control? request.sql = dialect.control? statement.sql := by
  rw [Dialect.control?_eq_none (worded.not_control (worded.renders ordinary renders)),
    Dialect.control?_eq_none (worded.not_control ordinary)]

/-- Where statements of commands are sent, every transaction stays as it is. -/
theorem Served.transactionAfter_ordinary {dialect : Dialect} (worded : dialect.Worded)
    {number : Nat} {statements : List Statement} {events : List Event}
    (served : Served number dialect statements events)
    (ordinary : ∀ statement ∈ statements, Ordinary statement.sql) (engine : Nat) (isOpen : Bool) :
    PortableSql.transactionAfter dialect engine isOpen events = some isOpen := by
  by_cases same : number = engine
  case pos =>
    subst same
    rw [served.transactionAfter fun statement member request renders =>
      control?_renders worded (ordinary statement member) renders]
    exact advance_ordinary worded ordinary isOpen
  case neg =>
    exact transactionAfter_other (fun event member => (served.serves event member).concerns) same

/-- What a control sends at a depth moves the transaction as it moves the depth. -/
theorem Control.statements_advance (family : Family) (control : Control) (depth : Nat) :
    (control.statements family.dialect depth).foldlM
        (fun isOpen statement => family.dialect.advance isOpen statement.sql) (decide (depth ≠ 0)) =
      some (decide (control.depth depth ≠ 0)) := by
  obtain ⟨begins, commits, rollsBack⟩ := family.control?_eq
  cases control with
  | begin =>
    rcases depth with _ | depth
    · simp [statements, Dialect.advance, begins, advance, Control.depth]
    · simp [statements, Control.depth]
  | commit =>
    rcases depth with _ | _ | depth
    · simp [statements, Control.depth]
    · simp [statements, Dialect.advance, commits, advance, Control.depth]
    · simp [statements, Control.depth]
  | rollback => simp [statements, Dialect.advance, rollsBack, advance, Control.depth]

/-- A control that was done whole moves the transaction on its engine as it moves the depth. -/
theorem Control.Moves.transactionAfter {family : Family} {control : Control} {number : Nat}
    {whole : Prop} {before after : Slot} {added : List Event}
    (moves : control.Moves number whole before after added) (done : whole)
    (spoken : before.connection.dialect = family.dialect) :
    PortableSql.transactionAfter family.dialect number (decide (before.depth ≠ 0)) added =
      some (decide (after.depth ≠ 0)) := by
  obtain ⟨sent, -, served, all⟩ := moves.served
  obtain rfl := all done
  rw [spoken] at served
  rw [served.transactionAfter, Control.statements_advance, moves.moved done]
  intro statement member request renders
  rw [(renders.plain (Control.statements_bare member).1).1]

/-- What a control sends to one engine leaves the transaction on another. -/
theorem Control.Moves.elsewhere {dialect : Dialect} {control : Control} {number engine : Nat}
    {whole : Prop} {before after : Slot} {added events : List Event} {isOpen : Bool}
    (moves : control.Moves number whole before after added) (other : number ≠ engine)
    (known : PortableSql.transactionAfter dialect engine false events = some isOpen) :
    PortableSql.transactionAfter dialect engine false (events ++ added) = some isOpen := by
  obtain ⟨sent, -, served, -⟩ := moves.served
  rw [transactionAfter_append added known]
  exact transactionAfter_other (fun event member => (served.serves event member).concerns) other

/-- What was sent for two lists of statements was sent for the one and then for the other. -/
theorem Served.split {engine : Nat} {dialect : Dialect} {statements more : List Statement}
    {events : List Event} (served : Served engine dialect (statements ++ more) events) :
    ∃ first second, events = first ++ second ∧ Served engine dialect statements first ∧
      Served engine dialect more second := by
  let requests := events.filterMap Event.request?
  have front := List.forall₂_take_append requests statements more served.renders.flip
  have back := List.forall₂_drop_append requests statements more served.renders.flip
  obtain ⟨first, second, rfl, own, others⟩ :=
    List.filterMap_eq_append_iff.mp (List.take_append_drop statements.length requests).symm
  refine ⟨first, second, rfl, ⟨fun event member => ?_, own ▸ front.flip⟩,
    ⟨fun event member => ?_, others ▸ back.flip⟩⟩
  · exact served.serves event (List.mem_append_left _ member)
  · exact served.serves event (List.mem_append_right _ member)

/-- A new connection has a transaction when the primary has one, once it was told so. -/
theorem mirrored_transactionAfter (family : Family) {engine depth : Nat}
    {statements : List Statement} {events : List Event}
    (served : Served engine family.dialect (statements ++ mirrored family.dialect depth) events)
    (ordinary : ∀ statement ∈ statements, Ordinary statement.sql) :
    transactionAfter family.dialect engine false events = some (decide (depth ≠ 0)) := by
  obtain ⟨begins, -, -⟩ := family.control?_eq
  rw [served.transactionAfter, List.foldlM_append, advance_ordinary family.worded ordinary]
  · change (mirrored family.dialect depth).foldlM _ false = _
    unfold mirrored
    split
    case isTrue none => simp [none]
    case isFalse some => simp [some, Dialect.advance, begins, Control.advance]
  · intro statement member request renders
    rcases List.mem_append.mp member with own | begun
    · exact control?_renders family.worded (ordinary statement own) renders
    · unfold mirrored at begun
      split at begun
      case isTrue none => cases begun
      case isFalse some =>
        obtain rfl := List.mem_singleton.mp begun
        rw [(renders.plain rfl).1]

/-- After these events the depths of a session agree, and on each of its connections a transaction
is open exactly when the depth is not zero; engines that are still to come have none. -/
structure Session.Mirrors (session : Session) (primary engines : Nat) (events : List Event) :
    Prop where
  primary : transactionAfter session.dialect primary false events =
    some (decide (session.primary.depth ≠ 0))
  master : ∀ slot engine, session.master? = some slot → slot.connection.On engine →
    slot.depth = session.primary.depth ∧
      transactionAfter session.dialect engine false events = some (decide (slot.depth ≠ 0))
  fresh : ∀ engine, engines ≤ engine →
    transactionAfter session.dialect engine false events = some false

namespace Session.Mirrors

variable {family : Family} {session after : Session} {primary engines later : Nat}
  {events added : List Event} {outcome : Except Failure Unit}

/-- What leaves every transaction keeps the depths and transactions in step. -/
theorem quiet (mirrors : session.Mirrors primary engines events)
    (silent : ∀ engine isOpen, transactionAfter session.dialect engine isOpen added = some isOpen)
    (spoken : after.dialect = session.dialect)
    (same : after.primary = session.primary) (master : after.master? = session.master?) :
    after.Mirrors primary engines (events ++ added) where
  primary := by
    rw [spoken, same, transactionAfter_append added mirrors.primary]
    exact silent _ _
  master slot engine opened isOn := by
    rw [master] at opened
    obtain ⟨depth, known⟩ := mirrors.master slot engine opened isOn
    rw [same, spoken, transactionAfter_append added known]
    exact ⟨depth, silent _ _⟩
  fresh engine free := by
    rw [spoken, transactionAfter_append added (mirrors.fresh engine free)]
    exact silent _ _

/-- Opening the master keeps them in step. -/
theorem opening (mirrors : session.Mirrors primary engines events)
    (standing : session.Standing primary engines) (spoken : session.dialect = family.dialect)
    (opening : session.Opening engines outcome after later added) :
    after.Mirrors primary later (events ++ added) := by
  cases opening with
  | idle settled => exact mirrors.quiet (fun _ _ => rfl) rfl rfl rfl
  | failed closed configured concerns =>
    have elsewhere : ∀ engine, engines ≠ engine → ∀ isOpen,
        transactionAfter session.dialect engine isOpen added = some isOpen :=
      fun engine other isOpen => transactionAfter_other concerns other
    refine ⟨?_, fun slot engine opened _ => ?_, fun engine free => ?_⟩
    · rw [transactionAfter_append added mirrors.primary]
      exact elsewhere primary (Nat.ne_of_gt standing.known) _
    · cases opened.symm.trans closed
    · rw [transactionAfter_append added (mirrors.fresh engine (Nat.le_of_succ_le free))]
      exact elsewhere engine (Nat.ne_of_lt free) _
  | @opened settings statements rest closed configured replays served =>
    let opening : List Event := .created engines settings :: .connected engines :: rest
    have concerns : ∀ event ∈ opening, event.Concerns engines :=
      Event.concerns_created fun event member => (served.serves event member).concerns
    have elsewhere : ∀ engine, engines ≠ engine → ∀ isOpen,
        transactionAfter session.dialect engine isOpen opening = some isOpen :=
      fun engine other isOpen => transactionAfter_other concerns other
    have begun : transactionAfter session.dialect engines false opening =
        some (decide (session.primary.depth ≠ 0)) := by
      change transactionAfter session.dialect engines false rest = _
      rw [spoken] at replays served ⊢
      exact mirrored_transactionAfter family served (family.worded.replays replays)
    refine ⟨?_, fun slot engine opened isOn => ?_, fun engine free => ?_⟩
    · rw [transactionAfter_append opening mirrors.primary]
      exact elsewhere primary (Nat.ne_of_gt standing.known) _
    · cases opened
      obtain rfl : engines = engine := Option.some.inj isOn.1
      refine ⟨rfl, ?_⟩
      rw [transactionAfter_append opening (mirrors.fresh engines (Nat.le_refl engines))]
      exact begun
    · rw [transactionAfter_append opening (mirrors.fresh engine (Nat.le_of_succ_le free))]
      exact elsewhere engine (Nat.ne_of_lt free) _

/-- Running a command keeps them in step, for its statements leave every transaction. -/
theorem runs (mirrors : session.Mirrors primary engines events)
    (spoken : session.dialect = family.dialect) {command : Command} {number : Nat}
    (runs : Session.Runs command number session outcome after added) :
    after.Mirrors primary engines (events ++ added) := by
  obtain ⟨complete, statements, sent, plans, upTo, served, -⟩ := runs.sent
  refine mirrors.quiet (fun engine isOpen => ?_) ?_ ?_ runs.master?
  · rw [spoken] at plans served ⊢
    exact served.transactionAfter_ordinary family.worded (fun statement member =>
      family.worded.plans plans statement (upTo.subset member)) engine isOpen
  · rw [runs.slots]
  · rw [runs.slots]

/-- A control that ended well moves depths and transactions alike. What one connection is sent
leaves the transaction on the other one. -/
theorem control (mirrors : session.Mirrors primary engines events)
    (standing : session.Standing primary engines) (spoken : session.dialect = family.dialect)
    {control : Control} {whole : Prop} (done : whole)
    (moves : control.MovesAll primary whole session after added) :
    after.Mirrors primary engines (events ++ added) := by
  obtain ⟨kept, first, second, rfl, primaryMoves, masterMoves⟩ := moves
  have dialect : after.dialect = session.dialect := by rw [kept]
  have primaryAfter : transactionAfter session.dialect primary false (events ++ first) =
      some (decide (after.primary.depth ≠ 0)) := by
    rw [transactionAfter_append first mirrors.primary, spoken]
    exact primaryMoves.transactionAfter done (standing.spoken.trans spoken)
  have freshAfter : ∀ engine, engines ≤ engine →
      transactionAfter session.dialect engine false (events ++ first) = some false :=
    fun engine free => primaryMoves.elsewhere
      (Nat.ne_of_lt (Nat.lt_of_lt_of_le standing.known free)) (mirrors.fresh engine free)
  rw [← List.append_assoc]
  cases opened : session.master? with
  | none =>
    rw [opened] at masterMoves
    obtain ⟨closed, rfl⟩ := masterMoves.absent
    rw [List.append_nil]
    refine ⟨dialect ▸ primaryAfter, fun slot engine wrong _ => ?_, dialect ▸ freshAfter⟩
    cases wrong.symm.trans closed
  | some slot =>
    obtain ⟨number, slotOn, fewer, other, slotSpoken⟩ := standing.master slot opened
    obtain ⟨depth, known⟩ := mirrors.master slot number opened slotOn
    rw [opened] at masterMoves
    obtain ⟨still, moved, moves⟩ := masterMoves.present slotOn
    refine ⟨dialect ▸ moves.elsewhere other primaryAfter, fun found engine isFound isOn => ?_,
      fun engine free => ?_⟩
    · obtain rfl := Option.some.inj (moved.symm.trans isFound)
      obtain ⟨newDepth, rfl⟩ := moves.kept
      obtain rfl := slotOn.unique isOn
      refine ⟨?_, ?_⟩
      · rw [moves.moved done, primaryMoves.moved done, depth]
      · rw [dialect, transactionAfter_append second (primaryMoves.elsewhere other.symm known),
          spoken]
        exact moves.transactionAfter done (slotSpoken.trans spoken)
    · rw [dialect]
      exact moves.elsewhere (Nat.ne_of_lt (Nat.lt_of_lt_of_le fewer free))
        (freshAfter engine free)

end Session.Mirrors

/-- What the transactions of a session are like after an operation, when these events happened since
the session was opened. -/
structure Entry.Mirrored (primary : Nat) (events : List Event) (entry : Entry) : Prop where
  /-- On the primary a transaction is open exactly when its depth is not zero. -/
  primary : transactionAfter entry.after.dialect primary false events =
    some (decide (entry.after.primary.depth ≠ 0))
  /-- So it is on the master once that is open, and the depths are the same. -/
  master : ∀ slot, entry.after.master? = some slot → ∃ engine, slot.connection.On engine ∧
    slot.depth = entry.after.primary.depth ∧
    entry.after.active.depth = slot.depth ∧
    transactionAfter entry.after.dialect engine false events = some (decide (slot.depth ≠ 0))
  /-- When the master was opened, it was told what the session remembers, then to begin a
  transaction exactly when the depth was not zero, and only then was anything else sent. -/
  opened : entry.before.master? = none → ∀ slot, entry.after.master? = some slot →
    ∃ engine settings statements told begun others, slot.connection.On engine ∧
      entry.events = .created engine settings :: .connected engine :: (told ++ begun ++ others) ∧
      Replays entry.before.dialect (Session.replayed entry.before.state) statements ∧
      Served engine entry.before.dialect statements told ∧
      Served engine entry.before.dialect
        (mirrored entry.before.dialect entry.before.primary.depth) begun ∧
      ∀ asked request, .executed asked request ∈ told ++ others →
        ¬entry.before.dialect.IsControl request.sql

/-- What runs for a command neither begins a transaction nor ends one. -/
theorem Session.Runs.ordinary {family : Family} {session after : Session} {command : Command}
    {number : Nat} {outcome : Except Failure Unit} {added : List Event}
    (runs : Session.Runs command number session outcome after added)
    (spoken : session.dialect = family.dialect) {asked : Nat} {request : Request}
    (member : .executed asked request ∈ added) : ¬session.dialect.IsControl request.sql := by
  obtain ⟨complete, statements, sent, plans, upTo, served, -⟩ := runs.sent
  rw [spoken] at plans served ⊢
  exact family.worded.served (fun statement belongs =>
    family.worded.plans plans statement (upTo.subset belongs)) served member

/-- What the master is told when it is opened, and that this says nothing of transactions but at
its end, when nothing does that follows. -/
theorem Session.Opening.tells {family : Family} {session after : Session} {engines later : Nat}
    {outcome : Except Failure Unit} {added others : List Event} {slot : Slot}
    (opening : session.Opening engines outcome after later added)
    (spoken : session.dialect = family.dialect) (closed : session.master? = none)
    (opened : after.master? = some slot)
    (following : ∀ asked request, .executed asked request ∈ others →
      ¬session.dialect.IsControl request.sql) :
    ∃ engine settings statements told begun rest, slot.connection.On engine ∧
      added ++ others = .created engine settings :: .connected engine :: (told ++ begun ++ rest) ∧
      Replays session.dialect (replayed session.state) statements ∧
      Served engine session.dialect statements told ∧
      Served engine session.dialect (mirrored session.dialect session.primary.depth) begun ∧
      ∀ asked request, .executed asked request ∈ told ++ rest →
        ¬session.dialect.IsControl request.sql := by
  cases opening with
  | idle settled => cases opened.symm.trans closed
  | failed closed configured concerns => cases opened.symm.trans closed
  | opened closed configured replays served =>
    cases opened
    obtain ⟨told, begun, rfl, telling, beginning⟩ := served.split
    refine ⟨engines, _, _, told, begun, others, ⟨rfl, rfl⟩, rfl, replays, telling, beginning, ?_⟩
    intro asked request member
    rcases List.mem_append.mp member with early | late
    · rw [spoken] at replays telling ⊢
      exact family.worded.served (family.worded.replays replays) telling early
    · exact following asked request late

namespace Operation.Step

open Session

variable {family : Family} {session after : Session} {operation : Operation}
  {outcome : Except Failure Unit} {primary engines later : Nat} {events added : List Event}

/-- An operation keeps depths and transactions in step, unless it is a control that fails. -/
theorem mirrors (step : operation.Step primary session engines outcome after later added)
    (standing : session.Standing primary engines) (spoken : session.dialect = family.dialect)
    (mirrors : session.Mirrors primary engines events)
    (done : ∀ control, operation = .control control → outcome = .ok ()) :
    after.Mirrors primary later (events ++ added) := by
  cases step with
  | unread unreadable => exact mirrors.quiet (fun _ _ => rfl) rfl rfl rfl
  | unrouted found writing opening => exact mirrors.opening standing spoken opening
  | ran found routes isOn runs =>
    rw [← List.append_assoc]
    cases routes with
    | read reads => exact (mirrors.quiet (fun _ _ => rfl) rfl rfl rfl).runs spoken runs
    | write writes opening =>
      exact (mirrors.opening standing spoken opening).runs (opening.dialect_eq.trans spoken) runs
  | insertId asks isOn served whole =>
    refine mirrors.quiet (fun engine isOpen => ?_) rfl rfl rfl
    rw [spoken] at served ⊢
    refine served.transactionAfter_ordinary family.worded (fun statement member => ?_) engine isOpen
    obtain ⟨table, -, yields⟩ := asks statement (Option.mem_toList.mp member)
    rw [spoken] at yields
    exact family.worded.insertIdStatement yields
  | useMaster opening => exact mirrors.opening standing spoken opening
  | control moves => exact mirrors.control standing spoken (done _ rfl) moves
  | setLargeResults => exact mirrors.quiet (fun _ _ => rfl) rfl rfl rfl

/-- When the master was opened, it was told what the session remembers and of the transaction. -/
theorem tells_master (step : operation.Step primary session engines outcome after later added)
    (spoken : session.dialect = family.dialect) (closed : session.master? = none) {slot : Slot}
    (opened : after.master? = some slot) :
    ∃ engine settings statements told begun others, slot.connection.On engine ∧
      added = .created engine settings :: .connected engine :: (told ++ begun ++ others) ∧
      Replays session.dialect (replayed session.state) statements ∧
      Served engine session.dialect statements told ∧
      Served engine session.dialect (mirrored session.dialect session.primary.depth) begun ∧
      ∀ asked request, .executed asked request ∈ told ++ others →
        ¬session.dialect.IsControl request.sql := by
  have silent : ∀ asked request, .executed asked request ∈ ([] : List Event) →
      ¬session.dialect.IsControl request.sql := fun _ _ member => nomatch member
  have alone : ∀ {outcome later}, session.Opening engines outcome after later added → _ :=
    fun opening => opening.tells spoken closed opened silent
  rw [List.append_nil] at alone
  cases step with
  | unread unreadable => cases opened.symm.trans closed
  | unrouted found writing opening => exact alone opening
  | @ran _ command _ _ _ _ _ _ others found routes isOn runs =>
    rw [runs.master?] at opened
    cases routes with
    | read reads => cases opened.symm.trans closed
    | write writes opening =>
      refine opening.tells spoken closed opened fun _ _ late => ?_
      rw [← opening.dialect_eq]
      exact runs.ordinary (opening.dialect_eq.trans spoken) late
  | insertId => cases opened.symm.trans closed
  | useMaster opening => exact alone opening
  | control moves =>
    obtain ⟨-, first, second, -, -, masterMoves⟩ := moves
    rw [closed] at masterMoves
    cases opened.symm.trans masterMoves.absent.1
  | setLargeResults => cases opened.symm.trans closed

end Operation.Step

/-- As long as no beginning, commit or rollback fails, the transactions of a session are the same on
both of its connections and open exactly when its depth is not zero, whenever the master is
opened.

Proof: `Session.Mirrors` is kept by every step. What commands send begins with a word that nothing
about transactions begins with, so only controls and the opening of the master move a transaction,
and both move it as they move the depth. -/
theorem transactions_mirrored {σ : Type} (server : Server σ) (settings : Settings)
    (world started : World σ) (session : Session)
    (connected : (Session.connect server settings : Acting σ Unit Session) ((), world) =
      (.ok session, (), started)) (operations : List Operation)
    (controlled : ∀ entry ∈ journal server operations (session, started), ∀ control,
      entry.operation = .control control → entry.outcome = .ok ()) :
    ∃ primary, session.primary.connection.On primary ∧
      ∀ entry ∈ journal server operations (session, started),
        entry.Mirrored primary ((entry.earlier ++ entry.events).drop world.events.length) := by
  obtain ⟨dialect, named, rfl, standing, begun⟩ := Session.connected_eq connected
  obtain ⟨family, rfl⟩ : ∃ family : Family, dialect = family.dialect := by
    obtain ⟨family, -, ended⟩ := Reporting.yields_bind named
    exact ⟨family, Reporting.yields_pure.mp ended⟩
  let Holds (session : Session) (engines : Nat) (all : List Event) : Prop :=
    session.dialect = family.dialect ∧ ∃ events, all = world.events ++ events ∧
      session.Mirrors world.engines engines events
  have holds : Holds (Session.connectedOn settings family.dialect world.engines) started.engines
      started.events :=
    ⟨rfl, _, begun, rfl, (fun _ _ wrong _ => nomatch wrong), fun _ _ => rfl⟩
  refine ⟨world.engines, ⟨rfl, rfl⟩, journal_induction Holds
    (fun entry => ∀ control, entry.operation = .control control → entry.outcome = .ok ())
    ?_ server operations standing holds controlled⟩
  rintro operation outcome before after engines later earlier added stands
    ⟨spoken, events, rfl, mirrors⟩ step done
  have next := step.mirrors stands spoken mirrors done
  refine ⟨⟨step.settings_eq.1.trans spoken, events ++ added, List.append_assoc _ _ _, next⟩, ?_⟩
  dsimp only
  rw [List.append_assoc, List.drop_left]
  refine ⟨next.primary, fun slot opened => ?_, fun closed slot opened =>
    step.tells_master spoken closed opened⟩
  obtain ⟨engine, slotOn, -⟩ := (step.standing stands).master slot opened
  obtain ⟨depth, known⟩ := next.master slot engine opened slotOn
  refine ⟨engine, slotOn, depth, ?_, known⟩
  change after.active.depth = slot.depth
  rw [Session.active, opened]
  rfl

/-- A transaction inside of another one, in which a row is inserted and which is rolled back. -/
theorem nested_mirrored :
    let operations : List Operation :=
      [.executeCommand (.use { database := "notes" }) [], .control .begin, .control .begin,
       .executeCommand (.insert { table := "notes", values := some (.row [("id", .int 7)]) }) [],
       .control .commit, .control .rollback, .control .commit]
    (Session.connect Server.silent twoServers : Acting Unit Unit Session) ((), { memory := () }) =
        (.ok (Session.connectedOn twoServers Family.mysql.dialect 0), (), begunWorld) ∧
      (∀ entry ∈ journal Server.silent operations
        (Session.connectedOn twoServers Family.mysql.dialect 0, begunWorld), ∀ control,
          entry.operation = .control control → entry.outcome = .ok ()) ∧
      ∃ primary,
        (Session.connectedOn twoServers Family.mysql.dialect 0).primary.connection.On primary ∧
        ∀ entry ∈ journal Server.silent operations
          (Session.connectedOn twoServers Family.mysql.dialect 0, begunWorld),
          entry.Mirrored primary (entry.earlier ++ entry.events) := by
  intro operations
  have standing : (Session.connectedOn twoServers Family.mysql.dialect 0).Standing 0
      begunWorld.engines := Session.connectedOn_standing twoServers Family.mysql.dialect 0
  have controlled := controls_succeed Server.silent_faultless standing operations
  exact ⟨twoServers_connected, controlled, transactions_mirrored Server.silent twoServers
    { memory := () } begunWorld _ twoServers_connected operations controlled⟩

end PortableSql
