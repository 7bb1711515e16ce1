import PortableSql.Proofs.Reading
import PortableSql.Proofs.Running

/-!
# Operations of a session

What is asked of a session between its opening and its closing. For each operation there is one law
that says all that it can do: how it ends, what it leaves of the session, and which events it adds.
-/

namespace PortableSql

namespace Session

open Acting

variable {σ : Type} {session : Session} {number engines : Nat}

/-- The command found the connection it runs on: a write has the master opened before. -/
inductive Routes (command : Command) (before : Session) (engines : Nat) :
    Session → Nat → List Event → Prop
  | write {routed : Session} {later : Nat} {added : List Event}
      (writes : command.tag.isWrite = true)
      (opening : before.Opening engines (.ok ()) routed later added) :
      Routes command before engines routed later added
  | read (reads : command.tag.isWrite = false) : Routes command before engines before engines []

namespace Routes

variable {command : Command} {before routed : Session} {later : Nat} {added : List Event}

/-- An open master is not opened again. -/
theorem of_open {slot : Slot} (opened : before.master? = some slot)
    (routes : Routes command before engines routed later added) :
    routed = before ∧ later = engines ∧ added = [] := by
  cases routes with
  | write writes opening => exact (opening.of_open opened).2
  | read reads => exact ⟨rfl, rfl, rfl⟩

/-- What is done for a command before it is compiled: nothing, where it does not write or the
master is open. -/
theorem told (routes : Routes command before engines routed later added) :
    routed.dialect = before.dialect ∧
      (added ≠ [] → command.tag.isWrite = true ∧ before.master? = none) := by
  cases routes with
  | read reads => exact ⟨rfl, fun wrong => absurd rfl wrong⟩
  | write writes opening => cases opening with
    | idle settled => exact ⟨rfl, fun wrong => absurd rfl wrong⟩
    | opened closed configured replays served => exact ⟨rfl, fun _ => ⟨writes, closed⟩⟩

end Routes

/-- A command is routed: for one that writes the master is opened. -/
theorem route_tells (server : Server σ) (command : Command) :
    (route server command).Tells session engines fun outcome after later added =>
      match outcome with
      | .error failure => command.tag.isWrite = true ∧
          session.Opening engines (.error failure) after later added
      | .ok _ => Routes command session engines after later added := by
  unfold route
  split
  case isTrue writes =>
    refine (useMaster_tells server).imp fun outcome after later added opening => ?_
    cases outcome with
    | error failure => exact ⟨writes, opening⟩
    | ok _ => exact .write writes opening
  case isFalse reads => exact tells_pure (.read (Bool.not_eq_true _ ▸ reads))

namespace Standing

variable {primary : Nat}

/-- Commands always find an open connection. -/
theorem active (standing : session.Standing primary engines) : ∃ number,
    session.active.connection.On number ∧ number < engines ∧
      session.active.connection.dialect = session.dialect := by
  cases known : session.master? with
  | none =>
    have same : session.active = session.primary := by rw [Session.active, known]; rfl
    rw [same]
    exact ⟨primary, standing.opened, standing.known, standing.spoken⟩
  | some slot =>
    obtain ⟨number, isOn, fewer, -, spoken⟩ := standing.master slot known
    rw [active_of_master known]
    exact ⟨number, isOn, fewer, spoken⟩

/-- Opening the master keeps a session standing. -/
theorem opening (standing : session.Standing primary engines) {outcome : Except Failure Unit}
    {after : Session} {later : Nat} {added : List Event}
    (opens : session.Opening engines outcome after later added) : after.Standing primary later := by
  cases opens with
  | idle settled => exact standing
  | failed closed configured concerns =>
    refine ⟨standing.opened, Nat.lt_succ_of_lt standing.known, standing.spoken, ?_⟩
    intro slot known
    rw [closed] at known
    cases known
  | opened closed configured replays served =>
    refine ⟨standing.opened, Nat.lt_succ_of_lt standing.known, standing.spoken, ?_⟩
    rintro slot ⟨⟩
    exact ⟨engines, ⟨rfl, rfl⟩, Nat.lt_succ_self engines, Nat.ne_of_gt standing.known, rfl⟩

/-- Routing a command keeps a session standing. -/
theorem routed (standing : session.Standing primary engines) {command : Command}
    {routed : Session} {later : Nat} {added : List Event}
    (routes : Routes command session engines routed later added) :
    routed.Standing primary later := by
  cases routes with
  | write writes opening => exact standing.opening opening
  | read reads => exact standing

/-- Whatever keeps the connections keeps a session standing. -/
theorem kept (standing : session.Standing primary engines) {after : Session}
    (spoken : after.dialect = session.dialect)
    (same : after.primary.connection = session.primary.connection)
    (master : ∀ slot, after.master? = some slot → ∃ old, session.master? = some old ∧
      slot.connection = old.connection) : after.Standing primary engines where
  opened := same ▸ standing.opened
  known := standing.known
  spoken := by rw [same, spoken, standing.spoken]
  master slot known := by
    obtain ⟨old, opened, still⟩ := master slot known
    rw [still, spoken]
    exact standing.master old opened

end Standing

end Session

/-- What is asked of a session while it is open. -/
inductive Operation where
  /-- A command is executed that is given by its tag and payload. -/
  | execute (tag : Tag.Source) (payload : Payload.Source) (args : List Value)
  | executeCommand (command : Command) (args : List Value)
  /-- The value that the last insert generated is asked for. -/
  | insertId
  /-- The master is opened before a write asks for it. -/
  | useMaster
  | control (control : Control)
  | setLargeResults (enabled : Bool)

namespace Operation

open Acting Session

variable {σ : Type} {session : Session} {primary engines : Nat}

/-- Does what is asked; what it answers is left aside. -/
def act (server : Server σ) : Operation → Acting σ Session Unit
  | execute tag payload args => do
    let _ ← Session.execute server tag payload args
  | executeCommand command args => do
    let _ ← Session.executeCommand server command args
  | insertId => do
    let _ ← Session.insertId server
  | useMaster => Session.useMaster server
  | .control asked => asked.onSession server
  | setLargeResults enabled => Session.setLargeResults enabled

/-- The command that is to be executed, if it can be read. -/
def command? : Operation → Option Command
  | execute tag payload args => (Payload.parse tag payload args).result.toOption
  | executeCommand command args =>
    some (if (givenArgs args).isEmpty then command else command.withArgs (givenArgs args))
  | _ => none

/-- The statement that reads the value that the last insert generated. -/
def AsksId (session : Session) (statement : Statement) : Prop :=
  ∃ table, session.state.lastInsertTable = some table ∧
    (session.dialect.insertIdStatement (some table) session.state.lastInsertColumn).Yields statement

/-- All that an operation can do to a session: how it ends, what it leaves, how many engines there
are afterwards, and which events it adds. -/
inductive Step (primary : Nat) (before : Session) (engines : Nat) :
    Operation → Except Failure Unit → Session → Nat → List Event → Prop
  /-- The command cannot be read. -/
  | unread {tag : Tag.Source} {payload : Payload.Source} {args : List Value} {failure : Failure}
      (unreadable : (execute tag payload args).command? = none) :
      Step primary before engines (execute tag payload args) (.error failure) before engines []
  /-- The master cannot be opened for a command that writes. -/
  | unrouted {operation : Operation} {command : Command} {failure : Failure} {after : Session}
      {later : Nat} {added : List Event} (asked : operation.command? = some command)
      (writes : command.tag.isWrite = true)
      (opening : before.Opening engines (.error failure) after later added) :
      Step primary before engines operation (.error failure) after later added
  | ran {operation : Operation} {command : Command} {routed : Session} {later number : Nat}
      {opened : List Event} {outcome : Except Failure Unit} {after : Session} {added : List Event}
      (asked : operation.command? = some command)
      (routes : Routes command before engines routed later opened)
      (isOn : routed.active.connection.On number)
      (runs : Runs command number routed outcome after added) :
      Step primary before engines operation outcome after later (opened ++ added)
  | insertId {statement? : Option Statement} {number : Nat} {outcome : Except Failure Unit}
      {added : List Event}
      (asks : ∀ statement, statement? = some statement → AsksId before statement)
      (isOn : before.active.connection.On number)
      (served : Served number before.dialect statement?.toList added)
      (whole : outcome = .ok () → statement?.isSome = true) :
      Step primary before engines insertId outcome before engines added
  | useMaster {outcome : Except Failure Unit} {after : Session} {later : Nat} {added : List Event}
      (opening : before.Opening engines outcome after later added) :
      Step primary before engines useMaster outcome after later added
  | control {control : Control} {outcome : Except Failure Unit} {after : Session}
      {added : List Event}
      (moves : control.MovesAll primary (outcome = .ok ()) before after added) :
      Step primary before engines (.control control) outcome after engines added
  | setLargeResults {enabled : Bool} :
      Step primary before engines (setLargeResults enabled) (.ok ())
        { before with state := { before.state with largeResults := enabled } } engines []

/-- A command is routed and run. -/
theorem perform_tells (standing : session.Standing primary engines) (server : Server σ)
    {operation : Operation} {command : Command} (asked : operation.command? = some command) :
    (perform server command).Tells session engines fun outcome after later added =>
      Step primary session engines operation (outcome.map fun _ => ()) after later added := by
  refine (route_tells server command).bind ?_ ?_
  · rintro failure after later added ⟨writes, opening⟩
    exact .unrouted asked writes opening
  rintro ⟨⟩ after later added routes
  have stands := standing.routed routes
  obtain ⟨number, isOn, -, spoken⟩ := stands.active
  refine (compiledRun_tells isOn spoken server command).imp ?_
  rintro outcome last final more ⟨rfl, runs⟩
  exact .ran asked routes isOn runs

/-- Reading the last generated value asks one statement of the active connection. -/
theorem insertId_tells (standing : session.Standing primary engines) (server : Server σ) :
    (Session.insertId server).Tells session engines fun outcome after later added =>
      Step primary session engines insertId (outcome.map fun _ => ()) after later added := by
  obtain ⟨number, isOn, -, spoken⟩ := standing.active
  have unasked : ∀ statement, (none : Option Statement) = some statement →
      AsksId session statement := fun _ wrong => nomatch wrong
  have nothing : ∀ failure : Failure,
      Step primary session engines insertId (.error failure) session engines [] :=
    fun failure => .insertId unasked isOn served_nil fun wrong => nomatch wrong
  refine tells_this_bind ?_
  cases inserted : session.state.lastInsertTable with
  | none => exact tells_raise (nothing _)
  | some table =>
    refine tells_report_bind nothing fun statement yields => ?_
    have asks : ∀ asked, some statement = some asked → AsksId session asked := by
      rintro _ ⟨⟩
      exact ⟨table, inserted, yields⟩
    have fetching : (onActive (Slot.onConnection (Connection.fetch server statement))).Tells session
        engines (Sends number session.dialect [statement] session engines) := by
      rw [← spoken]
      exact onActive_sends (isOn.fetch server statement)
    refine fetching.bind ?_ ?_
    · rintro failure last final more ⟨rfl, rfl, sent, upTo, served, -⟩
      rcases List.prefix_cons_iff.mp upTo with rfl | ⟨rest, rfl, none⟩
      · exact .insertId unasked isOn served fun wrong => nomatch wrong
      · obtain rfl := List.prefix_nil.mp none
        exact .insertId asks isOn served fun _ => rfl
    · rintro rows last final more ⟨rfl, rfl, sent, -, served, whole⟩
      obtain rfl := whole rows rfl
      refine tells_pure ?_
      rw [List.append_nil]
      exact .insertId asks isOn served fun _ => rfl

/-- What follows the reading of a command follows the command that was read, if there is one. -/
theorem tells_parse_bind {α : Type} {tag : Tag.Source} {payload : Payload.Source}
    {args : List Value} {next : Command → Acting σ Session α} {story : Story Session α}
    (unread : (execute tag payload args).command? = none → ∀ failure,
      story (.error failure) session engines [])
    (read : ∀ command, (execute tag payload args).command? = some command →
      (next command).Tells session engines story) :
    (report (Payload.parse tag payload args) >>= next).Tells session engines story := by
  have parsed : (report (Payload.parse tag payload args) : Acting σ Session Command).Tells session
      engines fun outcome after later added => after = session ∧ later = engines ∧ added = [] ∧
        (execute tag payload args).command? = outcome.toOption :=
    tells_report fun records => ⟨rfl, rfl, rfl,
      congrArg Except.toOption (Payload.settled_parse tag payload args records).symm⟩
  refine parsed.bind ?_ ?_
  · rintro failure after later added ⟨rfl, rfl, rfl, unreadable⟩
    exact unread unreadable failure
  · rintro command after later added ⟨rfl, rfl, rfl, asked⟩
    exact read command asked

/-- What is asked is told by what is done for it. -/
theorem tells_discard {α : Type} {action : Acting σ Session α} {operation : Operation}
    (tells : action.Tells session engines fun outcome after later added =>
      Step primary session engines operation (outcome.map fun _ => ()) after later added) :
    (action >>= fun _ => pure ()).Tells session engines
      (Step primary session engines operation) := by
  refine tells.bind (fun failure after later added step => step) ?_
  intro value after later added step
  refine tells_pure ?_
  rw [List.append_nil]
  exact step

/-- Every operation on a session whose connections are open does one of the known steps. -/
theorem act_tells (standing : session.Standing primary engines) (server : Server σ)
    (operation : Operation) :
    (operation.act server).Tells session engines (Step primary session engines operation) := by
  cases operation with
  | execute tag payload args =>
    refine tells_discard (tells_this_bind (Tells.traced (tells_parse_bind ?_ ?_)))
    · exact fun unreadable failure => .unread unreadable
    · exact fun command asked => perform_tells standing server asked
  | executeCommand command args =>
    exact tells_discard (tells_this_bind (perform_tells standing server rfl).traced)
  | insertId => exact tells_discard (insertId_tells standing server)
  | useMaster => exact (useMaster_tells server).imp fun _ _ _ _ opening => .useMaster opening
  | control control =>
    refine (onSession_tells standing server control).imp ?_
    rintro outcome after later added ⟨rfl, moves⟩
    exact .control moves
  | setLargeResults enabled =>
    exact tells_of_apply fun world _ => ⟨_, _, _, rfl, rfl, rfl, .setLargeResults⟩

/-- A control keeps a session standing. -/
theorem movesAll_standing (standing : session.Standing primary engines) {control : Control}
    {whole : Prop} {after : Session} {added : List Event}
    (moves : control.MovesAll primary whole session after added) :
    after.Standing primary engines := by
  obtain ⟨kept, first, second, -, ⟨⟨depth, moved⟩, -⟩, master⟩ := moves
  refine standing.kept ?_ ?_ fun slot opened => ?_
  · rw [kept]
  · rw [moved]
  · rw [opened] at master
    cases known : session.master? with
    | none =>
      rw [known] at master
      exact master.elim
    | some old =>
      rw [known] at master
      obtain ⟨number, isOn, -⟩ := standing.master old known
      obtain ⟨⟨depth, same⟩, -⟩ := master number isOn
      exact ⟨old, rfl, by rw [same]⟩

/-- An operation keeps a session standing. -/
theorem Step.standing (standing : session.Standing primary engines) {operation : Operation}
    {outcome : Except Failure Unit} {after : Session} {later : Nat} {added : List Event}
    (step : Step primary session engines operation outcome after later added) :
    after.Standing primary later := by
  cases step with
  | unread => exact standing
  | unrouted _ _ opening => exact standing.opening opening
  | ran _ routes _ runs =>
    rw [runs.slots]
    exact (standing.routed routes).kept rfl rfl fun slot opened => ⟨slot, opened, rfl⟩
  | insertId => exact standing
  | useMaster opening => exact standing.opening opening
  | control moves => exact movesAll_standing standing moves
  | setLargeResults => exact standing.kept rfl rfl fun slot opened => ⟨slot, opened, rfl⟩

/-- Operations leave the dialect and how the master is reached. -/
theorem Step.settings_eq {operation : Operation} {outcome : Except Failure Unit} {after : Session}
    {later : Nat} {added : List Event}
    (step : Step primary session engines operation outcome after later added) :
    after.dialect = session.dialect ∧ after.masterSettings? = session.masterSettings? := by
  cases step with
  | unread unreadable => exact ⟨rfl, rfl⟩
  | unrouted found writing opening => exact ⟨opening.dialect_eq, opening.masterSettings?_eq⟩
  | ran found routes isOn runs =>
    rw [runs.slots]
    cases routes with
    | read reads => exact ⟨rfl, rfl⟩
    | write writes opening => exact ⟨opening.dialect_eq, opening.masterSettings?_eq⟩
  | insertId => exact ⟨rfl, rfl⟩
  | useMaster opening => exact ⟨opening.dialect_eq, opening.masterSettings?_eq⟩
  | control moves =>
    rw [moves.kept]
    exact ⟨rfl, rfl⟩
  | setLargeResults => exact ⟨rfl, rfl⟩

end Operation

end PortableSql
