import PortableSql.Proofs.Faultless

/-!
# What a session remembers

A session remembers the database in use, whether integrity checks are off, and what the last insert
was. It remembers commands that returned and no others: a command that cannot be read, routed,
compiled or run leaves everything as it was, and so does whatever is asked between commands.

What is remembered is said of the commands that returned, from the first to the last, without
regard to the runs between them.
-/

namespace PortableSql

/-- The command of an operation, if it returned. -/
def Operation.returned? (operation : Operation) (outcome : Except Failure Unit) : Option Command :=
  if outcome.isOk then operation.command? else none

/-- The commands of a run that returned, in their order. -/
def returned (entries : List Entry) : List Command :=
  entries.filterMap fun entry => entry.operation.returned? entry.outcome

/-- The session that a run leaves. -/
def lastSession (session : Session) (entries : List Entry) : Session :=
  (entries.getLast?.map Entry.after).getD session

namespace Command

/-- Whether integrity checks are switched off, if the command switches them. -/
def switched? : Command → Option Bool
  | .bulkImportMode command => some command.enabled
  | _ => none

/-- The table and the generated column of an insert. -/
def inserted? : Command → Option (String × Option String)
  | .insert command => some (command.table, command.autoIncrement)
  | _ => none

end Command

/-- What the last of some commands says about something, if one of them says anything. -/
def lastSaid {α : Type} (notes : Command → Option α) (commands : List Command) : Option α :=
  commands.reverse.findSome? notes

/-- A command that says something is the last one to say it. -/
theorem lastSaid_append {α : Type} (notes : Command → Option α) (commands : List Command)
    (command : Command) :
    lastSaid notes (commands ++ [command]) = (notes command).or (lastSaid notes commands) := by
  unfold lastSaid
  rw [List.reverse_append, List.reverse_singleton, List.singleton_append, List.findSome?_cons]
  cases notes command <;> rfl

/-- The database was selected, and neither was another one selected since nor was it removed. -/
def InUse (commands : List Command) (database : String) : Prop :=
  ∃ earlier selection later, commands = earlier ++ .use selection :: later ∧
    selection.database = database ∧ ∀ command ∈ later, (∀ other, command ≠ .use other) ∧
      ∀ removal, command = .dropDatabase removal → removal.name ≠ database

/-- A database that is selected is in use, and no other one is. -/
theorem inUse_append_use {commands : List Command} {selection : Use} {database : String} :
    InUse (commands ++ [.use selection]) database ↔ selection.database = database := by
  constructor
  · rintro ⟨earlier, other, later, same, named, unselected⟩
    rcases List.eq_nil_or_concat' later with rfl | ⟨rest, command, rfl⟩
    · obtain ⟨-, last⟩ := List.append_inj' same rfl
      cases last
      exact named
    · rw [← List.cons_append, ← List.append_assoc] at same
      obtain ⟨-, last⟩ := List.append_inj' same rfl
      cases last
      exact absurd rfl ((unselected _ (by simp)).1 selection)
  · intro named
    exact ⟨commands, selection, [], rfl, named, fun _ member => nomatch member⟩

/-- A command that selects no database leaves the one in use, unless it removes it. -/
theorem inUse_append_other {commands : List Command} {command : Command} {database : String}
    (other : ∀ selection, command ≠ .use selection) :
    InUse (commands ++ [command]) database ↔ InUse commands database ∧
      ∀ removal, command = .dropDatabase removal → removal.name ≠ database := by
  constructor
  · rintro ⟨earlier, selection, later, same, named, unselected⟩
    rcases List.eq_nil_or_concat' later with rfl | ⟨rest, last, rfl⟩
    · obtain ⟨-, ending⟩ := List.append_inj' same rfl
      cases ending
      exact absurd rfl (other selection)
    · rw [← List.cons_append, ← List.append_assoc] at same
      obtain ⟨rfl, ending⟩ := List.append_inj' same rfl
      cases ending
      refine ⟨⟨earlier, selection, rest, rfl, named, fun command member => ?_⟩, ?_⟩
      · exact unselected command (List.mem_append_left _ member)
      · exact (unselected command (by simp)).2
  · rintro ⟨⟨earlier, selection, later, rfl, named, unselected⟩, kept⟩
    refine ⟨earlier, selection, later ++ [command], by simp, named, fun any member => ?_⟩
    rcases List.mem_append.mp member with before | last
    · exact unselected any before
    · obtain rfl := List.mem_singleton.mp last
      exact ⟨other, kept⟩

/-- A state remembers what some commands say, one after the other. -/
structure SessionState.Remembers (state : SessionState) (commands : List Command) : Prop where
  database : ∀ name, state.database = some name ↔ InUse commands name
  bulkImport : state.bulkImport = (lastSaid Command.switched? commands).getD false
  insertTable : state.lastInsertTable = (lastSaid Command.inserted? commands).map Prod.fst
  insertColumn : state.lastInsertColumn = (lastSaid Command.inserted? commands).bind Prod.snd

section

variable (state : SessionState) (command : Command)

theorem remembered_bulkImport :
    (Session.remembered command state).bulkImport =
      command.switched?.getD state.bulkImport := by
  cases command with
  | dropDatabase removal =>
    unfold Session.remembered
    dsimp only
    split <;> rfl
  | _ => rfl

theorem remembered_insertTable :
    (Session.remembered command state).lastInsertTable =
      (command.inserted?.map Prod.fst).or state.lastInsertTable := by
  cases command with
  | dropDatabase removal =>
    unfold Session.remembered
    dsimp only
    split <;> rfl
  | _ => rfl

theorem remembered_insertColumn :
    (Session.remembered command state).lastInsertColumn =
      command.inserted?.elim state.lastInsertColumn Prod.snd := by
  cases command with
  | dropDatabase removal =>
    unfold Session.remembered
    dsimp only
    split <;> rfl
  | _ => rfl

end

namespace SessionState.Remembers

variable {state : SessionState} {commands : List Command}

/-- A new session remembers nothing. -/
theorem nil (largeResults : Bool) : SessionState.Remembers { largeResults } [] where
  database name := by
    constructor
    · intro wrong
      cases wrong
    · rintro ⟨earlier, selection, later, wrong, -⟩
      cases earlier <;> cases wrong
  bulkImport := rfl
  insertTable := rfl
  insertColumn := rfl

/-- How rows are sent is no matter of commands. -/
theorem sending (remembers : state.Remembers commands) (largeResults : Bool) :
    SessionState.Remembers { state with largeResults } commands :=
  ⟨remembers.database, remembers.bulkImport, remembers.insertTable, remembers.insertColumn⟩

/-- The database that is remembered after a command is the one in use. -/
theorem database_append (remembers : state.Remembers commands) (command : Command)
    (name : String) :
    (Session.remembered command state).database = some name ↔
      InUse (commands ++ [command]) name := by
  cases command with
  | use selection =>
    rw [inUse_append_use]
    exact Option.some_inj
  | dropDatabase removal =>
    have other : ∀ selection, Command.dropDatabase removal ≠ .use selection :=
      fun _ wrong => nomatch wrong
    rw [inUse_append_other other, ← remembers.database]
    unfold Session.remembered
    dsimp only
    split
    · rename_i removed
      constructor
      · intro wrong
        cases wrong
      · rintro ⟨known, kept⟩
        exact absurd (Option.some.inj (removed.symm.trans known)) (kept removal rfl)
    · rename_i different
      refine (and_iff_left_of_imp ?_).symm
      rintro known _ ⟨⟩ rfl
      exact different known
  | _ =>
    rw [inUse_append_other, ← remembers.database]
    · exact (and_iff_left fun _ wrong => nomatch wrong).symm
    · intro selection wrong
      cases wrong

/-- What a command adds to what is remembered: it says something about the database, about the
checks or about the last insert, and leaves the others. -/
theorem append (remembers : state.Remembers commands) (command : Command) :
    (Session.remembered command state).Remembers (commands ++ [command]) where
  database := remembers.database_append command
  bulkImport := by
    rw [remembered_bulkImport, lastSaid_append, remembers.bulkImport]
    cases command.switched? <;> rfl
  insertTable := by
    rw [remembered_insertTable, lastSaid_append, remembers.insertTable]
    cases command.inserted? <;> rfl
  insertColumn := by
    rw [remembered_insertColumn, lastSaid_append, remembers.insertColumn]
    cases command.inserted? <;> rfl

end SessionState.Remembers

namespace Session

variable {before after routed : Session} {engines later : Nat} {added : List Event}

/-- Opening the master leaves what the session remembers. -/
theorem Opening.state_eq {outcome : Except Failure Unit}
    (opening : before.Opening engines outcome after later added) : after.state = before.state := by
  cases opening <;> rfl

/-- Routing a command leaves what the session remembers. -/
theorem Routes.state_eq {command : Command}
    (routes : Routes command before engines routed later added) : routed.state = before.state := by
  cases routes with
  | write writes opening => exact opening.state_eq
  | read reads => rfl

end Session

namespace Operation.Step

variable {primary : Nat} {session after : Session} {engines later : Nat}
  {operation : Operation} {outcome : Except Failure Unit} {added : List Event}

/-- An operation that fails leaves the whole state. -/
theorem state_of_error {failure : Failure}
    (step : operation.Step primary session engines (.error failure) after later added) :
    after.state = session.state := by
  cases step with
  | unread unreadable => rfl
  | unrouted asked writes opening => exact opening.state_eq
  | ran asked routes isOn runs => exact runs.state.trans routes.state_eq
  | insertId asks isOn served whole => rfl
  | useMaster opening => exact opening.state_eq
  | control moves => rw [moves.kept]

/-- An operation adds its command to what the session remembers if it returns, and nothing
otherwise. -/
theorem remembers
    (step : operation.Step primary session engines outcome after later added)
    {commands : List Command} (remembers : session.state.Remembers commands) :
    after.state.Remembers (commands ++ (operation.returned? outcome).toList) := by
  cases outcome with
  | error failure =>
    rw [step.state_of_error]
    simpa [Operation.returned?, Except.isOk, Except.toBool] using remembers
  | ok value =>
    change after.state.Remembers (commands ++ operation.command?.toList)
    cases step with
    | ran asked routes isOn runs =>
      have state : after.state = Session.remembered _ _ := runs.state
      rw [state, routes.state_eq, asked]
      exact remembers.append _
    | insertId => simpa [Operation.command?] using remembers
    | useMaster opening =>
      rw [opening.state_eq]
      simpa [Operation.command?] using remembers
    | control moves =>
      rw [moves.kept]
      simpa [Operation.command?] using remembers
    | setLargeResults => simpa [Operation.command?] using remembers.sending _

end Operation.Step

/-- What a run leaves is what its first operation and the run after it leave. -/
theorem lastSession_cons (session : Session) (entry : Entry) (entries : List Entry) :
    lastSession session (entry :: entries) = lastSession entry.after entries := by
  unfold lastSession
  rw [List.getLast?_cons]
  cases entries.getLast? <;> rfl

/-- A run adds the commands that returned to what the session remembers. -/
theorem journal_remembers {σ : Type} (server : Server σ) (operations : List Operation)
    {session : Session} {world : World σ} {primary : Nat}
    (standing : session.Standing primary world.engines) {commands : List Command}
    (remembers : session.state.Remembers commands) :
    (lastSession session (journal server operations (session, world))).state.Remembers
      (commands ++ returned (journal server operations (session, world))) := by
  -- The commands before the run grow by those of the first operation.
  induction operations generalizing session world commands with
  | nil => simpa [journal, lastSession, returned] using remembers
  | cons operation rest inductionHypothesis =>
    obtain ⟨outcome, after, added, later, -, same, -, stands, step⟩ :=
      journal_cons server standing operation rest
    have run := inductionHypothesis stands (step.remembers remembers)
    rw [same, lastSession_cons]
    have split : ∀ entry entries, returned (entry :: entries) =
        (entry.operation.returned? entry.outcome).toList ++ returned entries := by
      intro entry entries
      unfold returned
      rw [List.filterMap_cons]
      cases entry.operation.returned? entry.outcome <;> rfl
    rw [split, ← List.append_assoc]
    exact run

/-- After any run of a session that was opened, the session remembers exactly what the commands that
returned say: the database is the one that was selected last, unless it was removed since; integrity
checks are as they were switched last; the last insert is the last one that returned. Whatever
fails on the way leaves all of it.

Proof: a step adds its command if it returns. So does a run, by induction on its operations, from
the nothing that a new session remembers. -/
theorem state_follows_returned {σ : Type} (server : Server σ) (settings : Settings)
    (world started : World σ) (session : Session)
    (connected : (Session.connect server settings : Acting σ Unit Session) ((), world) =
      (.ok session, (), started)) (operations : List Operation) :
    (lastSession session (journal server operations (session, started))).state.Remembers
        (returned (journal server operations (session, started))) ∧
      ∀ entry ∈ journal server operations (session, started), ∀ failure,
        entry.outcome = .error failure → entry.after.state = entry.before.state := by
  obtain ⟨dialect, -, rfl, standing, -⟩ := Session.connected_eq connected
  constructor
  · have nothing := SessionState.Remembers.nil settings.largeResults
    exact journal_remembers server operations standing nothing
  · refine journal_induction (fun _ _ _ => True) (fun _ => True) ?_ server operations standing
      trivial fun _ _ => trivial
    intro operation outcome before after engines later earlier events _ _ step _
    refine ⟨trivial, ?_⟩
    rintro failure rfl
    exact step.state_of_error

/-- A database is selected, a command is refused, and a row is inserted. -/
def refusedBetween : List Operation :=
  [.executeCommand (.use { database := "notes" }) [],
   .executeCommand (.delete { table := "notes", condition := some "id = ?" }) [],
   .control .begin,
   .executeCommand (.insert { table := "notes", values := some (.row [("id", .int 7)]) }) []]

theorem refusedBetween_remembered :
    let entries := journal Server.silent refusedBetween
      (Session.connectedOn twoServers Family.mysql.dialect 0, begunWorld)
    let state := (lastSession (Session.connectedOn twoServers Family.mysql.dialect 0) entries).state
    (returned entries).map Command.tag = [.use, .insert] ∧ state.Remembers (returned entries) ∧
      state.database = some "notes" ∧ state.lastInsertTable = some "notes" ∧
      ∀ entry ∈ entries, ∀ failure, entry.outcome = .error failure →
        entry.after.state = entry.before.state := by
  intro entries state
  obtain ⟨remembers, kept⟩ := state_follows_returned Server.silent twoServers _ _ _
    twoServers_connected refusedBetween
  have tags : (returned entries).map Command.tag = [.use, .insert] := by decide +kernel
  have named : state.database = some "notes" := by decide +kernel
  have table : state.lastInsertTable = some "notes" := by decide +kernel
  exact ⟨tags, remembers, named, table, kept⟩

end PortableSql
