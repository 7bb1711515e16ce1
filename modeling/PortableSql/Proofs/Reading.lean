import PortableSql.Payload.Command
import PortableSql.Proofs.Outcome

/-!
# What payloads are read as

Reading a payload ends in one way whatever was recorded before. It ends well only when every part
was accepted and no key was left over; a key that merges a clause with its value ends it before
anything else is looked at.
-/

namespace PortableSql

namespace Reporting

variable {α β : Type}

/-- A computation ends in one way, whatever was recorded before it. -/
def Settled (computation : Reporting α) : Prop := computation.Gives computation.result

theorem Gives.settled {computation : Reporting α} {outcome : Except Failure α}
    (gives : computation.Gives outcome) : computation.Settled := gives.self

theorem settled_pure (value : α) : (pure value : Reporting α).Settled := (gives_pure value).settled

theorem settled_raise (failure : Failure) : (raise failure : Reporting α).Settled :=
  (gives_raise failure).settled

theorem Settled.bind {computation : Reporting α} {next : α → Reporting β}
    (first : computation.Settled) (second : ∀ value, (next value).Settled) :
    (computation >>= next).Settled :=
  (Gives.bind first fun value _ => second value).settled

end Reporting

namespace Checked

variable {α β : Type}

theorem map_accepted {transform : α → β} {part : Checked α} {value : β} :
    part.map transform = .accepted value ↔
      ∃ read, part = .accepted read ∧ transform read = value := by
  cases part <;> simp [map]

theorem both_accepted {first : Checked α} {second : Unit → Checked β} {value : α × β} :
    first.both second = .accepted value ↔
      first = .accepted value.1 ∧ second () = .accepted value.2 := by
  obtain ⟨one, other⟩ := value
  cases first with
  | accepted read => simp [both, map_accepted, and_comm]
  | rejected issues => cases other : second () <;> simp [both, other]
  | broken failure earlier => simp [both]

/-- Parts that are read side by side are accepted together. -/
theorem seq_accepted {transform : Checked (α → β)} {part : Checked α} {value : β} :
    (transform <*> part) = .accepted value ↔
      ∃ function read, transform = .accepted function ∧ part = .accepted read ∧
        function read = value := by
  change (transform.both fun _ => part).map _ = _ ↔ _
  simp only [map_accepted, both_accepted, Prod.exists]
  constructor
  · rintro ⟨function, read, ⟨first, second⟩, same⟩
    exact ⟨function, read, first, second, same⟩
  · rintro ⟨function, read, first, second, same⟩
    exact ⟨function, read, ⟨first, second⟩, same⟩

theorem inside_accepted {step : String} {part : Checked α} {value : α} :
    part.inside step = .accepted value ↔ part = .accepted value := by
  cases part <;> simp [inside]

theorem andThen_accepted {part : Checked α} {next : α → Checked β} {value : β} :
    part.andThen next = .accepted value ↔
      ∃ read, part = .accepted read ∧ next read = .accepted value := by
  cases part <;> simp [andThen]

theorem also_accepted {part : Checked α} {issues : List Issue} {value : α} :
    part.also issues = .accepted value ↔ part = .accepted value ∧ issues = [] := by
  unfold also
  cases issues with
  | nil => simp
  | cons issue rest => cases part <;> simp

theorem checkedBy_accepted {part : Checked α} {reason? : α → Option String} {value : α}
    (accepted : part.checkedBy reason? = .accepted value) : part = .accepted value := by
  obtain ⟨read, same, checked⟩ := andThen_accepted.mp accepted
  cases reason : reason? read with
  | none =>
    rw [reason] at checked
    cases checked
    exact same
  | some text =>
    rw [reason] at checked
    cases checked

end Checked

namespace Payload

/-- A model is accepted only when its fields are and every key belongs to one of them. -/
theorem modelOf_accepted {α : Type} {keys : List Key} {entries : Entries} {fields : Checked α}
    {reason? : α → Option String} {value : α}
    (accepted : modelOf keys entries fields reason? = .accepted value) :
    fields = .accepted value ∧ strayKeys keys entries = [] :=
  Checked.also_accepted.mp (Checked.checkedBy_accepted accepted)

/-- Where no key is left over, every key is the name or the keyword of a field. -/
theorem spelled_of_strayKeys {keys : List Key} {entries : Entries}
    (nothing : strayKeys keys entries = []) :
    ∀ entry ∈ entries, ∃ key ∈ keys, entry.1 = .text key.name ∨ entry.1 = .text key.keyword := by
  intro entry member
  have kept := (List.filterMap_eq_nil_iff.mp nothing) entry member
  obtain ⟨key, value⟩ := entry
  cases key with
  | text spelling =>
    have known : spelling ∈ keys.filterMap fun key => (key.locate entries).map Prod.fst := by
      by_contra stray
      simp [stray] at kept
    obtain ⟨key, belongs, located⟩ := List.mem_filterMap.mp known
    refine ⟨key, belongs, ?_⟩
    unfold Key.locate at located
    cases given : valueOf? key.keyword entries with
    | some value =>
      simp only [given, Option.map_some, Option.some.injEq] at located
      exact .inr (congrArg Value.text located.symm)
    | none =>
      simp only [given] at located
      obtain ⟨⟨_, _⟩, found, rfl⟩ := Option.map_eq_some_iff.mp located
      obtain ⟨_, _, same⟩ := Option.map_eq_some_iff.mp found
      cases same
      exact .inl rfl
  | _ => cases kept

theorem settled_resolve (source : Tag.Source) : (Tag.resolve source).Settled := by
  unfold Tag.resolve
  split
  · exact Reporting.settled_pure _
  · dsimp only
    split
    · exact Reporting.settled_pure _
    · split <;> exact Reporting.settled_raise _
  · exact Reporting.settled_raise _

theorem settled_clausesOf (tag : Tag) (payload : Value) : (clausesOf tag payload).Settled := by
  have unsupported : (clausesOf.unsupported tag payload).Settled := Reporting.settled_raise _
  have fromList : ∀ items, (clausesOf.fromList tag payload items).Settled := by
    intro items
    unfold clausesOf.fromList
    split
    · exact Reporting.settled_pure _
    · split
      · split
        · exact Reporting.settled_pure _
        · exact Reporting.settled_raise _
      · exact unsupported
  unfold clausesOf
  split
  · exact Reporting.settled_pure _
  · exact Reporting.settled_pure _
  · split
    · exact Reporting.settled_pure _
    · exact unsupported
  · exact fromList _
  · exact fromList _
  · split
    · exact Reporting.settled_pure _
    · exact unsupported
  · exact unsupported

/-- What a dictionary of clauses is read as, or why it is refused. -/
def created (tag : Tag) (entries : Entries) : Except Failure Command :=
  match keyFault? entries, collapsedIn? tag.modelName entries with
  | some fault, _ => .error fault
  | none, some report => .error report
  | none, none => match readCommand tag entries with
    | .accepted command => .ok command
    | .broken failure _ => .error failure
    | .rejected issues => .error (.validation
        ("Invalid " ++ tag.modelName ++ " payload: " ++ describeIssues issues))

theorem create_gives (tag : Tag) (entries : Entries) :
    (create tag entries).Gives (created tag entries) := by
  unfold create created
  cases keyFault? entries with
  | some fault => exact fun _ => rfl
  | none => cases collapsedIn? tag.modelName entries with
    | some report =>
      change Reporting.Gives _ ((.error report : Except Failure Unit) >>= fun _ => .error report)
      exact (Reporting.gives_raise report).bind fun _ wrong => nomatch wrong
    | none => cases readCommand tag entries with
      | accepted command => exact fun _ => rfl
      | broken failure earlier => exact fun _ => rfl
      | rejected issues =>
        let refusal : Failure := .validation
          ("Invalid " ++ tag.modelName ++ " payload: " ++ describeIssues issues)
        have refused : (Reporting.raise refusal : Reporting Command).Gives (.error refusal) :=
          Reporting.gives_raise refusal
        exact fun records => refused (records ++ Checked.issueRecords issues)

/-- The clauses of a payload with the arguments that are given beside it. -/
def withGiven (entries : Entries) (args : List Value) : Entries :=
  if args.isEmpty then entries else putValue entries "args" (.list args)

/-- A dictionary of clauses is read with the arguments beside it. -/
theorem parse_gives {source : Tag.Source} {tag : Tag}
    (resolved : (Tag.resolve source).result = .ok tag) (entries : Entries) (args : List Value) :
    (parse source (.value (.dictionary entries)) args).Gives
      (created tag (withGiven entries args)) := by
  have gives : (Tag.resolve source).Gives (.ok tag) := resolved ▸ settled_resolve source
  change Reporting.Gives _
    ((.ok tag : Except Failure Tag) >>= fun tag => created tag (withGiven entries args))
  exact gives.bind fun tag _ => create_gives tag _

theorem settled_parse (source : Tag.Source) (payload : Source) (args : List Value) :
    (parse source payload args).Settled := by
  refine (settled_resolve source).bind fun tag => ?_
  cases payload with
  | built command =>
    dsimp only
    split
    · exact Reporting.settled_raise _
    · split <;> exact Reporting.settled_pure _
  | value payload =>
    exact (settled_clausesOf tag payload).bind fun clauses => (create_gives tag _).settled

end Payload

end PortableSql
