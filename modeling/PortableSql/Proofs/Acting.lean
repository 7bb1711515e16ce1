import PortableSql.Proofs.Outcome
import PortableSql.Server.Connection

/-!
# What actions tell

An action ends with an outcome, leaves something of what it acted on, may create engines, and adds
to the events. Its story relates these to what it acted on before.

Stories are told forwards. What a sequence tells is asked of its second step for whatever the first
one left, and events that were added first stay in front.
-/

namespace PortableSql.Acting

variable {σ τ υ α β : Type}

/-- How an action ended, what it left of what it acted on, how many engines there are then, and the
events it added. -/
abbrev Story (τ α : Type) := Except Failure α → τ → Nat → List Event → Prop

/-- From `before` the action ends as the story says, in every world with so many engines. -/
def Tells (action : Acting σ τ α) (before : τ) (engines : Nat) (story : Story τ α) : Prop :=
  ∀ world, world.engines = engines → ∃ outcome after added later,
    action (before, world) = (outcome, after, later) ∧
      later.events = world.events ++ added ∧ story outcome after later.engines added

variable {before : τ} {engines : Nat} {story : Story τ α}

theorem Tells.imp {action : Acting σ τ α} {other : Story τ α}
    (tells : action.Tells before engines story)
    (implies : ∀ outcome after later added, story outcome after later added →
      other outcome after later added) : action.Tells before engines other := by
  intro world same
  obtain ⟨outcome, after, added, later, ran, events, told⟩ := tells world same
  exact ⟨outcome, after, added, later, ran, events, implies _ _ _ _ told⟩

/-- An action that changes nothing about events and engines. -/
theorem tells_of_apply {action : Acting σ τ α}
    (told : ∀ world : World σ, world.engines = engines → ∃ outcome after later,
      action (before, world) = (outcome, after, later) ∧ later.engines = world.engines ∧
        later.events = world.events ∧ story outcome after engines []) :
    action.Tells before engines story := by
  intro world same
  obtain ⟨outcome, after, later, ran, sameEngines, sameEvents, ended⟩ := told world same
  refine ⟨outcome, after, [], later, ran, by rw [sameEvents, List.append_nil], ?_⟩
  rwa [sameEngines, same]

theorem tells_pure {value : α} (told : story (.ok value) before engines []) :
    (pure value : Acting σ τ α).Tells before engines story :=
  tells_of_apply fun _ _ => ⟨_, _, _, rfl, rfl, rfl, told⟩

theorem tells_throw {failure : Failure} (told : story (.error failure) before engines []) :
    (throw failure : Acting σ τ α).Tells before engines story :=
  tells_of_apply fun _ _ => ⟨_, _, _, rfl, rfl, rfl, told⟩

theorem tells_change {update : τ → τ} {story : Story τ Unit}
    (told : story (.ok ()) (update before) engines []) :
    (change update : Acting σ τ Unit).Tells before engines story :=
  tells_of_apply fun _ _ => ⟨_, _, _, rfl, rfl, rfl, told⟩

/-- What a sequence does is what its steps do. -/
theorem bind_apply (action : Acting σ τ α) (next : α → Acting σ τ β) (state : τ × World σ) :
    (action >>= next) state = match action state with
      | (.ok value, later) => next value later
      | (.error failure, later) => (.error failure, later) := by
  change StateT.bind action (ExceptT.bindCont next) state = _
  unfold StateT.bind
  cases action state with
  | mk outcome later => cases outcome <;> rfl

/-- A sequence tells what its second step tells after the first one, and fails like the first. -/
theorem Tells.bind {action : Acting σ τ α} {next : α → Acting σ τ β} {begun : Story τ α}
    {story : Story τ β} (first : action.Tells before engines begun)
    (failed : ∀ failure after later added, begun (.error failure) after later added →
      story (.error failure) after later added)
    (second : ∀ value after later added, begun (.ok value) after later added →
      (next value).Tells after later fun outcome last final more =>
        story outcome last final (added ++ more)) :
    (action >>= next).Tells before engines story := by
  intro world same
  obtain ⟨outcome, after, added, later, ran, events, told⟩ := first world same
  rw [bind_apply, ran]
  cases outcome with
  | error failure => exact ⟨_, after, added, later, rfl, events, failed failure _ _ _ told⟩
  | ok value =>
    obtain ⟨ending, last, more, final, continued, moreEvents, ended⟩ :=
      second value after later.engines added told later rfl
    refine ⟨ending, last, added ++ more, final, continued, ?_, ended⟩
    rw [moreEvents, events, List.append_assoc]

/-- A step that only answers, and always the same, is passed over. -/
theorem tells_passing {action : Acting σ τ α} {next : α → Acting σ τ β} {value : α}
    {story : Story τ β}
    (passes : ∀ world : World σ, action (before, world) = (.ok value, before, world))
    (tells : (next value).Tells before engines story) :
    (action >>= next).Tells before engines story := by
  intro world same
  rw [bind_apply, passes world]
  exact tells world same

theorem this_bind_apply (next : τ → Acting σ τ α) (before : τ) (world : World σ) :
    (this >>= next) (before, world) = next before (before, world) := rfl

/-- What is acted on is known to what follows. -/
theorem tells_this_bind {next : τ → Acting σ τ α}
    (tells : (next before).Tells before engines story) :
    (this >>= next).Tells before engines story :=
  tells_passing (fun _ => rfl) tells

/-- What follows may look at the world. -/
theorem tells_get_bind {next : τ × World σ → Acting σ τ α}
    (tells : ∀ world, (next (before, world)).Tells before engines story) :
    (get >>= next).Tells before engines story := by
  intro world same
  rw [bind_apply]
  exact tells world world same

/-- What follows a note comes after its event. -/
theorem tells_note_bind {event : Event} {next : Unit → Acting σ τ α}
    (tells : (next ()).Tells before engines fun outcome after later added =>
      story outcome after later (event :: added)) :
    (note event >>= next).Tells before engines story := by
  intro world same
  obtain ⟨outcome, after, added, later, ran, events, told⟩ :=
    tells { world with events := world.events ++ [event] } same
  refine ⟨outcome, after, event :: added, later, ?_, ?_, told⟩
  · rw [bind_apply]
    exact ran
  · rw [events, List.append_assoc, List.singleton_append]

/-- What follows a call follows what the server answers, whatever it remembers. -/
theorem tells_call_bind {ask : σ → Except Failure α × σ} {next : Except Failure α → Acting σ τ β}
    {story : Story τ β}
    (tells : ∀ memory, (next (ask memory).1).Tells before engines story) :
    (call ask >>= next).Tells before engines story := by
  intro world same
  rw [bind_apply]
  exact tells world.memory { world with memory := (ask world.memory).2 } same

/-- What follows a change follows what it leaves. -/
theorem tells_change_bind {update : τ → τ} {next : Unit → Acting σ τ α}
    (tells : (next ()).Tells (update before) engines story) :
    (change update >>= next).Tells before engines story := by
  intro world same
  rw [bind_apply]
  exact tells world same

/-- What a computation that reports does: it leaves records. -/
theorem report_apply (computation : Reporting α) (before : τ) (world : World σ) :
    (report computation : Acting σ τ α) (before, world) =
      ((computation.run.run world.records).1, before,
        { world with records := (computation.run.run world.records).2 }) := by
  have settled : (report computation : Acting σ τ α) (before, world) =
      (settle (computation.run.run world.records).1 : Acting σ τ α)
        (before, { world with records := (computation.run.run world.records).2 }) := rfl
  rw [settled]
  cases (computation.run.run world.records).1 <;> rfl

theorem tells_report {computation : Reporting α}
    (told : ∀ records, story (computation.run.run records).1 before engines []) :
    (report computation : Acting σ τ α).Tells before engines story :=
  tells_of_apply fun world _ => ⟨_, _, _, report_apply computation before world, rfl, rfl,
    told world.records⟩

/-- What follows a computation that reports follows each value that it can have. -/
theorem tells_report_bind {computation : Reporting α} {next : α → Acting σ τ β}
    {story : Story τ β} (failed : ∀ failure, story (.error failure) before engines [])
    (passed : ∀ value, computation.Yields value → (next value).Tells before engines story) :
    (report computation >>= next).Tells before engines story := by
  intro world same
  rw [bind_apply, report_apply]
  cases ended : (computation.run.run world.records).1 with
  | ok value =>
    exact passed value ⟨world.records, ended⟩
      { world with records := (computation.run.run world.records).2 } same
  | error failure =>
    exact ⟨_, _, [], _, rfl, (List.append_nil _).symm, same ▸ failed failure⟩

theorem tells_raise {failure : Failure} (told : story (.error failure) before engines []) :
    (raise failure : Acting σ τ α).Tells before engines story := by
  refine tells_report fun records => ?_
  rw [Reporting.gives_raise failure records]
  exact told

/-- The outcome of an action is told as a value. -/
theorem Tells.outcome {action : Acting σ τ α} (tells : action.Tells before engines story) :
    (Acting.outcome action).Tells before engines fun result after later added =>
      ∃ ending, result = .ok ending ∧ story ending after later added := by
  intro world same
  obtain ⟨ending, after, added, later, ran, events, told⟩ := tells world same
  refine ⟨.ok ending, after, added, later, ?_, events, ending, rfl, told⟩
  change (Except.ok (action (before, world)).1, (action (before, world)).2) = _
  rw [ran]

/-- What follows an outcome follows whatever it is. -/
theorem Tells.outcomeBind {action : Acting σ τ α} {next : Except Failure α → Acting σ τ β}
    {begun : Story τ α} {story : Story τ β} (first : action.Tells before engines begun)
    (second : ∀ ending after later added, begun ending after later added →
      (next ending).Tells after later fun outcome last final more =>
        story outcome last final (added ++ more)) :
    (Acting.outcome action >>= next).Tells before engines story := by
  refine first.outcome.bind ?_ ?_
  · rintro failure after later added ⟨ending, wrong, -⟩
    cases wrong
  · rintro result after later added ⟨ending, same, told⟩
    cases same
    exact second _ after later added told

theorem tells_settle {ending : Except Failure α} (told : story ending before engines []) :
    (settle ending : Acting σ τ α).Tells before engines story := by
  cases ending with
  | ok value => exact tells_pure told
  | error failure => exact tells_throw told

/-- What follows an ending that is known follows when it is good. -/
theorem tells_settle_bind {ending : Except Failure α} {next : α → Acting σ τ β}
    {story : Story τ β}
    (failed : ∀ failure, ending = .error failure → story (.error failure) before engines [])
    (passed : ∀ value, ending = .ok value → (next value).Tells before engines story) :
    (settle ending >>= next).Tells before engines story := by
  intro world same
  rw [bind_apply]
  cases ending with
  | ok value => exact passed value rfl world same
  | error failure => exact tells_throw (failed failure rfl) world same

/-- Acting on a part tells what the action tells of the part. -/
theorem Tells.within {read : τ → υ} {write : υ → τ → τ} {action : Acting σ υ α}
    {partStory : Story υ α} (tells : action.Tells (read before) engines partStory)
    (told : ∀ outcome part later added, partStory outcome part later added →
      story outcome (write part before) later added) :
    (Acting.within read write action).Tells before engines story := by
  intro world same
  obtain ⟨outcome, part, added, later, ran, events, known⟩ := tells world same
  refine ⟨outcome, write part before, added, later, ?_, events, told _ _ _ _ known⟩
  change ((action (read before, world)).1, write (action (read before, world)).2.1 before,
    (action (read before, world)).2.2) = _
  rw [ran]

/-- What follows an action on something else follows how that ended and what became of it. -/
theorem Tells.apartBind {other : υ} {action : Acting σ υ α} {otherStory : Story υ α}
    {next : Except Failure α × υ → Acting σ τ β} {story : Story τ β}
    (tells : action.Tells other engines otherStory)
    (second : ∀ ending part later added, otherStory ending part later added →
      (next (ending, part)).Tells before later fun outcome last final more =>
        story outcome last final (added ++ more)) :
    (Acting.apart other action >>= next).Tells before engines story := by
  have attempt : (Acting.apart other action : Acting σ τ _).Tells before engines
      fun result after later added => after = before ∧ ∃ ending part,
        result = .ok (ending, part) ∧ otherStory ending part later added := by
    intro world same
    obtain ⟨ending, part, added, later, ran, events, known⟩ := tells world same
    refine ⟨_, before, added, later, ?_, events, rfl, ending, part, rfl, known⟩
    change (Except.ok ((action (other, world)).1, (action (other, world)).2.1), before,
      (action (other, world)).2.2) = _
    rw [ran]
  refine attempt.bind ?_ ?_
  · rintro failure after later added ⟨-, ending, part, wrong, -⟩
    cases wrong
  · rintro _ after later added ⟨rfl, ending, part, ⟨⟩, known⟩
    exact second ending part later added known

/-- What an action does inside a span is what it does; a span is left too. -/
theorem traced_apply (name : String) (attributes : List (String × Value))
    (action : Acting σ τ α) (state : τ × World σ) : ∃ spans,
    traced name attributes action state =
      ((action state).1, (action state).2.1, { (action state).2.2 with spans }) := by
  refine ⟨(action state).2.2.spans ++ [Trace.spanOf name .client attributes (action state).1], ?_⟩
  unfold traced
  rw [bind_apply]
  change (changeWorld _ >>= fun _ => settle (action state).1) (action state).2 = _
  cases (action state).1 <;> rfl

theorem Tells.traced {name : String} {attributes : List (String × Value)}
    {action : Acting σ τ α} (tells : action.Tells before engines story) :
    (Acting.traced name attributes action).Tells before engines story := by
  intro world known
  obtain ⟨outcome, after, added, later, ran, events, told⟩ := tells world known
  obtain ⟨spans, same⟩ := traced_apply name attributes action (before, world)
  rw [ran] at same
  exact ⟨outcome, after, added, { later with spans }, same, events, told⟩

end PortableSql.Acting
