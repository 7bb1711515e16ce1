import Mathlib.Data.List.Forall2
import PortableSql.Reporting

/-!
# Outcomes of computations that report

A computation that reports adds to the records made before it. Those of this library never look at
these records, so each of them has one outcome. The laws here follow a computation step by step
and give its outcome as an `Except` value; what is recorded on the way is left aside.
-/

namespace PortableSql.Reporting

variable {α β γ : Type}

/-- A computation ends in one way, whatever was recorded before it. -/
def Gives (computation : Reporting α) (outcome : Except Failure α) : Prop :=
  ∀ records, (computation.run.run records).1 = outcome

theorem Gives.result_eq {computation : Reporting α} {outcome : Except Failure α}
    (gives : computation.Gives outcome) : computation.result = outcome := gives []

theorem Gives.self {computation : Reporting α} {outcome : Except Failure α}
    (gives : computation.Gives outcome) : computation.Gives computation.result :=
  gives.result_eq ▸ gives

theorem gives_pure (value : α) : (pure value : Reporting α).Gives (.ok value) := fun _ => rfl

theorem gives_log (record : Log.Record) : (log record).Gives (.ok ()) := fun _ => rfl

/-- Raising fails with what is raised; whether a record is made of it does not matter. -/
theorem gives_raise (failure : Failure) :
    (raise failure : Reporting α).Gives (.error failure) := by
  intro records
  unfold raise
  cases failure.record? <;> rfl

theorem gives_ofExcept (outcome : Except Failure α) : (ofExcept outcome).Gives outcome := by
  cases outcome with
  | ok value => exact gives_pure value
  | error failure => exact gives_raise failure

/-- The outcome of a sequence is the sequence of the outcomes. -/
theorem Gives.bind {computation : Reporting α} {outcome : Except Failure α}
    {next : α → Reporting β} {nextOutcome : α → Except Failure β}
    (first : computation.Gives outcome)
    (second : ∀ value, outcome = .ok value → (next value).Gives (nextOutcome value)) :
    (computation >>= next).Gives (outcome >>= nextOutcome) := by
  intro records
  have ended := first records
  rw [ExceptT.run_bind, StateT.run_bind]
  cases ran : computation.run.run records with
  | mk ending later =>
    rw [ran] at ended
    subst ended
    cases ending with
    | error failure => rfl
    | ok value => exact second value rfl later

/-- Changing the value of an outcome is a sequence too. -/
theorem map_eq_bind (change : α → β) (outcome : Except Failure α) :
    outcome.map change = outcome >>= fun value => .ok (change value) := by
  cases outcome <;> rfl

/-- A sequence has a value when both of its steps have one. -/
theorem bind_ok {outcome : Except Failure α} {next : α → Except Failure β} {value : β} :
    outcome >>= next = .ok value ↔ ∃ first, outcome = .ok first ∧ next first = .ok value := by
  cases outcome with
  | error failure => exact ⟨(nomatch ·), fun ⟨_, wrong, _⟩ => nomatch wrong⟩
  | ok first =>
    refine ⟨fun ended => ⟨first, rfl, ended⟩, ?_⟩
    rintro ⟨_, ⟨⟩, ended⟩
    exact ended

/-- A changed outcome is good when the outcome is. -/
theorem map_ok {change : α → β} {outcome : Except Failure α} {value : β} :
    outcome.map change = .ok value ↔ ∃ first, outcome = .ok first ∧ value = change first := by
  cases outcome with
  | error failure => exact ⟨(nomatch ·), fun ⟨_, wrong, _⟩ => nomatch wrong⟩
  | ok first => exact ⟨fun ended => ⟨first, rfl, (Except.ok.inj ended).symm⟩,
      fun ⟨_, same, changed⟩ => by cases same; rw [changed]; rfl⟩

theorem toOption_eq_some {outcome : Except Failure α} {value : α} :
    outcome.toOption = some value ↔ outcome = .ok value := by
  cases outcome <;> simp [Except.toOption]

theorem map_map (change : α → β) (further : β → γ) (outcome : Except Failure α) :
    (outcome.map change).map further = outcome.map fun value => further (change value) := by
  cases outcome <;> rfl

theorem Gives.map {computation : Reporting α} {outcome : Except Failure α} (change : α → β)
    (gives : computation.Gives outcome) :
    (change <$> computation).Gives (outcome.map change) := by
  rw [map_eq_pure_bind, map_eq_bind]
  exact gives.bind fun value _ => gives_pure (change value)

/-- The outcome of a sequence whose steps are known up to a view of their values. -/
theorem Gives.bindViewed {δ : Type} {computation : Reporting α} {outcome : Except Failure γ}
    {next : α → Reporting β} {nextOutcome : γ → Except Failure δ} {view : γ → α} {change : δ → β}
    (first : computation.Gives (outcome.map view))
    (second : ∀ value, (next (view value)).Gives ((nextOutcome value).map change)) :
    (computation >>= next).Gives ((outcome >>= nextOutcome).map change) := by
  cases outcome with
  | error failure =>
    have never : ∀ changed, (Except.error failure : Except Failure α) = .ok changed →
        (next changed).Gives (.error failure) := fun _ wrong => nomatch wrong
    exact first.bind never
  | ok value =>
    have continued : ∀ changed, (Except.ok (view value) : Except Failure α) = .ok changed →
        (next changed).Gives ((nextOutcome value).map change) := by
      rintro _ ⟨⟩
      exact second value
    exact first.bind continued

/-- The same where the value of the first step is known. -/
theorem Gives.bindChanged {δ : Type} {computation : Reporting α} {outcome : Except Failure α}
    {next : α → Reporting β} {nextOutcome : α → Except Failure δ} {change : δ → β}
    (first : computation.Gives outcome)
    (second : ∀ value, (next value).Gives ((nextOutcome value).map change)) :
    (computation >>= next).Gives ((outcome >>= nextOutcome).map change) := by
  have viewed : computation.Gives (outcome.map id) := by
    rw [Except.map_id]
    exact first
  exact viewed.bindViewed second

/-- Changing the value of a computation changes the value of its outcome. -/
theorem ending_map (change : α → β) (computation : Reporting α) (records : List Log.Record) :
    ((change <$> computation).run.run records).1 = (computation.run.run records).1.map change := by
  rw [map_eq_pure_bind, ExceptT.run_bind, StateT.run_bind]
  cases ran : computation.run.run records with
  | mk ending later => cases ending <;> rfl

/-- It is enough to know the outcome of a computation as far as what follows depends on it. -/
theorem Gives.bindMap {δ : Type} {change : α → δ} {computation : Reporting α}
    {outcome : Except Failure δ} {next : α → Reporting β} {nextOutcome : δ → Except Failure β}
    (first : (change <$> computation).Gives outcome)
    (second : ∀ value, (next value).Gives (nextOutcome (change value))) :
    (computation >>= next).Gives (outcome >>= nextOutcome) := by
  intro records
  have ended := first records
  rw [ending_map] at ended
  rw [ExceptT.run_bind, StateT.run_bind]
  cases ran : computation.run.run records with
  | mk ending later =>
    rw [ran] at ended
    subst ended
    cases ending with
    | error failure => rfl
    | ok value => exact second value later

/-- Computations for the items of a list give the outcomes for these items. -/
theorem gives_mapM {computation : α → Reporting β} {outcome : α → Except Failure β}
    {items : List α} (each : ∀ item ∈ items, (computation item).Gives (outcome item)) :
    (items.mapM computation).Gives (items.mapM outcome) := by
  induction items with
  | nil => exact gives_pure []
  | cons first rest inductionHypothesis =>
    rw [List.mapM_cons, List.mapM_cons]
    refine (each first List.mem_cons_self).bind fun value _ => ?_
    have others := inductionHypothesis fun item member =>
      each item (List.mem_cons_of_mem first member)
    exact others.bind fun values _ => gives_pure (value :: values)

/-- A list of good outcomes has an outcome for each item. -/
theorem mapM_eq_ok {outcome : α → Except Failure β} {items : List α} {values : List β} :
    items.mapM outcome = .ok values ↔
      List.Forall₂ (fun item value => outcome item = .ok value) items values := by
  induction items generalizing values with
  | nil =>
    constructor
    · intro ended
      cases ended
      exact .nil
    · rintro ⟨⟩
      rfl
  | cons first rest inductionHypothesis =>
    rw [List.mapM_cons]
    constructor
    · intro ended
      obtain ⟨value, head, following⟩ := bind_ok.mp ended
      obtain ⟨others, tail, last⟩ := bind_ok.mp following
      cases last
      exact .cons head (inductionHypothesis.mp tail)
    · rintro (_ | ⟨head, tail⟩)
      exact bind_ok.mpr ⟨_, head, bind_ok.mpr ⟨_, inductionHypothesis.mpr tail, rfl⟩⟩

/-- All items have good outcomes exactly if each of them has one. -/
theorem mapM_accepted {outcome : α → Except Failure β} {items : List α} :
    (∃ values, items.mapM outcome = .ok values) ↔
      ∀ item ∈ items, ∃ value, outcome item = .ok value := by
  simp only [mapM_eq_ok]
  induction items with
  | nil => exact iff_of_true ⟨[], .nil⟩ fun _ member => nomatch member
  | cons first rest inductionHypothesis =>
    rw [List.forall_mem_cons, ← inductionHypothesis]
    constructor
    · rintro ⟨_, _ | ⟨head, tail⟩⟩
      exact ⟨⟨_, head⟩, _, tail⟩
    · rintro ⟨⟨value, head⟩, values, tail⟩
      exact ⟨value :: values, .cons head tail⟩

/-- Where the values of good outcomes are known, so is their list. -/
theorem mapM_ok {outcome : α → Except Failure β} {value : α → β}
    (known : ∀ item found, outcome item = .ok found → found = value item) {items : List α}
    {values : List β} (ended : items.mapM outcome = .ok values) : values = items.map value := by
  have related := mapM_eq_ok.mp ended
  clear ended
  induction related with
  | nil => rfl
  | cons head _ inductionHypothesis => rw [known _ _ head, inductionHypothesis, List.map_cons]

/-- Checks of all items end well when each of them does. -/
theorem forM_eq_ok {outcome : α → Except Failure Unit} {items : List α} :
    items.forM outcome = .ok () ↔ ∀ item ∈ items, outcome item = .ok () := by
  induction items with
  | nil => exact iff_of_true rfl fun _ member => nomatch member
  | cons first rest inductionHypothesis =>
    rw [List.forall_mem_cons, ← inductionHypothesis]
    change outcome first >>= (fun _ => rest.forM outcome) = .ok () ↔ _
    rw [bind_ok]
    exact ⟨fun ⟨_, head, tail⟩ => ⟨head, tail⟩, fun ⟨head, tail⟩ => ⟨(), head, tail⟩⟩

/-- Checks of the items of a list give the outcomes of these checks. -/
theorem gives_forIn {computation : α → Reporting Unit} {outcome : α → Except Failure Unit}
    (each : ∀ item, (computation item).Gives (outcome item)) (items : List α) :
    (forIn items PUnit.unit fun item _ => do
      computation item
      pure (ForInStep.yield PUnit.unit)).Gives (items.forM outcome) := by
  induction items with
  | nil => exact gives_pure _
  | cons first rest inductionHypothesis =>
    rw [List.forIn_cons, bind_assoc]
    change Gives _ (outcome first >>= fun _ => rest.forM outcome)
    refine (each first).bind fun _ _ => ?_
    rw [pure_bind]
    exact inductionHypothesis

/-- A computation ends with this value, after some records. -/
def Yields (computation : Reporting α) (value : α) : Prop :=
  ∃ records, (computation.run.run records).1 = .ok value

/-- A computation with one outcome yields no other value. -/
theorem Gives.yields {computation : Reporting α} {outcome : Except Failure α} {value : α}
    (gives : computation.Gives outcome) (yields : computation.Yields value) :
    outcome = .ok value := by
  obtain ⟨records, ended⟩ := yields
  exact (gives records).symm.trans ended

@[simp] theorem yields_pure {value found : α} : (pure value : Reporting α).Yields found ↔
    found = value :=
  ⟨fun ⟨_, same⟩ => (Except.ok.inj same).symm, fun same => ⟨[], congrArg Except.ok same.symm⟩⟩

@[simp] theorem not_yields_throw {failure : Failure} {found : α} :
    ¬(throw failure : Reporting α).Yields found := fun ⟨_, wrong⟩ => nomatch wrong

@[simp] theorem not_yields_raise {failure : Failure} {found : α} :
    ¬(raise failure : Reporting α).Yields found := by
  rintro ⟨records, ended⟩
  rw [gives_raise failure records] at ended
  cases ended

/-- A sequence that ends with a value does so by the values of its steps. -/
theorem yields_bind {computation : Reporting α} {next : α → Reporting β} {found : β}
    (yields : (computation >>= next).Yields found) :
    ∃ value, computation.Yields value ∧ (next value).Yields found := by
  obtain ⟨records, ended⟩ := yields
  rw [ExceptT.run_bind, StateT.run_bind] at ended
  cases ran : computation.run.run records with
  | mk ending later =>
    rw [ran] at ended
    cases ending with
    | error failure => cases ended
    | ok value => exact ⟨value, ⟨records, by rw [ran]⟩, later, ended⟩

theorem yields_map {change : α → β} {computation : Reporting α} {found : β}
    (yields : (change <$> computation).Yields found) :
    ∃ value, computation.Yields value ∧ found = change value := by
  rw [map_eq_pure_bind] at yields
  obtain ⟨value, first, ended⟩ := yields_bind yields
  exact ⟨value, first, yields_pure.mp ended⟩

/-- Computations for the items of a list yield a value for each item. -/
theorem yields_each {computation : α → Reporting β} {items : List α} {values : List β}
    (yields : (items.mapM computation).Yields values) :
    List.Forall₂ (fun item value => (computation item).Yields value) items values := by
  induction items generalizing values with
  | nil =>
    cases yields_pure.mp yields
    exact .nil
  | cons first rest inductionHypothesis =>
    rw [List.mapM_cons] at yields
    obtain ⟨value, head, yields⟩ := yields_bind yields
    obtain ⟨others, tail, yields⟩ := yields_bind yields
    rw [yields_pure.mp yields]
    exact .cons head (inductionHypothesis tail)

/-- Each of the values of a list of computations is the value of one of them. -/
theorem yields_mapM {computation : α → Reporting β} {items : List α} {values : List β}
    (yields : (items.mapM computation).Yields values) :
    ∀ value ∈ values, ∃ item ∈ items, (computation item).Yields value := by
  have each := yields_each yields
  clear yields
  induction each with
  | nil => exact fun _ member => nomatch member
  | cons head _ inductionHypothesis =>
    intro found member
    rcases List.mem_cons.mp member with rfl | later
    · exact ⟨_, List.mem_cons_self, head⟩
    · obtain ⟨item, belongs, ended⟩ := inductionHypothesis found later
      exact ⟨item, List.mem_cons_of_mem _ belongs, ended⟩

end PortableSql.Reporting
