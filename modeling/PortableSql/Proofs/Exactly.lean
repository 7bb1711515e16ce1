import PortableSql.Proofs.Line

/-!
# What writing consumes

A writing takes its arguments from the left. What it consumes and what it ends with are described
by a relation: the writing ends well exactly when some arguments stand first among those that are
left and are related to its end. The relation of a sequence is made from those of its steps, so
that what follows about a command can be read off relations instead of runs.
-/

namespace PortableSql

namespace Arguments

/-- The arguments that are not consumed yet. -/
def left (arguments : Arguments) : List Value := arguments.values.drop arguments.position

/-- The arguments after some more are consumed. -/
def skip (arguments : Arguments) (count : Nat) : Arguments :=
  { arguments with position := arguments.position + count }

@[simp] theorem skip_zero (arguments : Arguments) : arguments.skip 0 = arguments := rfl

theorem skip_skip (arguments : Arguments) (first second : Nat) :
    (arguments.skip first).skip second = arguments.skip (first + second) := by
  simp [skip, Nat.add_assoc]

/-- Skipping what stands first leaves what stands behind it. -/
theorem left_skip {arguments : Arguments} {consumed others : List Value}
    (same : arguments.left = consumed ++ others) :
    (arguments.skip consumed.length).left = others := by
  have dropped : (arguments.skip consumed.length).left = arguments.left.drop consumed.length := by
    rw [left, left, List.drop_drop]
    rfl
  rw [dropped, same, List.drop_left]

/-- An argument is taken exactly when one is left. -/
theorem take_iff {arguments next : Arguments} {clause : String} {value : Value} :
    arguments.take clause = .ok (value, next) ↔
      next = arguments.skip 1 ∧ ∃ others, arguments.left = value :: others := by
  constructor
  · intro taken
    obtain ⟨found, same⟩ := take_eq_ok taken
    obtain ⟨within, here⟩ := List.getElem?_eq_some_iff.mp found
    refine ⟨same, arguments.values.drop (arguments.position + 1), ?_⟩
    rw [left, List.drop_eq_getElem_cons within, here]
  · rintro ⟨rfl, others, same⟩
    have found : arguments.values[arguments.position]? = some value := by
      have head := congrArg List.head? same
      rwa [left, List.head?_drop] at head
    rw [take, found]
    rfl

/-- All arguments are consumed when none is left. -/
theorem ensureConsumed_iff (arguments : Arguments) :
    arguments.ensureConsumed = .ok () ↔ arguments.left = [] := by
  unfold ensureConsumed remaining left
  rw [List.drop_eq_nil_iff]
  split
  · exact iff_of_true rfl (by omega)
  · exact iff_of_false (by simp) (by omega)

end Arguments

namespace Writing

variable {α β γ : Type}

/-- The writing ends well exactly when some arguments stand first among those that are left and
are related to what is written; these are consumed then. -/
def Exactly (writing : Writing α) (relation : List Value → α → Prop) : Prop :=
  ∀ arguments left written,
    writing.run arguments = .ok (written, left) ↔
      ∃ consumed others, arguments.left = consumed ++ others ∧
        left = arguments.skip consumed.length ∧ relation consumed written

theorem Exactly.congr {writing : Writing α} {relation other : List Value → α → Prop}
    (exactly : writing.Exactly relation)
    (same : ∀ consumed written, relation consumed written ↔ other consumed written) :
    writing.Exactly other := by
  intro arguments left written
  simpa only [same] using exactly arguments left written

theorem exactly_pure (value : α) :
    (pure value : Writing α).Exactly fun consumed written => consumed = [] ∧ written = value := by
  intro arguments left written
  constructor
  · intro ran
    cases ran
    exact ⟨[], _, rfl, rfl, rfl, rfl⟩
  · rintro ⟨_, _, _, rfl, rfl, rfl⟩
    rfl

theorem exactly_throw (failure : Failure) :
    (throw failure : Writing α).Exactly fun _ _ => False :=
  fun _ _ _ => ⟨(nomatch ·), fun ⟨_, _, _, _, wrong⟩ => wrong.elim⟩

theorem exactly_lift (outcome : Except Failure α) :
    (liftM outcome : Writing α).Exactly fun consumed written =>
      consumed = [] ∧ outcome = .ok written := by
  cases outcome with
  | error failure =>
    exact fun _ _ _ => ⟨(nomatch ·), fun ⟨_, _, _, _, _, wrong⟩ => nomatch wrong⟩
  | ok value =>
    refine (exactly_pure value).congr fun consumed written => and_congr_right fun _ => ?_
    exact ⟨fun same => congrArg _ same.symm, fun same => (Except.ok.inj same).symm⟩

theorem exactly_take (clause : String) :
    Exactly (fun arguments => arguments.take clause) fun consumed value => consumed = [value] := by
  intro arguments left value
  refine Arguments.take_iff.trans ⟨?_, ?_⟩
  · rintro ⟨rfl, others, same⟩
    exact ⟨[value], others, same, rfl, rfl⟩
  · rintro ⟨_, others, same, rfl, rfl⟩
    exact ⟨rfl, others, same⟩

/-- A sequence consumes what its first step consumes and then what its second step does. -/
theorem Exactly.bind {first : Writing α} {next : α → Writing β}
    {relation : List Value → α → Prop} {nextRelation : α → List Value → β → Prop}
    (exactly : first.Exactly relation)
    (nextExactly : ∀ value, (next value).Exactly (nextRelation value)) :
    (first >>= next).Exactly fun consumed written =>
      ∃ value begun following, consumed = begun ++ following ∧ relation begun value ∧
        nextRelation value following written := by
  intro arguments left written
  rw [StateT.run_bind]
  constructor
  · intro ran
    cases begun : first.run arguments with
    | error failure =>
      rw [begun] at ran
      cases ran
    | ok stage =>
      obtain ⟨value, between⟩ := stage
      rw [begun] at ran
      obtain ⟨consumed, others, same, rfl, related⟩ := (exactly _ _ _).mp begun
      obtain ⟨more, last, remaining, rfl, further⟩ := (nextExactly value _ _ _).mp ran
      rw [Arguments.left_skip same] at remaining
      refine ⟨consumed ++ more, last, ?_, ?_, value, consumed, more, rfl, related, further⟩
      · rw [same, remaining, List.append_assoc]
      · rw [Arguments.skip_skip, List.length_append]
  · rintro ⟨_, others, same, rfl, value, begun, following, rfl, related, further⟩
    rw [List.append_assoc] at same
    have ran := (exactly arguments _ value).mpr ⟨begun, _, same, rfl, related⟩
    have continued := (nextExactly value _ _ written).mpr
      ⟨following, others, Arguments.left_skip same, rfl, further⟩
    rw [ran, List.length_append, ← Arguments.skip_skip]
    exact continued

theorem Exactly.map {writing : Writing α} {relation : List Value → α → Prop} (change : α → β)
    (exactly : writing.Exactly relation) :
    (change <$> writing).Exactly fun consumed written =>
      ∃ value, relation consumed value ∧ written = change value := by
  rw [map_eq_pure_bind]
  refine (exactly.bind fun value => exactly_pure (change value)).congr fun consumed written => ?_
  constructor
  · rintro ⟨value, begun, _, rfl, related, rfl, rfl⟩
    exact ⟨value, by rwa [List.append_nil], rfl⟩
  · rintro ⟨value, related, rfl⟩
    exact ⟨value, consumed, [], (List.append_nil _).symm, related, rfl, rfl⟩

/-- Arguments are consumed and none is left exactly when they are related to what is written. -/
theorem Exactly.finish {writing : Writing α} {relation : List Value → α → Prop}
    (exactly : writing.Exactly relation) {arguments : List Value} {command : String} {written : α} :
    writing.finish arguments command = .ok written ↔ relation arguments written := by
  have started : Arguments.left { values := arguments, command } = arguments := rfl
  constructor
  · intro finished
    unfold Writing.finish at finished
    cases ran : writing.run { values := arguments, command } with
    | error failure =>
      rw [ran] at finished
      cases finished
    | ok stage =>
      obtain ⟨value, left⟩ := stage
      rw [ran] at finished
      change left.ensureConsumed >>= (fun _ => Except.ok value) = _ at finished
      cases consumed : left.ensureConsumed with
      | error failure =>
        rw [consumed] at finished
        cases finished
      | ok _ =>
        rw [consumed] at finished
        cases finished
        obtain ⟨begun, others, same, rfl, related⟩ := (exactly _ _ _).mp ran
        have nothing := (Arguments.ensureConsumed_iff _).mp consumed
        rw [Arguments.left_skip same] at nothing
        rw [started, nothing, List.append_nil] at same
        rwa [same]
  · intro related
    have ran := (exactly { values := arguments, command } _ written).mpr
      ⟨arguments, [], by rw [started, List.append_nil], rfl, related⟩
    have nothing : Arguments.ensureConsumed
        (Arguments.skip { values := arguments, command } arguments.length) = .ok () := by
      rw [Arguments.ensureConsumed_iff]
      exact Arguments.left_skip (by rw [started, List.append_nil])
    unfold Writing.finish
    rw [ran]
    change Arguments.ensureConsumed _ >>= (fun _ => Except.ok written) = _
    rw [nothing]
    rfl

end Writing

/-- The relations of items that are written one after the other. -/
inductive Sequence {α β : Type} (relation : α → List Value → β → Prop) :
    List α → List Value → List β → Prop
  | nil : Sequence relation [] [] []
  | cons {item items first rest written others} : relation item first written →
    Sequence relation items rest others →
    Sequence relation (item :: items) (first ++ rest) (written :: others)

theorem exactly_mapM {α β : Type} (writing : α → Writing β)
    (relation : α → List Value → β → Prop)
    (each : ∀ item, (writing item).Exactly (relation item)) (items : List α) :
    (items.mapM writing).Exactly (Sequence relation items) := by
  induction items with
  | nil =>
    refine (Writing.exactly_pure []).congr fun consumed written => ⟨?_, ?_⟩
    · rintro ⟨rfl, rfl⟩
      exact .nil
    · rintro ⟨⟩
      exact ⟨rfl, rfl⟩
  | cons item rest inductionHypothesis =>
    rw [List.mapM_cons]
    refine ((each item).bind fun value => inductionHypothesis.bind fun values =>
      Writing.exactly_pure (value :: values)).congr fun consumed written => ⟨?_, ?_⟩
    · rintro ⟨value, begun, _, rfl, related, values, more, _, rfl, further, rfl, rfl⟩
      rw [List.append_nil]
      exact .cons related further
    · rintro ⟨⟩
      rename_i begun more value values related further
      exact ⟨value, begun, more, rfl, related, values, more, [], (List.append_nil _).symm,
        further, rfl, rfl⟩

/-- Steps that consume nothing consume nothing together. -/
theorem sequence_nil {α β : Type} {relation : α → β → Prop} {items : List α}
    {consumed : List Value} {written : List β} :
    Sequence (fun item begun value => begun = [] ∧ relation item value) items consumed written ↔
      consumed = [] ∧ List.Forall₂ relation items written := by
  constructor
  · intro sequence
    induction sequence with
    | nil => exact ⟨rfl, .nil⟩
    | cons first _ inductionHypothesis =>
      obtain ⟨rfl, related⟩ := first
      obtain ⟨rfl, others⟩ := inductionHypothesis
      exact ⟨rfl, .cons related others⟩
  · rintro ⟨rfl, related⟩
    induction related with
    | nil => exact .nil
    | cons first _ inductionHypothesis =>
      rw [← List.append_nil []]
      exact .cons ⟨rfl, first⟩ inductionHypothesis

/-- Steps that are known up to a change of their values are known in a row. -/
theorem sequence_map {α β γ : Type} {relation : α → List Value → β → Prop}
    {viewed : α → List Value → γ → Prop} {change : β → γ}
    (each : ∀ item consumed value, viewed item consumed value ↔
      ∃ written, relation item consumed written ∧ value = change written)
    {items : List α} {consumed : List Value} {values : List γ} :
    Sequence viewed items consumed values ↔
      ∃ written, Sequence relation items consumed written ∧ values = written.map change := by
  constructor
  · intro sequence
    induction sequence with
    | nil => exact ⟨[], .nil, rfl⟩
    | cons first _ inductionHypothesis =>
      obtain ⟨written, related, rfl⟩ := (each _ _ _).mp first
      obtain ⟨others, further, rfl⟩ := inductionHypothesis
      exact ⟨written :: others, .cons related further, rfl⟩
  · rintro ⟨written, sequence, rfl⟩
    induction sequence with
    | nil => exact .nil
    | cons first _ inductionHypothesis =>
      exact .cons ((each _ _ _).mpr ⟨_, first, rfl⟩) inductionHypothesis

/-- Steps in a row are known where each of them is. -/
theorem sequence_congr {α β : Type} {relation other : α → List Value → β → Prop} {items : List α}
    (each : ∀ item ∈ items, ∀ consumed written,
      relation item consumed written → other item consumed written)
    {consumed : List Value} {written : List β} (sequence : Sequence relation items consumed written) :
    Sequence other items consumed written := by
  induction sequence with
  | nil => exact .nil
  | cons first _ inductionHypothesis =>
    refine .cons (each _ List.mem_cons_self _ _ first) (inductionHypothesis ?_)
    exact fun item member => each item (List.mem_cons_of_mem _ member)

/-- Steps in a row that consume nothing consume nothing. -/
theorem exactly_mapM_nil {α β : Type} {writing : α → Writing β} {relation : α → β → Prop}
    (each : ∀ item, (writing item).Exactly fun consumed value =>
      consumed = [] ∧ relation item value) (items : List α) :
    (items.mapM writing).Exactly fun consumed written =>
      consumed = [] ∧ List.Forall₂ relation items written :=
  (exactly_mapM writing (fun item consumed value => consumed = [] ∧ relation item value) each
    items).congr fun _ _ => sequence_nil

end PortableSql
