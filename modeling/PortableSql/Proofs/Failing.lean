import PortableSql.Proofs.Acceptance

/-!
# How computations fail

A failure is allowed or it is not, and a computation fails as allowed when its steps do. What is
written from arguments fails as allowed when every argument is accepted where it lands, as far as
there are any, and each way to fail is excused: too few or too many arguments, an accepted argument
that cannot be used, and what is wrong with the texts themselves.
-/

namespace PortableSql

section

variable {α β : Type} {allowed : Failure → Prop}

/-- The outcome is a value or an allowed failure. -/
def FailsBy (allowed : Failure → Prop) (outcome : Except Failure α) : Prop :=
  ∀ failure, outcome = .error failure → allowed failure

theorem failsBy_ok (value : α) : FailsBy allowed (.ok value) := fun _ wrong => nomatch wrong

theorem failsBy_error {failure : Failure} (known : allowed failure) :
    FailsBy allowed (.error failure : Except Failure α) := by
  rintro _ ⟨⟩
  exact known

theorem FailsBy.bind {outcome : Except Failure α} {next : α → Except Failure β}
    (first : FailsBy allowed outcome)
    (second : ∀ value, outcome = .ok value → FailsBy allowed (next value)) :
    FailsBy allowed (outcome >>= next) := by
  cases outcome with
  | ok value => exact second value rfl
  | error failure => exact failsBy_error (first failure rfl)

theorem FailsBy.map {outcome : Except Failure α} (change : α → β)
    (fails : FailsBy allowed outcome) : FailsBy allowed (outcome.map change) := by
  rw [Reporting.map_eq_bind]
  exact fails.bind fun value _ => failsBy_ok (change value)

theorem failsBy_mapM {outcome : α → Except Failure β} {items : List α}
    (each : ∀ item ∈ items, FailsBy allowed (outcome item)) :
    FailsBy allowed (items.mapM outcome) := by
  induction items with
  | nil => exact failsBy_ok []
  | cons item rest inductionHypothesis =>
    rw [List.mapM_cons]
    obtain ⟨first, others⟩ := List.forall_mem_cons.mp each
    exact first.bind fun _ _ => (inductionHypothesis others).bind fun _ _ => failsBy_ok _

theorem failsBy_forM {outcome : α → Except Failure Unit} {items : List α}
    (each : ∀ item ∈ items, FailsBy allowed (outcome item)) :
    FailsBy allowed (items.forM outcome) := by
  induction items with
  | nil => exact failsBy_ok ()
  | cons item rest inductionHypothesis =>
    obtain ⟨first, others⟩ := List.forall_mem_cons.mp each
    exact first.bind fun _ _ => inductionHypothesis others

namespace Reporting

/-- However it begins, the computation ends with a value or by an allowed failure. -/
def FailsBy (allowed : Failure → Prop) (computation : Reporting α) : Prop :=
  ∀ records, PortableSql.FailsBy allowed (computation.run.run records).1

variable {computation : Reporting α}

theorem FailsBy.result (fails : computation.FailsBy allowed) :
    PortableSql.FailsBy allowed computation.result := fails []

theorem Gives.failsBy {outcome : Except Failure α} (gives : computation.Gives outcome)
    (fails : PortableSql.FailsBy allowed outcome) : computation.FailsBy allowed := fun records =>
  gives records ▸ fails

theorem failsBy_pure (value : α) : (pure value : Reporting α).FailsBy allowed :=
  (gives_pure value).failsBy (failsBy_ok value)

theorem failsBy_log (record : Log.Record) : (log record).FailsBy allowed :=
  (gives_log record).failsBy (failsBy_ok ())

theorem failsBy_raise {failure : Failure} (known : allowed failure) :
    (raise failure : Reporting α).FailsBy allowed :=
  (gives_raise failure).failsBy (failsBy_error known)

theorem failsBy_ofExcept {outcome : Except Failure α} (fails : PortableSql.FailsBy allowed outcome) :
    (ofExcept outcome).FailsBy allowed := (gives_ofExcept outcome).failsBy fails

/-- A sequence fails like one of its steps; the second one begins with a value of the first. -/
theorem FailsBy.bind {next : α → Reporting β} (first : computation.FailsBy allowed)
    (second : ∀ value, computation.Yields value → (next value).FailsBy allowed) :
    (computation >>= next).FailsBy allowed := by
  intro records
  have begun := first records
  rw [ExceptT.run_bind, StateT.run_bind]
  cases ran : computation.run.run records with
  | mk ending later =>
    rw [ran] at begun
    cases ending with
    | error failure => exact failsBy_error (begun failure rfl)
    | ok value => exact second value ⟨records, by rw [ran]⟩ later

/-- The value of the first step does not matter. -/
theorem FailsBy.andThen {next : α → Reporting β} (first : computation.FailsBy allowed)
    (second : ∀ value, (next value).FailsBy allowed) : (computation >>= next).FailsBy allowed :=
  first.bind fun value _ => second value

theorem FailsBy.map (change : α → β) (fails : computation.FailsBy allowed) :
    (change <$> computation).FailsBy allowed := by
  rw [map_eq_pure_bind]
  exact fails.andThen fun value => failsBy_pure (change value)

theorem failsBy_mapM {next : α → Reporting β} {items : List α}
    (each : ∀ item ∈ items, (next item).FailsBy allowed) : (items.mapM next).FailsBy allowed := by
  induction items with
  | nil => exact failsBy_pure []
  | cons item rest inductionHypothesis =>
    rw [List.mapM_cons]
    obtain ⟨first, others⟩ := List.forall_mem_cons.mp each
    exact first.andThen fun _ => (inductionHypothesis others).andThen fun _ => failsBy_pure _

end Reporting

end

/-- What is accepted in a row is accepted in its first part. -/
theorem met_left {accepts : Landing → Value → Prop} {landings others : List Landing}
    {arguments : List Value} (met : Met accepts (landings ++ others) arguments) :
    Met accepts landings arguments := by
  induction landings generalizing arguments with
  | nil => exact fun _ wrong => nomatch wrong
  | cons landing rest inductionHypothesis =>
    cases arguments with
    | nil => exact fun _ wrong => nomatch wrong
    | cons argument more =>
      rw [Met, List.cons_append, List.zip_cons_cons, List.forall_mem_cons] at met
      rw [Met, List.zip_cons_cons, List.forall_mem_cons]
      exact ⟨met.1, inductionHypothesis met.2⟩

namespace Writing

variable {α β : Type} {accepts : Landing → Value → Prop} {allowed : Failure → Prop}

/-- Where the arguments that are left are accepted, as far as there are any, the writing fails as
allowed only. -/
def FailsBy (accepts : Landing → Value → Prop) (allowed : Failure → Prop)
    (landings : List Landing) (writing : Writing α) : Prop :=
  ∀ arguments, Met accepts landings arguments.left →
    PortableSql.FailsBy allowed (writing.run arguments)

theorem failsBy_pure (value : α) : (pure value : Writing α).FailsBy accepts allowed [] :=
  fun _ _ => failsBy_ok _

theorem failsBy_throw {failure : Failure} (known : allowed failure) (landings : List Landing) :
    (throw failure : Writing α).FailsBy accepts allowed landings := fun _ _ => failsBy_error known

theorem failsBy_lift {outcome : Except Failure α} (fails : PortableSql.FailsBy allowed outcome) :
    (liftM outcome : Writing α).FailsBy accepts allowed [] := by
  intro arguments _
  cases outcome with
  | ok value => exact failsBy_ok _
  | error failure => exact failsBy_error (fails failure rfl)

/-- From these arguments a sequence fails like its first step, which consumes one of them for each
of its landings, or like its second step from those that are left. -/
theorem FailsBy.runBind {first : Writing α} {next : α → Writing β}
    {relation : List Value → α → Prop} {begun following : List Landing} {arguments : Arguments}
    (fails : first.FailsBy accepts allowed begun) (exactly : first.Exactly relation)
    (counted : ∀ consumed value, relation consumed value → consumed.length = begun.length)
    (met : Met accepts (begun ++ following) arguments.left)
    (continued : ∀ consumed others value, arguments.left = consumed ++ others →
      relation consumed value → Met accepts following others →
      PortableSql.FailsBy allowed ((next value).run (arguments.skip consumed.length))) :
    PortableSql.FailsBy allowed ((first >>= next).run arguments) := by
  rw [StateT.run_bind]
  refine PortableSql.FailsBy.bind (fails arguments (met_left met)) ?_
  rintro ⟨value, between⟩ started
  obtain ⟨consumed, others, same, rfl, related⟩ := (exactly _ _ _).mp started
  rw [same] at met
  exact continued consumed others value same related
    ((met_append (counted consumed value related)).mp met).2

/-- A sequence fails like its first step, or like its second one where the first consumes one
argument for each of its landings. -/
theorem FailsBy.bind {first : Writing α} {next : α → Writing β}
    {relation : List Value → α → Prop} {begun following : List Landing}
    (fails : first.FailsBy accepts allowed begun) (exactly : first.Exactly relation)
    (counted : ∀ consumed value, relation consumed value → consumed.length = begun.length)
    (continued : ∀ value, (next value).FailsBy accepts allowed following) :
    (first >>= next).FailsBy accepts allowed (begun ++ following) := by
  intro arguments met
  refine fails.runBind exactly counted met fun consumed others value same _ rest => ?_
  refine continued value _ ?_
  rwa [Arguments.left_skip same]

/-- From any arguments a sequence whose first step consumes nothing fails like one of its steps. -/
theorem FailsBy.runBindNothing {first : Writing α} {next : α → Writing β} {relation : α → Prop}
    {arguments : Arguments} (fails : first.FailsBy accepts allowed [])
    (exactly : first.Exactly fun consumed value => consumed = [] ∧ relation value)
    (continued : ∀ value, PortableSql.FailsBy allowed ((next value).run arguments)) :
    PortableSql.FailsBy allowed ((first >>= next).run arguments) := by
  have anything : Met accepts ([] ++ []) arguments.left := fun _ wrong => nomatch wrong
  refine fails.runBind exactly (fun _ _ plain => congrArg _ plain.1) anything ?_
  rintro _ _ value - ⟨rfl, -⟩ -
  exact continued value

/-- From any arguments a sequence fails like the outcome it begins with, or like its second step. -/
theorem failsBy_runLift {outcome : Except Failure α} {next : α → Writing β} {arguments : Arguments}
    (fails : PortableSql.FailsBy allowed outcome)
    (continued : ∀ value, PortableSql.FailsBy allowed ((next value).run arguments)) :
    PortableSql.FailsBy allowed (((liftM outcome : Writing α) >>= next).run arguments) :=
  (failsBy_lift fails : Writing.FailsBy (fun _ _ => True) allowed [] _).runBindNothing
    (exactly_lift outcome) continued

theorem FailsBy.liftBind {outcome : Except Failure α} {next : α → Writing β}
    {landings : List Landing} (fails : PortableSql.FailsBy allowed outcome)
    (continued : ∀ value, (next value).FailsBy accepts allowed landings) :
    ((liftM outcome : Writing α) >>= next).FailsBy accepts allowed landings := fun arguments met =>
  failsBy_runLift fails fun value => continued value arguments met

/-- From any arguments a sequence whose second step cannot fail fails like its first one. -/
theorem failsBy_runBindPure {writing : Writing α} {arguments : Arguments} (change : α → β)
    (fails : PortableSql.FailsBy allowed (writing.run arguments)) :
    PortableSql.FailsBy allowed ((do
      let value ← writing
      pure (change value) : Writing β).run arguments) := by
  rw [← map_eq_pure_bind, StateT.run_map]
  exact PortableSql.FailsBy.map _ fails

theorem FailsBy.bindPure {writing : Writing α} {landings : List Landing} (change : α → β)
    (fails : writing.FailsBy accepts allowed landings) :
    (do
      let value ← writing
      pure (change value) : Writing β).FailsBy accepts allowed landings := fun arguments met =>
  failsBy_runBindPure change (fails arguments met)

theorem FailsBy.map {writing : Writing α} {landings : List Landing} (change : α → β)
    (fails : writing.FailsBy accepts allowed landings) :
    (change <$> writing).FailsBy accepts allowed landings := by
  rw [map_eq_pure_bind]
  exact fails.bindPure change

theorem failsBy_mapM {writing : α → Writing β} {relation : α → List Value → β → Prop}
    {landings : α → List Landing} {items : List α}
    (exactly : ∀ item, (writing item).Exactly (relation item))
    (counted : ∀ item consumed value, relation item consumed value →
      consumed.length = (landings item).length)
    (each : ∀ item ∈ items, (writing item).FailsBy accepts allowed (landings item)) :
    (items.mapM writing).FailsBy accepts allowed (items.flatMap landings) := by
  induction items with
  | nil => exact failsBy_pure []
  | cons item rest inductionHypothesis =>
    rw [List.mapM_cons, List.flatMap_cons]
    obtain ⟨first, others⟩ := List.forall_mem_cons.mp each
    exact first.bind (exactly item) (counted item) fun value =>
      (inductionHypothesis others).bindPure (value :: ·)

/-- Steps in a row that consume nothing fail like one of them. -/
theorem failsBy_mapM_nil {writing : α → Writing β} {relation : α → β → Prop} {items : List α}
    (exactly : ∀ item, (writing item).Exactly fun consumed value =>
      consumed = [] ∧ relation item value)
    (each : ∀ item ∈ items, (writing item).FailsBy accepts allowed []) :
    (items.mapM writing).FailsBy accepts allowed [] := by
  have nothing : (items.flatMap fun _ => ([] : List Landing)) = [] :=
    List.flatMap_eq_nil_iff.mpr fun _ _ => rfl
  rw [← nothing]
  exact failsBy_mapM exactly (fun _ _ _ plain => congrArg List.length plain.1) each

end Writing

/-- The failures that are allowed to what is written from accepted arguments. -/
structure Excuses (dialect : Dialect) (accepts : Landing → Value → Prop)
    (allowed : Failure → Prop) : Prop where
  missing : ∀ (arguments : Arguments) clause, FailsBy allowed (arguments.take clause)
  surplus : ∀ arguments : Arguments, FailsBy allowed arguments.ensureConsumed
  name : ∀ what value, accepts .name value → FailsBy allowed (dialect.quotedValue what value)
  limit : ∀ value, accepts .limit value → FailsBy allowed (limitArgument value)

/-- Why a placeholder is refused in a clause. -/
def placeholderRefusal (clause : String) : Failure :=
  .validation ("? placeholders are not allowed in " ++ clause) clause .null .argumentMismatch

/-- Nothing is wrong with an item itself, or its failure is allowed. -/
def Item.FailsBy (lines : List (Except Failure Line)) (allowed : Failure → Prop) : Item → Prop
  | text _ | placeholder _ .name | placeholder _ .value => True
  | placeholder clause .refused => allowed (placeholderRefusal clause)
  | subquery digits => PortableSql.FailsBy allowed (namedLine lines digits)

/-- The numbers that are written in a limit can be read, or the failures to do so are allowed. -/
def LimitFailsBy (allowed : Failure → Prop) : Option Limit → Prop
  | none | some (.count _) => True
  | some (.written limit) => ∀ part ∈ limitParts limit, part ≠ ['?'] →
    FailsBy allowed (Text.integer (String.ofList part))

namespace Excuses

variable {α : Type} {dialect : Dialect} {accepts : Landing → Value → Prop}
  {allowed : Failure → Prop} {lines : List (Except Failure Line)}

/-- A step that takes one argument fails like what follows it. -/
theorem take (excuses : Excuses dialect accepts allowed) {landing : Landing}
    {next : Value → Writing α} (clause : String)
    (continued : ∀ value, accepts landing value → (next value).FailsBy accepts allowed []) :
    Writing.FailsBy accepts allowed [landing] (do
      let value ← fun arguments => arguments.take clause
      next value) := by
  intro arguments met
  change FailsBy allowed (arguments.take clause >>= fun stage => (next stage.1).run stage.2)
  refine (excuses.missing arguments clause).bind ?_
  rintro ⟨value, between⟩ taken
  obtain ⟨-, others, same⟩ := Arguments.take_iff.mp taken
  rw [same] at met
  exact continued value (met (landing, value) List.mem_cons_self) between
    fun _ wrong => nomatch wrong

/-- Writing from given arguments fails like its steps. -/
theorem finish (excuses : Excuses dialect accepts allowed) {writing : Writing α}
    {arguments : List Value} {command : String}
    (fails : FailsBy allowed (writing.run { values := arguments, command })) :
    FailsBy allowed (writing.finish arguments command) :=
  fails.bind fun stage _ => (excuses.surplus stage.2).bind fun _ _ => failsBy_ok stage.1

theorem writeItem (excuses : Excuses dialect accepts allowed) {item : Item}
    (fails : item.FailsBy lines allowed) :
    (PortableSql.writeItem dialect lines item).FailsBy accepts allowed item.landings := by
  cases item with
  | text characters => exact Writing.failsBy_pure _
  | placeholder clause use => cases use with
    | refused => exact Writing.failsBy_throw fails _
    | name => exact excuses.take clause fun value accepted =>
        (Writing.failsBy_lift (excuses.name _ value accepted)).map Line.ofText
    | value => exact excuses.take clause fun value _ => Writing.failsBy_pure _
  | subquery digits => exact Writing.FailsBy.liftBind fails fun line => Writing.failsBy_pure _

theorem writeItems (excuses : Excuses dialect accepts allowed) {items : List Item}
    (fails : ∀ item ∈ items, item.FailsBy lines allowed) :
    (PortableSql.writeItems dialect lines items).FailsBy accepts allowed (landings items) := by
  induction items with
  | nil => exact Writing.failsBy_pure []
  | cons item rest inductionHypothesis =>
    rw [landings_cons]
    obtain ⟨first, others⟩ := List.forall_mem_cons.mp fails
    exact (excuses.writeItem first).bind (writeItem_exactly item)
      (fun consumed line binds => binds.length_eq) fun line =>
        (inductionHypothesis others).bindPure (line ++ ·)

theorem readLimitPart (excuses : Excuses dialect accepts allowed) {part : List Char}
    (fails : part ≠ ['?'] → FailsBy allowed (Text.integer (String.ofList part))) :
    (PortableSql.readLimitPart part).FailsBy accepts allowed
      (if part = ['?'] then [.limit] else []) := by
  unfold PortableSql.readLimitPart
  by_cases mark : part = ['?']
  · simp only [mark, if_true]
    exact excuses.take "LIMIT" fun value accepted =>
      Writing.failsBy_lift (excuses.limit value accepted)
  · simp only [mark, if_false]
    exact Writing.failsBy_lift (fails mark)

theorem readLimit (excuses : Excuses dialect accepts allowed) {limit : Option Limit}
    (fails : LimitFailsBy allowed limit) :
    (PortableSql.readLimit limit).FailsBy accepts allowed (limitLandings limit) := by
  match limit, fails with
  | none, _ | some (.count _), _ => exact Writing.failsBy_pure _
  | some (.written limit), fails =>
    refine Writing.FailsBy.map limitOf (Writing.failsBy_mapM readLimitPart_exactly ?_ ?_)
    · exact fun part consumed number binds => binds.length_eq
    · exact fun part member => excuses.readLimitPart (fails part member)

end Excuses

end PortableSql
