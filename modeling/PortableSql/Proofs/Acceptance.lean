import PortableSql.Proofs.Binding

/-!
# Accepted arguments

Whether an argument is accepted depends on where it lands: names have to be names that can be
quoted, numbers of a limit have to be numbers, and any value can be bound. What is written from
arguments ends well exactly when there is one for each landing, all of them are accepted, and
nothing else is wrong; and where nothing else is wrong it fails by a mismatch only.
-/

namespace PortableSql

/-- There are too few or too many arguments. -/
def Failure.Mismatch (failure : Failure) : Prop :=
  ∃ message field value, failure = .validation message field value .argumentMismatch

theorem Arguments.mismatch_of_take {arguments : Arguments} {clause : String} {failure : Failure}
    (missing : arguments.take clause = .error failure) : failure.Mismatch := by
  unfold take at missing
  split at missing
  · cases missing
  · cases missing
    exact ⟨_, _, _, rfl⟩

theorem Arguments.mismatch_of_ensureConsumed {arguments : Arguments} {failure : Failure}
    (excess : arguments.ensureConsumed = .error failure) : failure.Mismatch := by
  unfold ensureConsumed at excess
  split at excess
  · cases excess
  · cases excess
    exact ⟨_, _, _, rfl⟩

/-- Whether a part of a name can be quoted does not depend on what it names. -/
theorem quotePart_ok_of {quote : String × String} {what other part quoted : String}
    (ended : (quotePart quote what part).result = .ok quoted) :
    (quotePart quote other part).result = .ok quoted := by
  have free : nameFault? what part = none → nameFault? other part = none := by
    unfold nameFault?
    split_ifs <;> simp
  unfold quotePart at ended ⊢
  cases fault : nameFault? what part with
  | none =>
    rw [fault] at ended
    rw [free fault]
    exact ended
  | some failure =>
    rw [fault, Reporting.result_raise] at ended
    cases ended

namespace Dialect

/-- Whether a name can be quoted does not depend on what it names. -/
theorem quotedValue_ok_of {dialect : Dialect} {what other quoted : String} {value : Value}
    (ended : dialect.quotedValue what value = .ok quoted) :
    dialect.quotedValue other value = .ok quoted := by
  obtain ⟨name, rfl, ended⟩ := quotedValue_ok ended
  change (quoteName dialect.table.identifierQuote what name).result = .ok quoted at ended
  change (quoteName dialect.table.identifierQuote other name).result = .ok quoted
  rw [(gives_quoteName_parts dialect.table.identifierQuote what name).result_eq,
    Reporting.bind_ok] at ended
  rw [(gives_quoteName_parts dialect.table.identifierQuote other name).result_eq,
    Reporting.bind_ok]
  obtain ⟨parts, known, same⟩ := ended
  refine ⟨parts, Reporting.mapM_eq_ok.mpr ?_, same⟩
  exact (Reporting.mapM_eq_ok.mp known).imp fun _ _ => quotePart_ok_of

end Dialect

/-- The value is a number of rows: an integer that is not negative, or digits around which there
may be white space. -/
def Value.IsRowCount : Value → Prop
  | int number => 0 ≤ number
  | text digits => Text.allDigits (Text.trim digits.toList) = true ∧
    ∃ number, Text.integer digits = .ok number
  | _ => False

theorem limitArgument_ok_iff (value : Value) :
    (∃ number, limitArgument value = .ok number) ↔ value.IsRowCount := by
  unfold limitArgument Value.IsRowCount
  cases value with
  | int number =>
    dsimp only
    split <;> simp_all
  | text digits =>
    dsimp only
    split <;> simp_all
  | _ => simp

/-- The argument is accepted where it lands. -/
def Accepted (dialect : Dialect) : Landing → Value → Prop
  | .name, value => ∃ quoted, dialect.quotedValue "identifier" value = .ok quoted
  | .value, _ => True
  | .limit, value => value.IsRowCount

/-- There is one argument for each landing, and it is accepted. -/
structure Fits (dialect : Dialect) (landings : List Landing) (arguments : List Value) : Prop where
  counted : arguments.length = landings.length
  met : Met (Accepted dialect) landings arguments

/-- Arguments fit in a row when they fit in both of its parts. -/
theorem fits_append {dialect : Dialect} {landings others : List Landing} {arguments : List Value} :
    Fits dialect (landings ++ others) arguments ↔ ∃ first second, arguments = first ++ second ∧
      Fits dialect landings first ∧ Fits dialect others second := by
  constructor
  · rintro ⟨counted, met⟩
    rw [List.length_append] at counted
    have divided := (List.take_append_drop landings.length arguments).symm
    have countedFirst : (arguments.take landings.length).length = landings.length := by
      rw [List.length_take]
      omega
    rw [divided] at met
    obtain ⟨metFirst, metSecond⟩ := (met_append countedFirst).mp met
    refine ⟨_, _, divided, ⟨countedFirst, metFirst⟩, ⟨?_, metSecond⟩⟩
    rw [List.length_drop]
    omega
  · rintro ⟨first, second, rfl, fitsFirst, fitsSecond⟩
    refine ⟨?_, (met_append fitsFirst.counted).mpr ⟨fitsFirst.met, fitsSecond.met⟩⟩
    rw [List.length_append, List.length_append, fitsFirst.counted, fitsSecond.counted]

theorem fits_nil {dialect : Dialect} {arguments : List Value} :
    Fits dialect [] arguments ↔ arguments = [] := by
  constructor
  · exact fun fits => List.eq_nil_of_length_eq_zero fits.counted
  · rintro rfl
    exact ⟨rfl, fun _ wrong => nomatch wrong⟩

theorem fits_singleton {dialect : Dialect} {landing : Landing} {arguments : List Value} :
    Fits dialect [landing] arguments ↔
      ∃ value, arguments = [value] ∧ Accepted dialect landing value := by
  constructor
  · rintro ⟨counted, met⟩
    obtain ⟨value, rfl⟩ := List.length_eq_one_iff.mp counted
    exact ⟨value, rfl, met _ List.mem_cons_self⟩
  · rintro ⟨value, rfl, accepted⟩
    refine ⟨rfl, fun landed member => ?_⟩
    cases List.mem_singleton.mp member
    exact accepted

/-- Steps in a row go on when each of them is allowed and the arguments fit. -/
theorem sequence_iff {α β : Type} {dialect : Dialect} {relation : α → List Value → β → Prop}
    {allowed : α → Prop} {landings : α → List Landing}
    (each : ∀ item consumed, (∃ value, relation item consumed value) ↔
      allowed item ∧ Fits dialect (landings item) consumed)
    (items : List α) (consumed : List Value) :
    (∃ values, Sequence relation items consumed values) ↔
      (∀ item ∈ items, allowed item) ∧ Fits dialect (items.flatMap landings) consumed := by
  induction items generalizing consumed with
  | nil =>
    rw [List.flatMap_nil, fits_nil]
    constructor
    · rintro ⟨values, ⟨⟩⟩
      exact And.intro (fun _ wrong => nomatch wrong) rfl
    · rintro ⟨-, rfl⟩
      exact ⟨[], .nil⟩
  | cons item rest inductionHypothesis =>
    rw [List.flatMap_cons, fits_append, List.forall_mem_cons]
    constructor
    · rintro ⟨_, ⟨⟩⟩
      rename_i first more value values related further
      obtain ⟨allowedFirst, fitsFirst⟩ := (each item first).mp ⟨value, related⟩
      obtain ⟨allowedRest, fitsRest⟩ := (inductionHypothesis more).mp ⟨values, further⟩
      exact ⟨⟨allowedFirst, allowedRest⟩, first, more, rfl, fitsFirst, fitsRest⟩
    · rintro ⟨⟨allowedFirst, allowedRest⟩, first, more, rfl, fitsFirst, fitsRest⟩
      obtain ⟨value, related⟩ := (each item first).mpr ⟨allowedFirst, fitsFirst⟩
      obtain ⟨values, further⟩ := (inductionHypothesis more).mpr ⟨allowedRest, fitsRest⟩
      exact ⟨value :: values, .cons related further⟩

/-- What is written for items in a row is written for them one by one. -/
theorem binds_iff_sequence {dialect : Dialect} {lines : List (Except Failure Line)}
    {items : List Item} {consumed : List Value} {line : Line} :
    Binds dialect lines items consumed line ↔
      ∃ parts, Sequence (ItemBinds dialect lines) items consumed parts ∧ line = parts.flatten := by
  constructor
  · intro binds
    induction binds with
    | nil => exact ⟨[], .nil, rfl⟩
    | cons first _ inductionHypothesis =>
      obtain ⟨parts, sequence, rfl⟩ := inductionHypothesis
      exact ⟨_ :: parts, .cons first sequence, rfl⟩
  · rintro ⟨parts, sequence, rfl⟩
    induction sequence with
    | nil => exact .nil
    | cons first _ inductionHypothesis => exact .cons first inductionHypothesis

/-- Nothing is wrong with an item itself: it is no placeholder where none is allowed, and a
subquery that it names can be written. -/
def Item.Allowed (lines : List (Except Failure Line)) : Item → Prop
  | text _ | placeholder _ .name | placeholder _ .value => True
  | placeholder _ .refused => False
  | subquery digits => ∃ line, namedLine lines digits = .ok line

theorem itemBinds_iff {dialect : Dialect} {lines : List (Except Failure Line)} (item : Item)
    (consumed : List Value) :
    (∃ line, ItemBinds dialect lines item consumed line) ↔
      item.Allowed lines ∧ Fits dialect item.landings consumed := by
  cases item with
  | text characters =>
    simp only [Item.Allowed, Item.landings, fits_nil, true_and]
    constructor
    · rintro ⟨_, ⟨⟩⟩
      rfl
    · rintro rfl
      exact ⟨_, .text⟩
  | placeholder clause use => cases use with
    | refused =>
      simp only [Item.Allowed, false_and, iff_false]
      rintro ⟨_, ⟨⟩⟩
    | name =>
      simp only [Item.Allowed, Item.landings, PlaceholderUse.landings, fits_singleton, true_and]
      constructor
      · rintro ⟨_, ⟨⟩⟩
        rename_i value quoted known
        exact ⟨value, rfl, quoted, Dialect.quotedValue_ok_of known⟩
      · rintro ⟨value, rfl, quoted, known⟩
        exact ⟨_, .name (Dialect.quotedValue_ok_of known)⟩
    | value =>
      simp only [Item.Allowed, Item.landings, PlaceholderUse.landings, fits_singleton, true_and]
      constructor
      · rintro ⟨_, ⟨⟩⟩
        exact ⟨_, rfl, trivial⟩
      · rintro ⟨value, rfl, -⟩
        exact ⟨_, .value⟩
  | subquery digits =>
    simp only [Item.Allowed, Item.landings, fits_nil]
    constructor
    · rintro ⟨_, ⟨⟩⟩
      rename_i line known
      exact ⟨⟨line, known⟩, rfl⟩
    · rintro ⟨⟨line, known⟩, rfl⟩
      exact ⟨_, .subquery known⟩

/-- Items are written exactly when each of them is allowed and the arguments fit. -/
theorem binds_iff {dialect : Dialect} {lines : List (Except Failure Line)} {items : List Item}
    {consumed : List Value} :
    (∃ line, Binds dialect lines items consumed line) ↔
      (∀ item ∈ items, item.Allowed lines) ∧ Fits dialect (landings items) consumed := by
  rw [landings, ← sequence_iff itemBinds_iff]
  constructor
  · rintro ⟨line, binds⟩
    obtain ⟨parts, sequence, -⟩ := binds_iff_sequence.mp binds
    exact ⟨parts, sequence⟩
  · rintro ⟨parts, sequence⟩
    exact ⟨_, binds_iff_sequence.mpr ⟨parts, sequence, rfl⟩⟩

/-- A part of a limit is a placeholder or a number. -/
def ReadablePart (part : List Char) : Prop :=
  part ≠ ['?'] → ∃ number, Text.integer (String.ofList part) = .ok number

/-- The numbers that are written in a limit can be read. -/
def ReadableLimit : Option Limit → Prop
  | none | some (.count _) => True
  | some (.written limit) => ∀ part ∈ limitParts limit, ReadablePart part

theorem partBinds_iff (dialect : Dialect) (part : List Char) (consumed : List Value) :
    (∃ number, PartBinds part consumed number) ↔ ReadablePart part ∧
      Fits dialect (if part = ['?'] then [.limit] else []) consumed := by
  unfold ReadablePart
  by_cases mark : part = ['?']
  · subst mark
    simp only [ne_eq, not_true_eq_false, false_implies, true_and, if_true, fits_singleton]
    constructor
    · rintro ⟨number, ⟨wrong, -⟩ | known⟩
      · exact absurd rfl wrong
      · exact ⟨_, rfl, (limitArgument_ok_iff _).mp ⟨number, known⟩⟩
    · rintro ⟨value, rfl, accepted⟩
      obtain ⟨number, known⟩ := (limitArgument_ok_iff value).mpr accepted
      exact ⟨number, .argument known⟩
  · simp only [ne_eq, mark, not_false_eq_true, true_implies, if_false, fits_nil]
    constructor
    · rintro ⟨number, ⟨-, known⟩ | -⟩
      · exact ⟨⟨number, known⟩, rfl⟩
      · exact absurd rfl mark
    · rintro ⟨⟨number, known⟩, rfl⟩
      exact ⟨number, .written mark known⟩

/-- A limit is read exactly when its numbers can be read and the arguments fit. -/
theorem limitBinds_iff {dialect : Dialect} {limit : Option Limit} {consumed : List Value} :
    (∃ numbers, LimitBinds limit consumed numbers) ↔
      ReadableLimit limit ∧ Fits dialect (limitLandings limit) consumed := by
  cases limit with
  | none =>
    simp only [ReadableLimit, limitLandings, fits_nil, true_and]
    constructor
    · rintro ⟨_, ⟨⟩⟩
      rfl
    · rintro rfl
      exact ⟨_, .none⟩
  | some limit => cases limit with
    | count rows =>
      simp only [ReadableLimit, limitLandings, fits_nil, true_and]
      constructor
      · rintro ⟨_, ⟨⟩⟩
        rfl
      · rintro rfl
        exact ⟨_, .count⟩
    | written limit =>
      simp only [ReadableLimit, limitLandings]
      rw [← sequence_iff (partBinds_iff dialect)]
      constructor
      · rintro ⟨_, ⟨⟩⟩
        rename_i numbers sequence
        exact ⟨numbers, sequence⟩
      · rintro ⟨numbers, sequence⟩
        exact ⟨_, .written sequence⟩

end PortableSql
