import Mathlib.Data.List.TakeWhile
import PortableSql.Compile.Column
import PortableSql.Proofs.Failing

/-!
# Column types can be told

The table of a built-in dialect lacks nothing: every width that a definition may have has a type,
and the templates of types have fields for known values only. So the type of a column that was
read can always be told or is refused by a report, unless the sizes of a decimal are numbers that
are too long to be written.
-/

namespace PortableSql

/-- The failure reports that something given is unacceptable; where not every numeral is legible, it
may also be the fault of one that is not. -/
def Failure.OfInput (legible : Prop) (failure : Failure) : Prop :=
  failure.class? = some .validation ∨ ¬legible ∧ ∃ message, failure = .fault .badValue message

theorem Failure.ofInput_validation {legible : Prop} (message field : String) (value : Value)
    (code : ErrorCode) : (validation message field value code).OfInput legible := .inl rfl

/-- What is no fault where every numeral is legible fails by input. -/
theorem failsBy_legible {α : Type} {legible : Prop} {outcome : Except Failure α}
    (faults : ∀ failure, outcome = .error failure →
      ∃ message, failure = .fault .badValue message)
    (readable : legible → ∃ value, outcome = .ok value) :
    FailsBy (Failure.OfInput legible) outcome := by
  intro failure failed
  refine .inr ⟨fun given => ?_, faults failure failed⟩
  obtain ⟨value, known⟩ := readable given
  cases known.symm.trans failed

theorem numeral_failsBy {legible : Prop} {number : Int} (readable : legible → Writable number) :
    FailsBy (Failure.OfInput legible) (Text.numeral number) := by
  refine failsBy_legible (fun failure failed => ?_) readable
  unfold Text.numeral at failed
  split at failed
  · cases failed
  · cases failed
    exact ⟨_, rfl⟩

namespace Text.Template

/-- Between braces there is nothing but given names, which are no numbers, and no brace stands
alone; `name?` is what was read of a name, backwards. -/
def simple (names : List String) : Option (List Char) → List Char → Bool
  | none, [] => true
  | some _, [] => false
  | none, first :: rest =>
    if first = '\x7b' then simple names (some []) rest
    else first != '\x7d' && simple names none rest
  | some name, first :: rest =>
    if first = '\x7d' then
      name.any (!isDecimal ·) && names.contains (String.ofList name.reverse) &&
        simple names none rest
    else !(['\x7b', ':', '!', '[', '.'].contains first) && simple names (some (first :: name)) rest

/-- The characters of a name in a simple template. -/
def InName (character : Char) : Prop :=
  character ∉ ['\x7d', '\x7b', ':', '!', '[', '.']

/-- A name in a simple template is one of the given ones and ends at a brace. -/
theorem simple_name {names : List String} {begun characters : List Char}
    (holds : simple names (some begun) characters = true) :
    ∃ name rest, characters = name ++ '\x7d' :: rest ∧ (∀ character ∈ name, InName character) ∧
      (begun.reverse ++ name).any (!isDecimal ·) = true ∧
      String.ofList (begun.reverse ++ name) ∈ names ∧ simple names none rest = true := by
  induction characters generalizing begun with
  | nil => cases holds
  | cons first rest inductionHypothesis =>
    unfold simple at holds
    by_cases closing : first = '\x7d'
    · simp only [closing, if_true, Bool.and_eq_true, List.contains_iff_mem] at holds
      obtain ⟨⟨other, known⟩, following⟩ := holds
      refine ⟨[], rest, by rw [closing]; rfl, List.forall_mem_nil _, ?_, ?_, following⟩
      · rwa [List.append_nil, List.any_reverse]
      · rwa [List.append_nil]
    · simp only [closing, if_false, Bool.and_eq_true, Bool.not_eq_true', List.contains_eq_mem,
        decide_eq_false_iff_not] at holds
      obtain ⟨plain, following⟩ := holds
      obtain ⟨name, after, rfl, others, counted, known, last⟩ := inductionHypothesis following
      have longer : (first :: begun).reverse ++ name = begun.reverse ++ first :: name := by simp
      rw [longer] at counted known
      refine ⟨first :: name, after, rfl, List.forall_mem_cons.mpr ⟨?_, others⟩, counted, known,
        last⟩
      rw [InName, List.mem_cons, not_or]
      exact ⟨closing, plain⟩

theorem splitName_name {name rest : List Char} (plain : ∀ character ∈ name, InName character) :
    splitName false (name ++ '\x7d' :: rest) = .ok (name, '\x7d', rest) := by
  induction name with
  | nil => rfl
  | cons first others inductionHypothesis =>
    obtain ⟨head, tail⟩ := List.forall_mem_cons.mp plain
    simp only [InName, List.mem_cons, List.not_mem_nil, or_false, not_or] at head
    obtain ⟨notClosing, notOpening, notColon, notMark, notBracket, -⟩ := head
    have unindexed : (first == '[') = false := by simpa using notBracket
    rw [List.cons_append, splitName]
    simp [notClosing, notOpening, notColon, notMark, unindexed, inductionHypothesis tail, bind,
      Except.bind, pure, Except.pure]

theorem readField_name {name rest : List Char} (plain : ∀ character ∈ name, InName character) :
    readField (name ++ '\x7d' :: rest) = .ok ({ name }, rest) := by
  rw [readField, splitName_name plain]
  rfl

/-- A field that is a known name is written as its value. -/
theorem write_name {expand : List Char → Except Failure (List Char)}
    {values : List (String × Term)} {name : List Char} {term : Term}
    (plain : ∀ character ∈ name, InName character) (counted : name.any (!isDecimal ·) = true)
    (known : values.lookup (String.ofList name) = some term) :
    Field.write expand values { name } = term.plain.map String.toList := by
  have steps : ∀ character ∈ name, (!beginsStep character) = true := by
    intro character member
    have other := plain character member
    simp only [InName, List.mem_cons, List.not_mem_nil, or_false, not_or] at other
    simp [beginsStep, other]
  have whole : name.takeWhile (!beginsStep ·) = name := List.takeWhile_eq_self_iff.mpr steps
  have nothing : name.dropWhile (!beginsStep ·) = [] := List.dropWhile_eq_nil_iff.mpr steps
  have letters : name.all isDecimal = false := by
    rw [← Bool.not_eq_true, List.all_eq_not_any_not, counted]
    decide
  have full : name.isEmpty = false := by
    cases name with
    | nil => cases counted
    | cons first rest => rfl
  have found : lookup values name = .ok term := by
    simp [lookup, position?, letters, full, known, bind, Except.bind]
  rw [Field.write, Field.value, whole, nothing]
  simp only [found]
  rfl

variable {allowed : Failure → Prop} {names : List String} {values : List (String × Term)}

/-- A simple template of known values is filled or fails like one of these values. -/
theorem fillFields_failsBy {expand : List Char → Except Failure (List Char)}
    (known : ∀ name ∈ names, ∃ term, values.lookup name = some term ∧ FailsBy allowed term.plain)
    {characters : List Char} (holds : simple names none characters = true) :
    FailsBy allowed (fillFields expand values characters) := by
  fun_induction fillFields expand values characters with
  | case1 => exact failsBy_ok []
  | case2 rest => simp [simple] at holds
  | case3 rest => simp [simple] at holds
  | case4 => simp [simple] at holds
  | case5 rest _ _ failure found =>
    unfold simple at holds
    rw [if_pos rfl] at holds
    obtain ⟨name, after, rfl, plain, -⟩ := simple_name holds
    rw [readField_name plain] at found
    cases found
  | case6 rest _ _ field after found inductionHypothesis =>
    unfold simple at holds
    rw [if_pos rfl] at holds
    obtain ⟨name, others, rfl, plain, counted, given, following⟩ := simple_name holds
    rw [readField_name plain] at found
    cases found
    obtain ⟨term, value, fails⟩ := known _ given
    rw [write_name plain counted value]
    exact (fails.map _).bind fun _ _ => (inductionHypothesis following).bind fun _ _ => failsBy_ok _
  | case7 => simp [simple] at holds
  | case8 first rest _ _ _ notOpening notClosing inductionHypothesis =>
    unfold simple at holds
    rw [if_neg notOpening] at holds
    exact (inductionHypothesis (Bool.and_eq_true_iff.mp holds).2).bind fun _ _ => failsBy_ok _

end Text.Template

theorem Text.fill_failsBy {allowed : Failure → Prop} {names : List String}
    {values : List (String × Text.Term)} {template : String}
    (simple : Template.simple names none template.toList = true)
    (known : ∀ name ∈ names, ∃ term, values.lookup name = some term ∧
      FailsBy allowed term.plain) : FailsBy allowed (Text.fill values template) :=
  (Template.fillFields_failsBy known simple).map String.ofList

/-! ## Tables without gaps -/

/-- A template of a length. -/
def LengthTemplate (template : String) : Prop :=
  Text.Template.simple ["length"] none template.toList = true

/-- Every width class has a type, and the types that depend on a length are templates of it. -/
structure SizedTypes.Complete (types : SizedTypes) : Prop where
  classes : ∀ width, 1 ≤ width → width ≤ 4 → ∃ type, typeOfClass types.classes width = .ok type
  bounded : ∀ template, typeOfClass types.classes 1 = .ok template → LengthTemplate template
  fixed : LengthTemplate (types.fixed.getD "")
  longest : Writable types.longest

/-- The table of the dialect has a type for every definition. -/
structure Dialect.Complete (dialect : Dialect) : Prop where
  integers : dialect.table.integerTypes ≠ []
  serials : dialect.table.autoIncrementStyle = .serial → dialect.table.serialTypes ≠ []
  decimals : Text.Template.simple ["precision", "scale"] none dialect.table.decimalType.toList =
    true
  precision : Writable dialect.table.maxDecimalPrecision
  scale : Writable dialect.table.maxDecimalScale
  texts : (textTypes dialect).Complete
  binaries : (binaryTypes dialect).Complete
  fixed : Writable dialect.table.maxFixedLength
  temporal : ∀ type ∈ [ColumnType.date, .time, .datetime],
    ∃ name, dialect.table.temporalTypes.lookup type = some name
  use : ∀ template ∈ dialect.table.useStatement,
    Text.Template.simple ["name"] none template.toList = true

/-- Width classes are complete when each of the four has a type. -/
theorem classes_complete {types : List (Int × String)}
    (four : ∀ width ∈ [1, 2, 3, 4], (types.lookup width).isSome) (width : Int) (least : 1 ≤ width)
    (most : width ≤ 4) : ∃ type, typeOfClass types width = .ok type := by
  have member : width ∈ [1, 2, 3, 4] := by
    simp only [List.mem_cons, List.not_mem_nil, or_false]
    omega
  obtain ⟨type, known⟩ := Option.isSome_iff_exists.mp (four width member)
  exact ⟨type, by rw [typeOfClass, known]⟩

/-- The built-in dialects are of this kind. -/
theorem Family.complete (family : Family) : family.dialect.Complete where
  integers := by cases family <;> decide
  serials := by cases family <;> decide
  decimals := by cases family <;> decide
  precision := writable_iff.mpr (by cases family <;> decide +kernel)
  scale := writable_iff.mpr (by cases family <;> decide +kernel)
  texts := {
    classes := classes_complete (by cases family <;> decide)
    bounded := by cases family <;> rintro template ⟨⟩ <;> (unfold LengthTemplate; decide)
    fixed := by cases family <;> (unfold LengthTemplate; decide)
    longest := writable_iff.mpr (by cases family <;> decide +kernel) }
  binaries := {
    classes := classes_complete (by cases family <;> decide)
    bounded := by cases family <;> rintro template ⟨⟩ <;> (unfold LengthTemplate; decide)
    fixed := by cases family <;> (unfold LengthTemplate; decide)
    longest := writable_iff.mpr (by cases family <;> decide +kernel) }
  fixed := writable_iff.mpr (by cases family <;> decide +kernel)
  temporal := by
    have known : ∀ type ∈ [ColumnType.date, .time, .datetime],
        (family.dialect.table.temporalTypes.lookup type).isSome := by
      cases family <;> decide
    exact fun type member => Option.isSome_iff_exists.mp (known type member)
  use := by cases family <;> rintro template ⟨⟩ <;> decide

/-- What a column definition was checked for when it was read. -/
structure ColumnDefinition.Sound (definition : ColumnDefinition) : Prop where
  unrefused : definition.refusal? = none
  length : ∀ length ∈ definition.length, 0 ≤ length

/-- The sizes of a decimal column are numbers that can be written. -/
def ColumnDefinition.Legible (definition : ColumnDefinition) : Prop :=
  definition.type = .decimal → Writable definition.precision ∧ Writable definition.scale

/-- The sizes of a sound column suit its type. -/
theorem ColumnDefinition.Sound.sizeFault?_eq_none {definition : ColumnDefinition}
    (sound : definition.Sound) : definition.sizeFault? = none := by
  cases fault : definition.sizeFault? with
  | none => rfl
  | some reason =>
    have wrong := sound.unrefused
    rw [refusal?, fault] at wrong
    cases wrong

/-- The width class of a sound text or binary column is one of the four. -/
theorem ColumnDefinition.Sound.class_bounds {definition : ColumnDefinition}
    (sound : definition.Sound) (sized : definition.type = .string ∨ definition.type = .binary) :
    1 ≤ definition.sizeOr 1 ∧ definition.sizeOr 1 ≤ 4 := by
  by_contra outside
  have fault : ∃ reason, definition.sizeFault? = some reason := by
    unfold sizeFault?
    rcases sized with same | same
    all_goals
      rw [same]
      exact ⟨_, if_pos (by simpa [-not_and, not_and_or] using outside)⟩
  obtain ⟨reason, known⟩ := fault
  rw [sound.sizeFault?_eq_none] at known
  cases known

section Compiling

open Reporting

variable {legible : Prop} {dialect : Dialect}

/-! ## Names -/

theorem quotePart_failsBy (quote : String × String) (what part : String) :
    (quotePart quote what part).FailsBy (Failure.OfInput legible) := by
  unfold quotePart
  split
  case h_1 failure known =>
    refine failsBy_raise (.inl ?_)
    unfold nameFault? at known
    split_ifs at known
    all_goals
      cases known
      rfl
  case h_2 => exact failsBy_pure _

theorem quoteName_failsBy (quote : String × String) (what name : String) :
    (quoteName quote what name).FailsBy (Failure.OfInput legible) :=
  (Reporting.failsBy_mapM fun _ _ => quotePart_failsBy quote what _).andThen
    fun _ => failsBy_pure _

theorem Dialect.quoteIdentifier_failsBy (dialect : Dialect) (name what : String) :
    (dialect.quoteIdentifier name what).FailsBy (Failure.OfInput legible) :=
  quoteName_failsBy _ what name

theorem Dialect.quoteIdentifiers_failsBy (dialect : Dialect) (names : List String) (what : String) :
    (dialect.quoteIdentifiers names what).FailsBy (Failure.OfInput legible) :=
  Reporting.failsBy_mapM fun name _ => dialect.quoteIdentifier_failsBy name what

/-! ## Types of columns -/

theorem wantedWidth_failsBy (complete : dialect.Complete) (definition : ColumnDefinition)
    (name : String) : (wantedWidth dialect definition name).FailsBy (Failure.OfInput legible) := by
  unfold wantedWidth
  generalize integerWidth definition + (if widened dialect definition then 1 else 0) = wanted
  dsimp only
  split
  · exact failsBy_pure _
  · have some_type : (if dialect.table.autoIncrementStyle = .serial then dialect.table.serialTypes
        else dialect.table.integerTypes) ≠ [] := by
      split
      · exact complete.serials ‹_›
      · exact complete.integers
    split
    case h_1 missing =>
      rw [widest?, List.max?_eq_none_iff, List.map_eq_nil_iff] at missing
      exact absurd missing some_type
    case h_2 =>
      split
      · exact (failsBy_log _).andThen fun _ => failsBy_pure _
      · exact failsBy_pure _

theorem integerType_failsBy (complete : dialect.Complete) (definition : ColumnDefinition)
    (name : String) : (integerType dialect definition name).FailsBy (Failure.OfInput legible) := by
  refine (wantedWidth_failsBy complete definition name).andThen fun wanted => ?_
  split
  · exact failsBy_pure _
  · exact failsBy_pure _
  · dsimp only
    split
    · exact (failsBy_log _).andThen fun _ => failsBy_pure _
    · exact failsBy_raise (.inl rfl)

theorem floatType_failsBy (definition : ColumnDefinition) (name : String) :
    (floatType dialect definition name).FailsBy (Failure.OfInput legible) := by
  unfold floatType
  dsimp only
  split
  · exact failsBy_pure _
  · exact failsBy_raise (.inl rfl)

theorem plain_failsBy {number : Int} (readable : legible → Writable number) :
    FailsBy (Failure.OfInput legible) (Text.Term.whole number).plain := by
  rw [Text.Term.plain]
  exact numeral_failsBy readable

theorem scaled_failsBy {precision scale : Int}
    (readable : legible → Writable precision ∧ Writable scale) :
    FailsBy (Failure.OfInput legible) (scaled precision scale) :=
  (numeral_failsBy fun given => (readable given).1).bind fun _ _ =>
    (numeral_failsBy fun given => (readable given).2).bind fun _ _ => failsBy_ok _

theorem decimalType_failsBy (complete : dialect.Complete) {definition : ColumnDefinition}
    (name : String) (readable : legible → Writable definition.precision ∧ Writable definition.scale) :
    (decimalType dialect definition name).FailsBy (Failure.OfInput legible) := by
  unfold decimalType
  dsimp only
  -- Both numbers that are used are bounded by the table, and are no longer than the wanted ones.
  have precisions : legible → Writable (min definition.precision dialect.table.maxDecimalPrecision) :=
    fun given => (readable given).1.min complete.precision
  generalize min definition.precision dialect.table.maxDecimalPrecision = precision at precisions ⊢
  have scales : legible → Writable
      (min (min definition.scale dialect.table.maxDecimalScale) precision) :=
    fun given => ((readable given).2.min complete.scale).min (precisions given)
  generalize min (min definition.scale dialect.table.maxDecimalScale) precision = scale at scales ⊢
  have used : FailsBy (Failure.OfInput legible) (scaled precision scale) :=
    scaled_failsBy fun given => ⟨precisions given, scales given⟩
  have filled : FailsBy (Failure.OfInput legible) (Text.fill
      [("precision", .whole precision), ("scale", .whole scale)] dialect.table.decimalType) := by
    refine Text.fill_failsBy complete.decimals fun name member => ?_
    simp only [List.mem_cons, List.not_mem_nil, or_false] at member
    rcases member with rfl | rfl
    · exact ⟨_, rfl, plain_failsBy precisions⟩
    · exact ⟨_, rfl, plain_failsBy scales⟩
  have ending := (failsBy_ofExcept filled).andThen fun type =>
    failsBy_pure (type ++ unsignedMark dialect definition)
  split
  · refine (failsBy_ofExcept (scaled_failsBy readable)).andThen fun _ => ?_
    exact (failsBy_ofExcept used).andThen fun _ => (failsBy_log _).andThen fun _ => ending
  · exact ending

theorem sizedType_failsBy {types : SizedTypes} (complete : dialect.Complete)
    (without : types.Complete) {definition : ColumnDefinition} (sound : definition.Sound)
    (sized : definition.type = .string ∨ definition.type = .binary) (name : String) :
    (sizedType dialect types definition name).FailsBy (Failure.OfInput legible) := by
  obtain ⟨least, most⟩ := sound.class_bounds sized
  have positive : 0 ≤ definition.length.getD 0 := by
    cases given : definition.length with
    | none => exact Int.le_refl 0
    | some length => exact sound.length length given
  have known : ∀ width, 1 ≤ width → width ≤ 4 →
      (Reporting.ofExcept (typeOfClass types.classes width)).FailsBy (Failure.OfInput legible) := by
    intro width least most
    obtain ⟨type, found⟩ := without.classes width least most
    rw [found]
    exact failsBy_pure type
  have filled : ∀ template, LengthTemplate template → Writable (definition.length.getD 0) →
      (Reporting.ofExcept (Text.fill [("length", .whole (definition.length.getD 0))] template)
        ).FailsBy (Failure.OfInput legible) := by
    intro template simple writable
    refine failsBy_ofExcept (Text.fill_failsBy simple fun name member => ?_)
    rw [List.mem_singleton.mp member]
    exact ⟨_, rfl, plain_failsBy fun _ => writable⟩
  have longer : ∀ type : Reporting String, type.FailsBy (Failure.OfInput legible) →
      (do
        if definition.fixed then
          Reporting.log
            (columnRecord dialect .debug "FIXED column emulated as variable width" name)
        type).FailsBy (Failure.OfInput legible) := by
    intro type fails
    split
    · exact (failsBy_log _).andThen fun _ => fails
    · exact fails
  unfold sizedType
  dsimp only
  split
  · exact known _ least most
  · split
    case isTrue short =>
      simp only [Bool.and_eq_true, decide_eq_true_eq] at short
      exact filled _ without.fixed (complete.fixed.of_le positive short.2)
    case isFalse =>
      refine longer _ ?_
      split
      case isTrue => exact (failsBy_log _).andThen fun _ => known 2 (by decide) (by decide)
      case isFalse short =>
        refine (known 1 (by decide) (by decide)).bind fun template yields => ?_
        obtain ⟨records, found⟩ := yields
        rw [gives_ofExcept _ records] at found
        exact filled template (without.bounded template found)
          (without.longest.of_le positive (Int.not_lt.mp short))

theorem columnType_failsBy (complete : dialect.Complete) {definition : ColumnDefinition}
    (sound : definition.Sound) (readable : legible → definition.Legible) (name : String) :
    (columnType dialect definition name).FailsBy (Failure.OfInput legible) := by
  unfold columnType
  cases given : definition.type with
  | integer => exact integerType_failsBy complete definition name
  | float => exact floatType_failsBy definition name
  | decimal => exact decimalType_failsBy complete name fun all => readable all given
  | string => exact sizedType_failsBy complete complete.texts sound (.inl given) name
  | binary => exact sizedType_failsBy complete complete.binaries sound (.inr given) name
  | boolean => exact failsBy_pure _
  | date | time | datetime =>
    obtain ⟨found, known⟩ := complete.temporal definition.type (by rw [given]; decide)
    rw [given] at known
    simp only [known]
    exact failsBy_pure found

/-! ## Columns -/

theorem columnHead_failsBy (complete : dialect.Complete) {definition : ColumnDefinition}
    (sound : definition.Sound) (readable : legible → definition.Legible) (name : String)
    (inlinePrimaryKey : Bool) : (columnHead dialect name definition inlinePrimaryKey).FailsBy
      (Failure.OfInput legible) := by
  unfold columnHead
  split
  · split
    · exact failsBy_pure _
    · exact failsBy_raise (.inl rfl)
  · exact columnType_failsBy complete sound readable name

theorem columnReference_failsBy (quoted : String) (reference? : Option ColumnReference) :
    (columnReference dialect quoted reference?).FailsBy (Failure.OfInput legible) := by
  cases reference? with
  | none => exact failsBy_pure _
  | some reference =>
    have target : (referenceTarget dialect reference).FailsBy (Failure.OfInput legible) :=
      (dialect.quoteIdentifier_failsBy _ _).andThen fun _ =>
        (dialect.quoteIdentifier_failsBy _ _).andThen fun _ => failsBy_pure _
    refine target.andThen fun target => ?_
    split <;> exact failsBy_pure _

theorem columnComment_failsBy (table name quoted : String) (comment? : Option String) :
    (columnComment dialect table name quoted comment?).FailsBy (Failure.OfInput legible) := by
  cases comment? with
  | none => exact failsBy_pure _
  | some comment =>
    unfold columnComment
    dsimp only
    split
    · exact failsBy_pure _
    · exact (dialect.quoteIdentifier_failsBy _ _).andThen fun _ => failsBy_pure _
    · exact (failsBy_log _).andThen fun _ => failsBy_pure _

/-- A sound column compiles or is refused by a report, unless its sizes are too long. -/
theorem compileColumn_failsBy (complete : dialect.Complete) {definition : ColumnDefinition}
    (sound : definition.Sound) (readable : legible → definition.Legible) (table name : String)
    (inlinePrimaryKey : Bool) :
    (compileColumn dialect table name definition inlinePrimaryKey).FailsBy
      (Failure.OfInput legible) :=
  (dialect.quoteIdentifier_failsBy _ _).andThen fun quoted =>
    (columnHead_failsBy complete sound readable name inlinePrimaryKey).andThen fun _ =>
      (columnReference_failsBy quoted definition.references).andThen fun _ =>
        (columnComment_failsBy table name quoted definition.comment).andThen fun _ =>
          failsBy_pure _

end Compiling

end PortableSql
