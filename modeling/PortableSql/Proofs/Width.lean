import Mathlib
import PortableSql.Proofs.Typing

/-!
# The widths of integer columns

An integer type of some bytes holds a range of numbers, and so does a column ask for one. A type of
the dialect holds what a column asks for exactly when it has enough bytes: one more than the column
where unsigned numbers have to be kept in signed types. So the type that is chosen, the one of the
least width that is not below the wanted one, is the narrowest type that loses no number.

A table of types is arbitrary here. Where no type of it is wide enough, the column falls back to the
overflow type or is refused. Generated values do neither when they are unsigned: they are kept at
the greatest width there is, with a warning.
-/

namespace PortableSql

/-! ## Ranges -/

/-- The numbers of a signed type of so many bytes, at least one. -/
def signedRange (bytes : Int) : Set Int :=
  Set.Icc (-2 ^ (8 * bytes.toNat - 1)) (2 ^ (8 * bytes.toNat - 1) - 1)

/-- The numbers of an unsigned type of so many bytes. -/
def unsignedRange (bytes : Int) : Set Int := Set.Icc 0 (2 ^ (8 * bytes.toNat) - 1)

section Ranges

variable {wanted bytes : Int}

theorem two_pow_le_two_pow {first second : Nat} :
    (2 : Int) ^ first ≤ 2 ^ second ↔ first ≤ second :=
  pow_le_pow_iff_right₀ (by decide)

theorem signedRange_subset_signedRange (least : 1 ≤ wanted) :
    signedRange wanted ⊆ signedRange bytes ↔ wanted ≤ bytes := by
  have power : (0 : Int) < 2 ^ (8 * wanted.toNat - 1) := pow_pos (by decide) _
  rw [signedRange, signedRange, Set.Icc_subset_Icc_iff (by omega), neg_le_neg_iff,
    Int.sub_le_sub_right_iff, and_self, two_pow_le_two_pow]
  omega

theorem unsignedRange_subset_unsignedRange (least : 1 ≤ wanted) :
    unsignedRange wanted ⊆ unsignedRange bytes ↔ wanted ≤ bytes := by
  have power : (0 : Int) < 2 ^ (8 * wanted.toNat) := pow_pos (by decide) _
  rw [unsignedRange, unsignedRange, Set.Icc_subset_Icc_iff (by omega),
    Int.sub_le_sub_right_iff, two_pow_le_two_pow]
  omega

/-- A signed type needs one more byte for unsigned numbers, as one more bit is not enough. -/
theorem unsignedRange_subset_signedRange (least : 1 ≤ wanted) :
    unsignedRange wanted ⊆ signedRange bytes ↔ wanted + 1 ≤ bytes := by
  have power : (0 : Int) < 2 ^ (8 * wanted.toNat) := pow_pos (by decide) _
  have negative : (0 : Int) < 2 ^ (8 * bytes.toNat - 1) := pow_pos (by decide) _
  rw [unsignedRange, signedRange, Set.Icc_subset_Icc_iff (by omega),
    Int.sub_le_sub_right_iff, two_pow_le_two_pow]
  omega

end Ranges

/-! ## Types by their widths -/

section Tables

variable {types : List (Int × String)}

/-- A type is known by its width among those that are wide enough as it is among all. -/
theorem lookup_filter_width (enough : Int → Bool) {width : Int} (passes : enough width = true) :
    (types.filter fun entry => enough entry.1).lookup width = types.lookup width := by
  induction types with
  | nil => rfl
  | cons first rest inductionHypothesis =>
    obtain ⟨known, type⟩ := first
    by_cases same : width = known
    · subst same
      rw [List.filter_cons, if_pos passes, List.lookup_cons_self, List.lookup_cons_self]
    · have other : (width == known) = false := beq_eq_false_iff_ne.mpr same
      rw [List.filter_cons]
      split <;> simp only [List.lookup_cons, other, inductionHypothesis]

/-- The entry of less width; the earlier one, where both have the same. -/
def narrower (best candidate : Int × String) : Int × String :=
  if candidate.1 < best.1 then candidate else best

/-- Among entries the narrowest one is found, and the first of its width. -/
theorem foldl_narrower (best : Int × String) (entries : List (Int × String)) :
    let found := entries.foldl narrower best
    (∀ entry ∈ best :: entries, found.1 ≤ entry.1) ∧
      (best :: entries).lookup found.1 = some found.2 := by
  induction entries generalizing best with
  | nil => exact ⟨by simp, List.lookup_cons_self⟩
  | cons first rest inductionHypothesis =>
    rw [List.foldl_cons]
    obtain ⟨least, known⟩ := inductionHypothesis (narrower best first)
    generalize rest.foldl narrower (narrower best first) = found at least known ⊢
    obtain ⟨begun, later⟩ := List.forall_mem_cons.mp least
    unfold narrower at begun known
    split at known
    case isTrue narrow =>
      rw [if_pos narrow] at begun
      have other : found.1 ≠ best.1 := (Int.lt_of_le_of_lt begun narrow).ne
      refine ⟨?_, ?_⟩
      · simp only [List.forall_mem_cons]
        exact ⟨by omega, begun, later⟩
      · rw [List.lookup_cons, beq_eq_false_iff_ne.mpr other]
        exact known
    case isFalse wide =>
      rw [if_neg wide] at begun
      refine ⟨?_, ?_⟩
      · simp only [List.forall_mem_cons]
        exact ⟨begun, by omega, later⟩
      · by_cases same : found.1 = best.1
        · rw [List.lookup_cons, beq_iff_eq.mpr same] at known ⊢
          exact known
        · have other : found.1 ≠ first.1 := by omega
          rw [List.lookup_cons, beq_eq_false_iff_ne.mpr same] at known
          rw [List.lookup_cons, beq_eq_false_iff_ne.mpr same, List.lookup_cons,
            beq_eq_false_iff_ne.mpr other]
          exact known

/-- What is chosen among the types that are wide enough. -/
theorem nearest?_eq (wanted : Int) :
    nearest? types wanted =
      match types.filter fun entry => wanted ≤ entry.1 with
      | [] => none
      | first :: rest => some (rest.foldl narrower first).2 := by
  unfold nearest?
  dsimp only
  cases types.filter fun entry => decide (wanted ≤ entry.1) with
  | nil => rfl
  | cons first rest =>
    rw [List.foldl_cons]
    refine congrArg (Option.map Prod.snd) (List.foldl_hom some fun best candidate => ?_)
    exact (apply_ite some (candidate.1 < best.1) candidate best).symm

/-- No type is found exactly if none is wide enough. -/
theorem nearest?_eq_none {wanted : Int} :
    nearest? types wanted = none ↔ ∀ width ∈ types.map Prod.fst, width < wanted := by
  have nothing : nearest? types wanted = none ↔
      (types.filter fun entry => wanted ≤ entry.1) = [] := by
    rw [nearest?_eq]
    cases types.filter fun entry => decide (wanted ≤ entry.1) <;> simp
  rw [nothing, List.filter_eq_nil_iff, List.forall_mem_map]
  simp

/-- The type that is found has the least of the widths that are wide enough. -/
theorem nearest?_least {wanted : Int} {type : String} (found : nearest? types wanted = some type) :
    ∃ width, IsLeast {width | width ∈ types.map Prod.fst ∧ wanted ≤ width} width ∧
      types.lookup width = some type := by
  rw [nearest?_eq] at found
  cases fitting : types.filter fun entry => decide (wanted ≤ entry.1) with
  | nil =>
    rw [fitting] at found
    cases found
  | cons first rest =>
    rw [fitting] at found
    cases found
    obtain ⟨least, known⟩ := foldl_narrower first rest
    generalize rest.foldl narrower first = best at least known ⊢
    have member : (best.1, best.2) ∈ first :: rest := by
      obtain ⟨before, behind, divided, -⟩ := List.lookup_eq_some_iff.mp known
      rw [divided]
      exact List.mem_append_right before List.mem_cons_self
    rw [← fitting] at least known member
    obtain ⟨within, enough⟩ := List.mem_filter.mp member
    refine ⟨best.1, ⟨⟨List.mem_map_of_mem within, of_decide_eq_true enough⟩, ?_⟩, ?_⟩
    · rintro width ⟨known, passes⟩
      obtain ⟨entry, listed, rfl⟩ := List.mem_map.mp known
      exact least entry (List.mem_filter.mpr ⟨listed, decide_eq_true passes⟩)
    · exact (lookup_filter_width (fun width => decide (wanted ≤ width)) enough).symm.trans known

theorem widest?_isGreatest {widest : Int} (found : widest? types = some widest) :
    IsGreatest {width | width ∈ types.map Prod.fst} widest := by
  obtain ⟨within, greatest⟩ := List.max?_eq_some_iff.mp found
  exact ⟨within, greatest⟩

/-- A type that is found for the greatest width has this width. -/
theorem nearest?_widest {widest : Int}
    (greatest : IsGreatest {width | width ∈ types.map Prod.fst} widest) :
    ∃ type, nearest? types widest = some type ∧ types.lookup widest = some type := by
  cases found : nearest? types widest with
  | none =>
    have less := nearest?_eq_none.mp found widest greatest.1
    omega
  | some type =>
    obtain ⟨width, ⟨⟨within, enough⟩, -⟩, known⟩ := nearest?_least found
    have same : width = widest := le_antisymm (greatest.2 within) enough
    exact ⟨type, rfl, same ▸ known⟩

end Tables

/-! ## Columns -/

namespace ColumnDefinition

variable (definition : ColumnDefinition) (dialect : Dialect)

/-- The numbers that an integer column is to hold. -/
def wantedNumbers : Set Int :=
  if definition.unsigned then unsignedRange (integerWidth definition)
  else signedRange (integerWidth definition)

/-- The numbers that a type of so many bytes holds in a column: types are signed unless the column
is marked as unsigned. -/
def heldNumbers (bytes : Int) : Set Int :=
  if definition.unsigned && dialect.table.nativeUnsigned then unsignedRange bytes
  else signedRange bytes

/-- A type of these is the narrowest one that holds the numbers of the column. -/
structure Fits (types : List (Int × String)) (width : Int) (type : String) : Prop where
  least : IsLeast {bytes | bytes ∈ types.map Prod.fst ∧
    definition.wantedNumbers ⊆ definition.heldNumbers dialect bytes} width
  known : types.lookup width = some type

/-- No type of these holds the numbers of the column. -/
def Outgrows (types : List (Int × String)) : Prop :=
  ∀ width ∈ types.map Prod.fst,
    ¬definition.wantedNumbers ⊆ definition.heldNumbers dialect width

variable {definition dialect}

theorem Sound.integer_bounds (sound : definition.Sound) (integer : definition.type = .integer) :
    1 ≤ integerWidth definition := by
  have fine := sound.sizeFault?_eq_none
  unfold sizeFault? at fine
  rw [integer] at fine
  unfold integerWidth sizeOr
  cases size : definition.size with
  | none => decide
  | some width =>
    rw [size] at fine
    dsimp only at fine ⊢
    split at fine
    case isTrue bounds =>
      simp only [Bool.and_eq_true, decide_eq_true_eq] at bounds
      split <;> omega
    case isFalse => cases fine

/-- The width that is looked for before generated values are considered. -/
def neededWidth (definition : ColumnDefinition) (dialect : Dialect) : Int :=
  integerWidth definition + (if widened dialect definition then 1 else 0)

/-- A type holds the numbers of a column exactly if it has the bytes that are needed. -/
theorem holds_iff {bytes : Int} (least : 1 ≤ integerWidth definition) :
    definition.wantedNumbers ⊆ definition.heldNumbers dialect bytes ↔
      definition.neededWidth dialect ≤ bytes := by
  unfold wantedNumbers heldNumbers neededWidth widened
  cases definition.unsigned with
  | false => simpa using signedRange_subset_signedRange least
  | true =>
    cases dialect.table.nativeUnsigned with
    | false => simpa using unsignedRange_subset_signedRange least
    | true => simpa using unsignedRange_subset_unsignedRange least

section Types

variable {types : List (Int × String)} (least : 1 ≤ integerWidth definition)
include least

/-- The type that is found for the needed width fits the column. -/
theorem fits_of_nearest? {type : String}
    (found : nearest? types (definition.neededWidth dialect) = some type) :
    ∃ width, definition.Fits dialect types width type := by
  obtain ⟨width, isLeast, known⟩ := nearest?_least found
  refine ⟨width, ?_, known⟩
  convert isLeast using 3 with bytes
  exact and_congr_right fun _ => holds_iff least

/-- If no type is found for the needed width, the column outgrows them all. -/
theorem outgrows_of_nearest?
    (missing : nearest? types (definition.neededWidth dialect) = none) :
    definition.Outgrows dialect types := by
  intro width within holds
  have enough := (holds_iff least).mp holds
  have short := nearest?_eq_none.mp missing width within
  omega

end Types

end ColumnDefinition

/-! ## The types of integer columns -/

/-- A table of integer types of any widths. Types of generated values are signed like the others,
and there are some where the dialect has types of their own for them. -/
structure Dialect.IntegersTabled (dialect : Dialect) : Prop where
  integers : dialect.table.integerTypes ≠ []
  serials : dialect.table.autoIncrementStyle = .serial → dialect.table.serialTypes ≠ []
  serialsSigned : dialect.table.autoIncrementStyle = .serial →
    dialect.table.nativeUnsigned = false
  overflowNamed : dialect.table.integerOverflowType ≠ some ""

/-- The record that an unsigned column was given the overflow type. -/
def overflowRecord (dialect : Dialect) (name : String) : Log.Record :=
  columnRecord dialect .debug "Unsigned integer widened to overflow type" name

/-- The warning that generated values were kept at the greatest width. -/
def cappedRecord (dialect : Dialect) (name : String) : Log.Record :=
  columnRecord dialect .warning
    "Unsigned AUTO INCREMENT column kept at the widest signed integer type" name

/-- The types among which those of generated values are found first. -/
def Dialect.generatedTypes (dialect : Dialect) : List (Int × String) :=
  if dialect.table.autoIncrementStyle = .serial then dialect.table.serialTypes
  else dialect.table.integerTypes

section Outcomes

variable (dialect : Dialect) (definition : ColumnDefinition) (name : String)

/-- What the type of an integer column comes to when its values are given: the narrowest type that
holds its numbers, the overflow type for unsigned numbers that no signed type holds, or a
refusal. -/
inductive GivenInteger : Except Failure String × List Log.Record → Prop
  | fits {width : Int} {type : String}
      (fits : definition.Fits dialect dialect.table.integerTypes width type) :
      GivenInteger (.ok (type ++ unsignedMark dialect definition), [])
  | overflows {type : String}
      (outgrows : definition.Outgrows dialect dialect.table.integerTypes)
      (unsigned : definition.unsigned = true) (signed : dialect.table.nativeUnsigned = false)
      (overflow : dialect.table.integerOverflowType = some type) :
      GivenInteger (.ok type, [overflowRecord dialect name])
  | refused {failure : Failure} {records : List Log.Record}
      (outgrows : definition.Outgrows dialect dialect.table.integerTypes)
      (nowhere : definition.unsigned = true → dialect.table.nativeUnsigned = false →
        dialect.table.integerOverflowType = none)
      (validation : failure.class? = some .validation) :
      GivenInteger (.error failure, records)

/-- What the type of an integer column comes to when its values are generated: the narrowest type
that holds its numbers, among the types of generated values first, or the widest of them with a
warning when unsigned numbers outgrow them all. Only a column that is not kept in wider signed types
may be refused, and none gets the overflow type. -/
inductive GeneratedInteger : Except Failure String × List Log.Record → Prop
  | own {width : Int} {type : String}
      (serial : dialect.table.autoIncrementStyle = .serial)
      (fits : definition.Fits dialect dialect.table.serialTypes width type) :
      GeneratedInteger (.ok type, [])
  | fits {width : Int} {type : String}
      (unserial : dialect.table.autoIncrementStyle = .serial → definition.unsigned = false ∧
        definition.Outgrows dialect dialect.table.serialTypes)
      (fits : definition.Fits dialect dialect.table.integerTypes width type) :
      GeneratedInteger (.ok (type ++ unsignedMark dialect definition), [])
  | capped {width : Int} {type : String}
      (unsigned : definition.unsigned = true) (signed : dialect.table.nativeUnsigned = false)
      (outgrows : definition.Outgrows dialect dialect.generatedTypes)
      (widest : IsGreatest {bytes | bytes ∈ dialect.generatedTypes.map Prod.fst} width)
      (known : dialect.generatedTypes.lookup width = some type) :
      GeneratedInteger (.ok type, [cappedRecord dialect name])
  | refused {failure : Failure} {records : List Log.Record}
      (unwidened : definition.unsigned = true → dialect.table.nativeUnsigned = true)
      (unserial : dialect.table.autoIncrementStyle = .serial →
        definition.Outgrows dialect dialect.table.serialTypes)
      (outgrows : definition.Outgrows dialect dialect.table.integerTypes)
      (validation : failure.class? = some .validation) :
      GeneratedInteger (.error failure, records)

end Outcomes

section Compiling

variable {dialect : Dialect} {definition : ColumnDefinition} {name : String}

theorem widened_iff : widened dialect definition = true ↔
    definition.unsigned = true ∧ dialect.table.nativeUnsigned = false := by
  simp [widened]

/-- A refused column is refused by a report. -/
theorem start_integerRefusal (dialect : Dialect) (definition : ColumnDefinition) (name : String) :
    ∃ failure records,
      (Reporting.raise (integerRefusal dialect definition name) : Reporting String).start =
        (.error failure, records) ∧ failure.class? = some .validation :=
  ⟨integerRefusal dialect definition name, _, rfl, rfl⟩

/-- Without unsigned generated values that have to be kept in signed types, the needed width is the
wanted one. -/
theorem wantedWidth_kept (kept : (definition.autoIncrement && widened dialect definition) = false) :
    wantedWidth dialect definition name = pure (definition.neededWidth dialect) := by
  unfold wantedWidth
  dsimp only
  rw [if_pos (by rw [kept]; rfl)]
  rfl

/-- Such values want no more than the greatest width there is. -/
theorem wantedWidth_capped (name : String) (generated : definition.autoIncrement = true)
    (widens : widened dialect definition = true) {widest : Int}
    (greatest : widest? dialect.generatedTypes = some widest) :
    wantedWidth dialect definition name =
      if widest < definition.neededWidth dialect then
        Reporting.log (cappedRecord dialect name) >>= fun _ => pure widest
      else pure (definition.neededWidth dialect) := by
  unfold Dialect.generatedTypes at greatest
  unfold wantedWidth
  dsimp only
  rw [if_neg (by simp [generated, widens]), greatest]
  rfl

/-- The type of given values comes to what it should. -/
theorem integerType_given (tabled : dialect.IntegersTabled) (least : 1 ≤ integerWidth definition)
    (manual : definition.autoIncrement = false) :
    GivenInteger dialect definition name (integerType dialect definition name).start := by
  have wanted : wantedWidth dialect definition name = pure (definition.neededWidth dialect) :=
    wantedWidth_kept (by rw [manual, Bool.false_and])
  have unserial : ∀ width, serialType? dialect definition width = none := by
    simp [serialType?, manual]
  unfold integerType
  rw [wanted, pure_bind, unserial]
  cases found : nearest? dialect.table.integerTypes (definition.neededWidth dialect) with
  | some type =>
    obtain ⟨width, fits⟩ := ColumnDefinition.fits_of_nearest? least found
    exact .fits fits
  | none =>
    have outgrows := ColumnDefinition.outgrows_of_nearest? least found
    dsimp only
    split
    case isTrue overflows =>
      simp only [Bool.and_eq_true, widened_iff, Bool.not_eq_true',
        String.isEmpty_eq_false_iff] at overflows
      obtain ⟨⟨unsigned, signed⟩, named⟩ := overflows
      cases overflow : dialect.table.integerOverflowType with
      | none => simp [overflow] at named
      | some type =>
        exact .overflows outgrows unsigned signed overflow
    case isFalse refused =>
      obtain ⟨failure, records, started, validation⟩ :=
        start_integerRefusal dialect definition name
      rw [started]
      refine .refused outgrows (fun unsigned signed => ?_) validation
      have widens := widened_iff.mpr ⟨unsigned, signed⟩
      cases overflow : dialect.table.integerOverflowType with
      | none => rfl
      | some type =>
        have named : type ≠ "" := fun blank => tabled.overflowNamed (blank ▸ overflow)
        simp [widens, overflow, named] at refused

/-- Unsigned numbers that are kept in signed types get a type of generated values, once one is found
for the wanted width. -/
theorem integerType_widened (generated : definition.autoIncrement = true)
    (widens : widened dialect definition = true) {before : Reporting Unit} {wanted : Int}
    {type : String}
    (wants : wantedWidth dialect definition name = before >>= fun _ => pure wanted)
    (found : nearest? dialect.generatedTypes wanted = some type) :
    integerType dialect definition name = before >>= fun _ => pure type := by
  have unmarked : unsignedMark dialect definition = "" := by
    simp [unsignedMark, (widened_iff.mp widens).2]
  unfold integerType
  rw [wants, bind_assoc]
  refine bind_congr fun _ => ?_
  rw [pure_bind]
  unfold Dialect.generatedTypes at found
  by_cases serial : dialect.table.autoIncrementStyle = .serial
  · rw [if_pos serial] at found
    simp only [serialType?, generated, serial, decide_true, Bool.and_self, if_true, found]
  · rw [if_neg serial] at found
    simp only [serialType?, generated, serial, decide_false, Bool.and_false, Bool.false_eq_true,
      if_false, found, unmarked, String.append_empty]

/-- Unsigned generated values that have to be kept in signed types get the type they should. -/
theorem generatedInteger_of_widened (tabled : dialect.IntegersTabled)
    (least : 1 ≤ integerWidth definition) (generated : definition.autoIncrement = true)
    (widens : widened dialect definition = true) :
    GeneratedInteger dialect definition name (integerType dialect definition name).start := by
  obtain ⟨unsigned, signed⟩ := widened_iff.mp widens
  have wide : widest? dialect.generatedTypes ≠ none := by
    rw [widest?, ne_eq, List.max?_eq_none_iff, List.map_eq_nil_iff]
    unfold Dialect.generatedTypes
    split
    case isTrue serial => exact tabled.serials serial
    case isFalse => exact tabled.integers
  obtain ⟨widest, greatest⟩ := Option.ne_none_iff_exists'.mp wide
  have isGreatest := widest?_isGreatest greatest
  have wants := wantedWidth_capped name generated widens greatest
  by_cases narrow : widest < definition.neededWidth dialect
  · rw [if_pos narrow] at wants
    obtain ⟨type, found, known⟩ := nearest?_widest isGreatest
    rw [integerType_widened generated widens wants found]
    refine .capped unsigned signed (fun width within holds => ?_) isGreatest known
    have enough := (ColumnDefinition.holds_iff least).mp holds
    have most := isGreatest.2 within
    omega
  · rw [if_neg narrow, ← pure_bind () fun _ => pure _] at wants
    cases found : nearest? dialect.generatedTypes (definition.neededWidth dialect) with
    | none =>
      have less := nearest?_eq_none.mp found widest isGreatest.1
      omega
    | some type =>
      rw [integerType_widened generated widens wants found]
      obtain ⟨width, fits⟩ := ColumnDefinition.fits_of_nearest? least found
      unfold Dialect.generatedTypes at fits
      by_cases serial : dialect.table.autoIncrementStyle = .serial
      · rw [if_pos serial] at fits
        exact .own serial fits
      · rw [if_neg serial] at fits
        have unmarked : type = type ++ unsignedMark dialect definition := by
          simp [unsignedMark, signed]
        rw [unmarked]
        exact .fits (fun same => absurd same serial) fits

/-- Other generated values get the type they should. -/
theorem generatedInteger_of_kept (tabled : dialect.IntegersTabled)
    (least : 1 ≤ integerWidth definition) (generated : definition.autoIncrement = true)
    (kept : widened dialect definition = false) :
    GeneratedInteger dialect definition name (integerType dialect definition name).start := by
  have wants : wantedWidth dialect definition name = pure (definition.neededWidth dialect) :=
    wantedWidth_kept (by rw [kept, Bool.and_false])
  have unwidened : definition.unsigned = true → dialect.table.nativeUnsigned = true := by
    intro unsigned
    simpa [widened, unsigned] using kept
  unfold integerType
  rw [wants, pure_bind]
  cases serially : serialType? dialect definition (definition.neededWidth dialect) with
  | some type =>
    unfold serialType? at serially
    split at serially
    case isTrue own =>
      have serial := of_decide_eq_true (Bool.and_eq_true_iff.mp own).2
      obtain ⟨width, fits⟩ := ColumnDefinition.fits_of_nearest? least serially
      exact .own serial fits
    case isFalse => cases serially
  | none =>
    have unserial : dialect.table.autoIncrementStyle = .serial →
        definition.unsigned = false ∧
          definition.Outgrows dialect dialect.table.serialTypes := by
      intro serial
      refine ⟨?_, ?_⟩
      · cases unsigned : definition.unsigned with
        | false => rfl
        | true => exact absurd (unwidened unsigned) (by simp [tabled.serialsSigned serial])
      · rw [serialType?, if_pos (by simp [generated, serial])] at serially
        exact ColumnDefinition.outgrows_of_nearest? least serially
    cases found : nearest? dialect.table.integerTypes (definition.neededWidth dialect) with
    | some type =>
      obtain ⟨width, fits⟩ := ColumnDefinition.fits_of_nearest? least found
      exact .fits unserial fits
    | none =>
      have outgrows := ColumnDefinition.outgrows_of_nearest? least found
      dsimp only
      rw [kept, Bool.false_and, if_neg Bool.false_ne_true]
      obtain ⟨failure, records, started, validation⟩ :=
        start_integerRefusal dialect definition name
      rw [started]
      exact .refused unwidened (fun serial => (unserial serial).2) outgrows validation

end Compiling

/-- The built-in dialects have such tables. -/
theorem Family.integersTabled (family : Family) : family.dialect.IntegersTabled where
  integers := by cases family <;> decide
  serials := by cases family <;> decide
  serialsSigned := by cases family <;> decide
  overflowNamed := by cases family <;> decide

/-- In every table an integer column gets the type of the least width that holds its numbers. When
its values are given and no type holds them, unsigned numbers get the overflow type where signed
types would have to keep them and there is one, and any other column is refused. When its values are
generated they never get the overflow type: unsigned numbers that would have to be kept in signed
types get the widest type there is, with a warning, and any other column is refused.

Proof: a type holds the numbers of a column exactly if it has as many bytes, and one more for
unsigned numbers in signed types. That is the width which is looked for, so the narrowest type of at
least this width is the narrowest one that holds the numbers. -/
theorem integers_never_narrowed (dialect : Dialect) (tabled : dialect.IntegersTabled)
    {definition : ColumnDefinition} (sound : definition.Sound)
    (integer : definition.type = .integer) (name : String) :
    (definition.autoIncrement = false →
      GivenInteger dialect definition name (columnType dialect definition name).start) ∧
    (definition.autoIncrement = true →
      GeneratedInteger dialect definition name (columnType dialect definition name).start) := by
  have least := sound.integer_bounds integer
  have typed : columnType dialect definition name = integerType dialect definition name := by
    unfold columnType
    rw [integer]
  rw [typed]
  refine ⟨integerType_given tabled least, fun generated => ?_⟩
  cases widens : widened dialect definition with
  | true => exact generatedInteger_of_widened tabled least generated widens
  | false => exact generatedInteger_of_kept tabled least generated widens

/-- Eight unsigned bytes of generated values. -/
def longKey : ColumnDefinition where
  type := .integer
  size := some 8
  unsigned := true
  autoIncrement := true

/-- No signed type holds eight unsigned bytes: generated values are kept at the widest type with a
warning, and given values get the overflow type. -/
theorem longKey_capped :
    (columnType Family.postgresql.dialect longKey "id").start =
        (.ok "BIGSERIAL", [cappedRecord Family.postgresql.dialect "id"]) ∧
      GeneratedInteger Family.postgresql.dialect longKey "id"
        (.ok "BIGSERIAL", [cappedRecord Family.postgresql.dialect "id"]) ∧
      GivenInteger Family.mssql.dialect { longKey with autoIncrement := false } "id"
        (.ok "DECIMAL(20,0)", [overflowRecord Family.mssql.dialect "id"]) := by
  have sound : ∀ generated, { longKey with autoIncrement := generated }.Sound := by
    intro generated
    refine ⟨by cases generated <;> decide, ?_⟩
    rintro _ ⟨⟩
  have generated : (columnType Family.postgresql.dialect longKey "id").start =
      (.ok "BIGSERIAL", [cappedRecord Family.postgresql.dialect "id"]) := by rfl
  have given :
      (columnType Family.mssql.dialect { longKey with autoIncrement := false } "id").start =
        (.ok "DECIMAL(20,0)", [overflowRecord Family.mssql.dialect "id"]) := by rfl
  refine ⟨generated, ?_, ?_⟩
  · rw [← generated]
    exact (integers_never_narrowed _ Family.postgresql.integersTabled (sound true) rfl "id").2 rfl
  · rw [← given]
    exact (integers_never_narrowed _ Family.mssql.integersTabled (sound false) rfl "id").1 rfl

end PortableSql
