import Mathlib
import PortableSql.Proofs.Outcome
import PortableSql.Proofs.Typing

/-!
# The capacity of text and binary types

A column of text or binary data that has a greatest length gets a type that is written with this
length, or the type of the second width class where the length is beyond what a type may be written
with. How much a type holds is told by how it is written: it holds the length in its parentheses,
and the servers document the capacity of the types without one.

The second class holds every length of three dialects. The one of MySQL holds 65535 bytes, although
the two classes above it hold more.
-/

namespace PortableSql

/-! ## Capacities -/

/-- The length that a type is written with: the digits in the parentheses at its end. -/
def writtenLength? (type : String) : Option Nat :=
  match type.toList.dropWhile (· ≠ '(') with
  | [] => none
  | _ :: rest =>
    let digits := rest.takeWhile Char.isDigit
    if digits ≠ [] ∧ rest.dropWhile Char.isDigit = [')'] then some (Nat.ofDigitChars 10 digits 0)
    else none

namespace Family

/-- How many bytes the types hold that are written without a length. -/
def capacities : Family → List (String × Nat)
  | mysql => [("TEXT", 2 ^ 16 - 1), ("MEDIUMTEXT", 2 ^ 24 - 1), ("LONGTEXT", 2 ^ 32 - 1),
      ("BLOB", 2 ^ 16 - 1), ("MEDIUMBLOB", 2 ^ 24 - 1), ("LONGBLOB", 2 ^ 32 - 1)]
  | postgresql => [("TEXT", 2 ^ 30 - 1), ("BYTEA", 2 ^ 30 - 1)]
  | sqlite => [("TEXT", 2 ^ 31 - 1), ("BLOB", 2 ^ 31 - 1)]
  | mssql => [("NVARCHAR(MAX)", 2 ^ 31 - 1), ("VARBINARY(MAX)", 2 ^ 31 - 1)]

/-- The greatest length that a type holds. -/
def capacity? (family : Family) (type : String) : Option Nat :=
  writtenLength? type <|> family.capacities.lookup type

/-- The greatest capacity of a dialect. -/
def greatestCapacity (family : Family) : Nat := (family.capacities.map Prod.snd).max?.getD 0

/-- The type holds every value of this length. -/
def Holds (family : Family) (type : String) (length : Int) : Prop :=
  ∃ capacity, family.capacity? type = some capacity ∧ length ≤ (capacity : Int)

/-- The capacity of the types of the second width class, which columns get whose length is beyond
what a type may be written with. -/
def fallbackCapacity : Family → Nat
  | mysql => 2 ^ 16 - 1
  | family => family.greatestCapacity

theorem holds_iff {family : Family} {type : String} {length : Int} {capacity : Nat}
    (known : family.capacity? type = some capacity) :
    family.Holds type length ↔ length ≤ (capacity : Int) := by
  constructor
  · rintro ⟨other, found, within⟩
    cases known.symm.trans found
    exact within
  · exact fun within => ⟨capacity, known, within⟩

end Family

/-! ## Types with a length -/

/-- The digits in the parentheses behind a word are the length that it is written with. -/
theorem writtenLength?_digits {word : List Char} (plain : '(' ∉ word) (length : Nat) :
    writtenLength? (String.ofList (word ++ '(' :: (Nat.toDigits 10 length ++ [')']))) =
      some length := by
  have before : ∀ character ∈ word, decide (character ≠ '(') = true :=
    fun character member => decide_eq_true (ne_of_mem_of_not_mem member plain)
  have digits : ∀ digit ∈ Nat.toDigits 10 length, digit.isDigit = true := fun digit member =>
    Nat.isDigit_of_mem_toDigits (by decide) (by decide) member
  have someDigit : Nat.toDigits 10 length ≠ [] := Nat.toDigits_ne_nil
  unfold writtenLength?
  rw [String.toList_ofList, List.dropWhile_append_of_pos before]
  simp [List.takeWhile_append_of_pos digits, List.dropWhile_append_of_pos digits, someDigit,
    Nat.ofDigitChars_toDigits]

namespace Text.Template

/-- There are no braces among these characters of a template. -/
def Bare (characters : List Char) : Prop :=
  ∀ character ∈ characters, character ∉ ['\x7b', '\x7d']

instance (characters : List Char) : Decidable (Bare characters) :=
  List.decidableBAll (· ∉ ['\x7b', '\x7d']) characters

variable {expand : List Char → Except Failure (List Char)} {values : List (String × Term)}

/-- Characters that are no braces stay as they are. -/
theorem fillFields_bare {word : List Char} (bare : Bare word) (rest : List Char) :
    fillFields expand values (word ++ rest) =
      (fillFields expand values rest).map (word ++ ·) := by
  induction word with
  | nil => exact (congrFun Except.map_id _).symm
  | cons first others inductionHypothesis =>
    obtain ⟨head, tail⟩ := List.forall_mem_cons.mp bare
    simp only [List.mem_cons, List.not_mem_nil, or_false, not_or] at head
    obtain ⟨notOpening, notClosing⟩ := head
    rw [List.cons_append, fillFields, inductionHypothesis tail]
    · cases fillFields expand values rest <;> rfl
    all_goals simp [notOpening, notClosing]

/-- A template without braces is filled with itself. -/
theorem fillFields_whole {word : List Char} (bare : Bare word) :
    fillFields expand values word = .ok word := by
  have filled : fillFields expand values (word ++ []) = _ := fillFields_bare bare []
  rw [List.append_nil, fillFields] at filled
  rw [filled, Except.map, List.append_nil]

/-- The field of a length is filled with its numeral. -/
theorem fillFields_length {length : Int} (writable : Writable length) (rest : List Char) :
    fillFields expand [("length", .whole length)] ("\x7blength\x7d".toList ++ rest) =
      (fillFields expand [("length", .whole length)] rest).map
        ((toString length).toList ++ ·) := by
  have plain : ∀ character ∈ "length".toList, InName character := by
    simp [InName]
  have written : Field.write expand [("length", .whole length)] { name := "length".toList } =
      .ok (toString length).toList := by
    rw [write_name plain (by decide) rfl, Term.plain, numeral_eq writable]
    rfl
  have read : readField ("length\x7d".toList ++ rest) = .ok ({ name := "length".toList }, rest) :=
    readField_name plain
  change fillFields expand _ ('\x7b' :: ("length\x7d".toList ++ rest)) = _
  rw [fillFields]
  case x_1 =>
    rintro rest ⟨⟩
  case x_2 =>
    rintro ⟨⟩
  split
  case h_1 failure found =>
    cases read.symm.trans found
  case h_2 field after found =>
    cases read.symm.trans found
    rw [written]
    cases fillFields expand [("length", .whole length)] rest <;> rfl

end Text.Template

/-- A template of a word and the length in parentheses. -/
def Worded (template : String) : Prop :=
  ∃ word, template.toList = word ++ "(\x7blength\x7d)".toList ∧ '(' ∉ word ∧
    Text.Template.Bare word

/-- The type that a template has for a length. -/
def typeOfLength (length : Int) (template : String) : Except Failure String :=
  Text.fill [("length", .whole length)] template

section Filling

open Text.Template

variable {template : String} {length : Int}

/-- The fields of a template of a type are filled. -/
theorem typeOfLength_eq :
    typeOfLength length template = (fillFields (fillNested [("length", .whole length)] 1)
      [("length", .whole length)] template.toList).map String.ofList := rfl

/-- A template without braces is the type for every length. -/
theorem typeOfLength_bare (bare : Bare template.toList) :
    typeOfLength length template = .ok template := by
  rw [typeOfLength_eq, fillFields_whole bare, Except.map, String.ofList_toList]

/-- A type that is written with a length holds it. -/
theorem typeOfLength_worded (worded : Worded template) (positive : 0 ≤ length)
    (writable : Writable length) :
    ∃ type, typeOfLength length template = .ok type ∧
      writtenLength? type = some length.toNat := by
  obtain ⟨word, written, plain, bare⟩ := worded
  obtain ⟨number, rfl⟩ := Int.eq_ofNat_of_zero_le positive
  refine ⟨_, ?_, writtenLength?_digits plain number⟩
  have divided : template.toList = word ++ (['('] ++ ("\x7blength\x7d".toList ++ [')'])) := written
  have opening : Bare ['('] := by decide
  have closing : Bare [')'] := by decide
  have digits : (toString (number : Int)).toList = Nat.toDigits 10 number := Nat.toList_repr
  rw [typeOfLength_eq, divided, fillFields_bare bare, fillFields_bare opening,
    fillFields_length writable, fillFields_whole closing, digits]
  rfl

end Filling

/-! ## Columns with a greatest length -/

/-- The type of a column of the first width class that has a greatest length: written with it, or
the type of the second class. -/
theorem gives_sizedType {dialect : Dialect} {types : SizedTypes} {definition : ColumnDefinition}
    (first : definition.sizeOr 1 = 1) {length : Int} (given : definition.length = some length)
    (name : String) :
    (sizedType dialect types definition name).Gives
      (if definition.fixed && !(types.fixed.getD "").isEmpty &&
          length ≤ dialect.table.maxFixedLength then
        typeOfLength length (types.fixed.getD "")
      else if types.longest < length then typeOfClass types.classes 2
      else typeOfClass types.classes 1 >>= typeOfLength length) := by
  have reported : ∀ {type : Reporting String} {outcome : Except Failure String},
      type.Gives outcome →
      (do
        if definition.fixed then
          Reporting.log
            (columnRecord dialect .debug "FIXED column emulated as variable width" name)
        type).Gives outcome := by
    intro type outcome gives
    split
    · exact (Reporting.gives_log _).bind fun _ _ => gives
    · exact gives
  unfold sizedType
  dsimp only
  rw [if_neg (not_not_intro first), given, Option.getD_some]
  split
  case isTrue => exact Reporting.gives_ofExcept _
  case isFalse =>
    refine reported ?_
    split
    case isTrue =>
      exact (Reporting.gives_log _).bind fun _ _ => Reporting.gives_ofExcept _
    case isFalse =>
      exact (Reporting.gives_ofExcept _).bind fun _ _ => Reporting.gives_ofExcept _

/-- The types of a dialect for one kind of data: those that are written with a length are templates
of it, those that are not hold every length that they are chosen for, and the type of the second
width class holds `most`. -/
structure SizedTypes.Stored (types : SizedTypes) (family : Family) (most : Nat) : Prop where
  fixed : types.fixed.getD "" ≠ "" → Worded (types.fixed.getD "")
  fixedLongest : family.dialect.table.maxFixedLength ≤ most
  bounded : ∃ template, typeOfClass types.classes 1 = .ok template ∧
    (Worded template ∨ Text.Template.Bare template.toList ∧ family.Holds template types.longest)
  longest : types.longest ≤ most
  unbounded : ∃ type, typeOfClass types.classes 2 = .ok type ∧ family.capacity? type = some most

section Holding

variable {family : Family} {types : SizedTypes} {most : Nat} {length : Int}

/-- A type that is written with the length of a column holds it. -/
theorem holds_worded (family : Family) {template : String} (worded : Worded template)
    (positive : 0 ≤ length) (writable : Writable length) :
    ∃ type, typeOfLength length template = .ok type ∧ family.Holds type length := by
  obtain ⟨type, filled, known⟩ := typeOfLength_worded worded positive writable
  have capacity : family.capacity? type = some length.toNat := by
    rw [Family.capacity?, known]
    rfl
  exact ⟨type, filled, (Family.holds_iff capacity).mpr (Int.self_le_toNat length)⟩

/-- A column gets a type, which holds its length unless this is more than the second width class
holds. -/
theorem SizedTypes.Stored.holds_iff (stored : types.Stored family most)
    (complete : types.Complete) {definition : ColumnDefinition} (sound : definition.Sound)
    (first : definition.sizeOr 1 = 1) (given : definition.length = some length) (name : String) :
    ∃ type, (sizedType family.dialect types definition name).result = .ok type ∧
      (family.Holds type length ↔ length ≤ most) := by
  have positive : 0 ≤ length := sound.length length given
  rw [(gives_sizedType first given name).result_eq]
  split
  case isTrue fixed =>
    simp only [Bool.and_eq_true, Bool.not_eq_true', String.isEmpty_eq_false_iff,
      decide_eq_true_eq] at fixed
    obtain ⟨⟨-, some_fixed⟩, short⟩ := fixed
    obtain ⟨type, filled, holds⟩ := holds_worded family (stored.fixed some_fixed)
      positive (family.complete.fixed.of_le positive short)
    exact ⟨type, filled, iff_of_true holds (Int.le_trans short stored.fixedLongest)⟩
  case isFalse =>
    split
    case isTrue =>
      obtain ⟨type, known, capacity⟩ := stored.unbounded
      exact ⟨type, known, Family.holds_iff capacity⟩
    case isFalse short =>
      have within := Int.not_lt.mp short
      obtain ⟨template, known, worded | ⟨bare, holds⟩⟩ := stored.bounded
      · obtain ⟨type, filled, holds⟩ := holds_worded family worded positive
          (complete.longest.of_le positive within)
        rw [known]
        exact ⟨type, filled, iff_of_true holds (Int.le_trans within stored.longest)⟩
      · obtain ⟨capacity, found, longest⟩ := holds
        rw [known]
        have holds : family.Holds template length :=
          ⟨capacity, found, Int.le_trans within longest⟩
        exact ⟨template, typeOfLength_bare bare,
          iff_of_true holds (Int.le_trans within stored.longest)⟩

end Holding

/-! ## The built-in types -/

theorem Family.textsStored (family : Family) :
    (textTypes family.dialect).Stored family family.fallbackCapacity where
  fixed _ := by
    cases family with
    | mysql | postgresql | sqlite => exact ⟨"CHAR".toList, rfl, by decide, by decide⟩
    | mssql => exact ⟨"NCHAR".toList, rfl, by decide, by decide⟩
  fixedLongest := by cases family <;> decide
  bounded := by
    cases family with
    | mysql | postgresql | sqlite =>
      exact ⟨_, rfl, .inl ⟨"VARCHAR".toList, rfl, by decide, by decide⟩⟩
    | mssql => exact ⟨_, rfl, .inl ⟨"NVARCHAR".toList, rfl, by decide, by decide⟩⟩
  longest := by cases family <;> decide
  unbounded := by cases family <;> exact ⟨_, rfl, by decide⟩

theorem Family.binariesStored (family : Family) :
    (binaryTypes family.dialect).Stored family family.fallbackCapacity where
  fixed some_fixed := by
    cases family with
    | mysql | mssql => exact ⟨"BINARY".toList, rfl, by decide, by decide⟩
    | postgresql | sqlite => exact absurd rfl some_fixed
  fixedLongest := by cases family <;> decide
  bounded := by
    cases family with
    | mysql | mssql => exact ⟨_, rfl, .inl ⟨"VARBINARY".toList, rfl, by decide, by decide⟩⟩
    | postgresql | sqlite =>
      exact ⟨_, rfl, .inr ⟨by decide, _, rfl, by decide⟩⟩
  longest := by cases family <;> decide
  unbounded := by cases family <;> exact ⟨_, rfl, by decide⟩

/-- Within the capacity of a dialect only MySQL has lengths that are beyond the second width
class. -/
theorem Family.within_fallbackCapacity {family : Family} {length : Int}
    (within : length ≤ family.greatestCapacity) :
    length ≤ family.fallbackCapacity ↔ ¬(family = .mysql ∧ 65535 < length) := by
  cases family with
  | mysql => simp [fallbackCapacity]
  | postgresql | sqlite | mssql => simpa [fallbackCapacity] using within

/-- A text or binary column of the first width class with a greatest length always gets a type. The
type holds every value of this length, up to the greatest capacity of the dialect, except on MySQL
for lengths of more than 65535 bytes: these get the type of the second width class, which holds no
more, instead of one of the classes above it.

Proof: a type that is written with a length holds it, and it is chosen for no more than the second
class holds. So a column is held exactly when its length is within the capacity of that class. -/
theorem greatestLength_held (family : Family) {definition : ColumnDefinition}
    (sound : definition.Sound)
    (sized : definition.type = .string ∨ definition.type = .binary)
    (first : definition.sizeOr 1 = 1) {length : Int} (given : definition.length = some length)
    (within : length ≤ family.greatestCapacity) (name : String) :
    ∃ type, (columnType family.dialect definition name).result = .ok type ∧
      (family.Holds type length ↔ ¬(family = .mysql ∧ 65535 < length)) := by
  have held : ∃ type, (columnType family.dialect definition name).result = .ok type ∧
      (family.Holds type length ↔ length ≤ family.fallbackCapacity) := by
    unfold columnType
    rcases sized with text | binary
    · rw [text]
      exact family.textsStored.holds_iff family.complete.texts sound first given name
    · rw [binary]
      exact family.binariesStored.holds_iff family.complete.binaries sound first given name
  rwa [← Family.within_fallbackCapacity within]

/-- A text of at most 70000 bytes. -/
def longText : ColumnDefinition where
  type := .string
  length := some 70000

/-- On MySQL such a text gets a type that holds no more than 65535 bytes, and on the other dialects
one that holds it. -/
theorem longText_held :
    (columnType Family.mysql.dialect longText "body").result = .ok "TEXT" ∧
      ¬Family.mysql.Holds "TEXT" 70000 ∧ Family.mysql.Holds "MEDIUMTEXT" 70000 ∧
      ∀ family : Family, family ≠ .mysql →
        ∃ type, (columnType family.dialect longText "body").result = .ok type ∧
          family.Holds type 70000 := by
  have sound : longText.Sound := by
    refine ⟨by decide, ?_⟩
    rintro _ ⟨⟩
    decide
  have typed := fun family within =>
    greatestLength_held family sound (.inl rfl) rfl rfl within "body"
  refine ⟨rfl, ?_, ⟨2 ^ 24 - 1, by decide, by decide⟩, fun family other => ?_⟩
  · obtain ⟨type, same, holds⟩ := typed .mysql (by decide)
    cases same
    exact fun held => holds.mp held ⟨rfl, by decide⟩
  · obtain ⟨type, known, holds⟩ := typed family (by cases family <;> decide)
    exact ⟨type, known, holds.mpr fun wrong => other wrong.1⟩

end PortableSql
