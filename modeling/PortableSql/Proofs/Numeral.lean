import PortableSql.Compile.Limit
import PortableSql.Proofs.Outcome

/-!
# Numbers that can be written

A number is written as its numeral, unless it has too many digits. A limit is written or shown
exactly when both of its numbers can be written.
-/

namespace PortableSql

/-- The number has few enough digits to be written. -/
def Writable (number : Int) : Prop := ∃ shown, Text.numeral number = .ok shown

theorem writable_iff {number : Int} :
    Writable number ↔ number.natAbs < Nat.pow 10 Text.longestNumeral := by
  unfold Writable Text.numeral Text.numeral?
  by_cases short : number.natAbs < Nat.pow 10 Text.longestNumeral
  · rw [if_pos short]
    exact iff_of_true ⟨_, rfl⟩ short
  · rw [if_neg short]
    exact iff_of_false (fun ⟨_, wrong⟩ => nomatch wrong) short

theorem writable_zero : Writable 0 := by
  refine writable_iff.mpr ?_
  generalize Text.longestNumeral = digits
  exact Nat.pow_pos (Nat.succ_pos 9)

theorem Writable.min {first second : Int} (left : Writable first) (right : Writable second) :
    Writable (min first second) := by
  rcases Int.le_total first second with order | order
  · simpa only [Int.min_eq_left order] using left
  · simpa only [Int.min_eq_right order] using right

/-- What is no longer than a number that can be written can be written. -/
theorem Writable.of_le {number most : Int} (writable : Writable most) (positive : 0 ≤ number)
    (within : number ≤ most) : Writable number := by
  rw [writable_iff] at writable ⊢
  omega

/-- A number that can be written is written as its numeral. -/
theorem numeral_eq {number : Int} (writable : Writable number) :
    Text.numeral number = .ok (toString number) := by
  rw [writable_iff] at writable
  unfold Text.numeral Text.numeral?
  rw [if_pos writable]

theorem numeral_ok {number : Int} {text : String} :
    Text.numeral number = .ok text ↔ Writable number ∧ text = toString number := by
  constructor
  · intro known
    have writable : Writable number := ⟨text, known⟩
    cases known.symm.trans (numeral_eq writable)
    exact ⟨writable, rfl⟩
  · rintro ⟨writable, rfl⟩
    exact numeral_eq writable

/-- The text of a limit in the standard syntax. -/
def standardLimit (offset count : Int) : String :=
  let limit := " LIMIT " ++ toString count
  if offset = 0 then limit else limit ++ " OFFSET " ++ toString offset

/-- A limit in the standard syntax is written exactly when its numbers can be. -/
theorem limitSql_ok {offset count : Int} {text : String} :
    limitSql offset count = .ok text ↔
      (Writable offset ∧ Writable count) ∧ text = standardLimit offset count := by
  unfold limitSql standardLimit
  rw [Reporting.bind_ok]
  simp only [numeral_ok]
  by_cases start : offset = 0
  · simp only [start, if_true, writable_zero, true_and]
    constructor
    · rintro ⟨_, ⟨counted, rfl⟩, ⟨⟩⟩
      exact ⟨counted, rfl⟩
    · rintro ⟨counted, rfl⟩
      exact ⟨_, ⟨counted, rfl⟩, rfl⟩
  · simp only [start, if_false, Reporting.bind_ok, numeral_ok]
    constructor
    · rintro ⟨_, ⟨counted, rfl⟩, _, ⟨begun, rfl⟩, ⟨⟩⟩
      exact ⟨⟨begun, counted⟩, rfl⟩
    · rintro ⟨⟨begun, counted⟩, rfl⟩
      exact ⟨_, ⟨counted, rfl⟩, _, ⟨begun, rfl⟩, rfl⟩

/-- A limit is shown exactly when its numbers can be written. -/
theorem limitShown_ok {offset count : Int} :
    (∃ text, limitShown offset count = .ok text) ↔ Writable offset ∧ Writable count := by
  unfold limitShown
  simp only [Reporting.bind_ok, numeral_ok]
  constructor
  · rintro ⟨_, _, ⟨begun, rfl⟩, _, ⟨counted, rfl⟩, -⟩
    exact ⟨begun, counted⟩
  · rintro ⟨begun, counted⟩
    exact ⟨_, _, ⟨begun, rfl⟩, _, ⟨counted, rfl⟩, rfl⟩

end PortableSql
