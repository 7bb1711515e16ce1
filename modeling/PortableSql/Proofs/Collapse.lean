import Mathlib.Data.List.Forall2
import Mathlib.Data.List.TakeWhile
import PortableSql.Proofs.Reading

/-!
# Keys that merge a clause with its value

What a merging key looks like is said here without a scan: blanks, a keyword in any spelling, and a
value that begins at a word boundary. The scan finds exactly these keys. It is deterministic
because no spelling of a letter is white space, so the gap between two words has one end.
-/

namespace PortableSql.Payload

/-- The characters spell the letters of a word, in any case. -/
abbrev SpellsWord (word spelt : List Char) : Prop :=
  List.Forall₂ (fun letter character => standsFor letter character = true) word spelt

/-- The characters spell a keyword: its words in any case, with any white space between them. -/
inductive Spells : List (List Char) → List Char → Prop
  | last {word spelt} : SpellsWord word spelt → Spells [word] spelt
  | more {word next words first gap others} : SpellsWord word first → gap ≠ [] →
    (∀ character ∈ gap, Text.isBlank character = true) → Spells (next :: words) others →
    Spells (word :: next :: words) (first ++ gap ++ others)

/-- A key merges a keyword, as it is spelt, with its value: only white space stands before the
keyword, and behind it comes no further character of a word and not only white space. -/
def Merges (key spelt : String) : Prop :=
  ∃ blanks, ∃ keyword ∈ clauseKeywords, ∃ value,
    key.toList = blanks ++ spelt.toList ++ value ∧
    (∀ character ∈ blanks, Text.isBlank character = true) ∧ Spells keyword spelt.toList ∧
    (∃ first rest, value = first :: rest ∧ Text.isWord first = false) ∧
    ∃ character ∈ value, Text.isBlank character = false

/-- No spelling of the letters of a word is white space, and the word has letters. -/
def Solid (word : List Char) : Prop :=
  word ≠ [] ∧ ∀ letter ∈ word, Text.isBlank letter = false ∧
    Text.isBlank (Char.ofNat (letter.toNat + 32)) = false

-- Letter by letter; without this, all characters there are may be tried.
instance (word : List Char) : Decidable (Solid word) :=
  @instDecidableAnd _ _ _ (List.decidableBAll _ word)

theorem solid_clauseKeywords : ∀ keyword ∈ clauseKeywords, ∀ word ∈ keyword, Solid word := by
  decide

theorem not_blank_of_standsFor {letter character : Char}
    (letterSolid : Text.isBlank letter = false)
    (smallSolid : Text.isBlank (Char.ofNat (letter.toNat + 32)) = false)
    (stands : standsFor letter character = true) : Text.isBlank character = false := by
  simp only [standsFor, Bool.or_eq_true, Bool.and_eq_true, decide_eq_true_eq] at stands
  rcases stands with (rfl | rfl) | ⟨-, dotted | dotless⟩
  · exact letterSolid
  · exact smallSolid
  · simp [Text.isBlank, dotted, Text.blanks]
  · simp [Text.isBlank, dotless, Text.blanks]

/-- What is spelt begins without white space. -/
theorem Spells.begins {words : List (List Char)} {spelt : List Char} (spells : Spells words spelt)
    (solid : ∀ word ∈ words, Solid word) :
    ∃ first rest, spelt = first :: rest ∧ Text.isBlank first = false := by
  have begun : ∀ {word characters}, Solid word → SpellsWord word characters →
      ∃ first rest, characters = first :: rest ∧ Text.isBlank first = false := by
    intro word characters solid spelt
    cases spelt with
    | nil => exact absurd rfl solid.1
    | cons stands others =>
      obtain ⟨letterSolid, smallSolid⟩ := solid.2 _ List.mem_cons_self
      exact ⟨_, _, rfl, not_blank_of_standsFor letterSolid smallSolid stands⟩
  cases spells with
  | last spelt => exact begun (solid _ List.mem_cons_self) spelt
  | more spelt _ _ _ =>
    obtain ⟨first, rest, rfl, unblank⟩ := begun (solid _ List.mem_cons_self) spelt
    exact ⟨first, _, rfl, unblank⟩

/-- A word is split off exactly where it is spelt. -/
theorem splitWord_iff {word characters spelt rest : List Char} :
    splitWord word characters = some (spelt, rest) ↔
      characters = spelt ++ rest ∧ SpellsWord word spelt := by
  induction word generalizing characters spelt rest with
  | nil =>
    simp only [splitWord, Option.some.injEq, Prod.mk.injEq, List.forall₂_nil_left_iff]
    constructor
    · rintro ⟨rfl, rfl⟩
      exact ⟨rfl, rfl⟩
    · rintro ⟨rfl, rfl⟩
      exact ⟨rfl, rfl⟩
  | cons letter letters inductionHypothesis =>
    cases characters with
    | nil =>
      refine ⟨(nomatch ·), ?_⟩
      rintro ⟨nothing, spells⟩
      cases spells
      cases nothing
    | cons character characters =>
      rw [splitWord]
      constructor
      · intro found
        split at found
        · rename_i stands
          obtain ⟨⟨word, left⟩, split, same⟩ := Option.map_eq_some_iff.mp found
          cases same
          obtain ⟨rfl, spells⟩ := inductionHypothesis.mp split
          exact ⟨rfl, .cons stands spells⟩
        · cases found
      · rintro ⟨same, spells⟩
        cases spells with
        | cons stands spells =>
          obtain ⟨rfl, following⟩ := List.cons.inj same
          rw [if_pos stands, inductionHypothesis.mpr ⟨following, spells⟩]
          rfl

/-- A keyword that is split off is spelt there. -/
theorem spells_of_splitKeyword {words : List (List Char)} {characters spelt rest : List Char}
    (nonempty : words ≠ []) (found : splitKeyword words characters = some (spelt, rest)) :
    characters = spelt ++ rest ∧ Spells words spelt := by
  induction words generalizing characters spelt rest with
  | nil => exact absurd rfl nonempty
  | cons word words inductionHypothesis =>
    cases words with
    | nil =>
      obtain ⟨same, spells⟩ := splitWord_iff.mp found
      exact ⟨same, .last spells⟩
    | cons next words =>
      rw [splitKeyword] at found
      obtain ⟨⟨first, after⟩, split, continued⟩ := Option.bind_eq_some_iff.mp found
      obtain ⟨rfl, spellsFirst⟩ := splitWord_iff.mp split
      dsimp only at continued
      split at continued
      · cases continued
      · rename_i gapped
        obtain ⟨⟨others, left⟩, following, ended⟩ := Option.bind_eq_some_iff.mp continued
        cases ended
        obtain ⟨same, spellsOthers⟩ := inductionHypothesis (List.cons_ne_nil _ _) following
        refine ⟨?_, .more spellsFirst (by simpa using gapped) (fun character member => ?_)
          spellsOthers⟩
        · conv => lhs; rw [← List.takeWhile_append_dropWhile (p := Text.isBlank) (l := after), same]
          simp
        · exact List.mem_takeWhile_imp member

/-- A keyword is split off where it is spelt. -/
theorem splitKeyword_of_spells {words : List (List Char)} {spelt : List Char}
    (spells : Spells words spelt) (solid : ∀ word ∈ words, Solid word) (rest : List Char) :
    splitKeyword words (spelt ++ rest) = some (spelt, rest) := by
  induction spells with
  | last spells => exact splitWord_iff.mpr ⟨rfl, spells⟩
  | @more word next words first gap others spells gapped blank following inductionHypothesis =>
    obtain ⟨-, later⟩ := List.forall_mem_cons.mp solid
    obtain ⟨begin, more, begun, unblank⟩ := following.begins later
    have split : splitWord word (first ++ gap ++ others ++ rest) =
        some (first, gap ++ (others ++ rest)) :=
      splitWord_iff.mpr ⟨by simp, spells⟩
    have taken : (gap ++ (others ++ rest)).takeWhile Text.isBlank = gap := by
      rw [List.takeWhile_append_of_pos blank, begun, List.cons_append,
        List.takeWhile_cons_of_neg (by simp [unblank]), List.append_nil]
    have dropped : (gap ++ (others ++ rest)).dropWhile Text.isBlank = others ++ rest := by
      rw [List.dropWhile_append_of_pos blank, begun, List.cons_append,
        List.dropWhile_cons_of_neg (by simp [unblank])]
    have unempty : ¬ gap.isEmpty = true := by simpa using gapped
    rw [splitKeyword, split]
    change (if ((gap ++ (others ++ rest)).takeWhile Text.isBlank).isEmpty then none
      else (splitKeyword (next :: words) ((gap ++ (others ++ rest)).dropWhile Text.isBlank)).bind
        fun found => some (first ++ (gap ++ (others ++ rest)).takeWhile Text.isBlank ++ found.1,
          found.2)) = _
    rw [taken, dropped, if_neg unempty, inductionHypothesis later]
    rfl

/-- What follows a keyword is its value at a word boundary, when it is not blank. -/
theorem isValueText_iff {value : List Char} :
    isValueText value = true ↔
      (∃ first rest, value = first :: rest ∧ Text.isWord first = false) ∧
        ∃ character ∈ value, Text.isBlank character = false := by
  cases value with
  | nil => simp [isValueText]
  | cons first rest => simp [isValueText]

/-- The keyword that is found is one that the key merges with its value. -/
theorem merges_of_collapsedKeyword? {key spelt : String}
    (found : collapsedKeyword? key = some spelt) : Merges key spelt := by
  obtain ⟨keyword, known, here⟩ := List.exists_of_findSome?_eq_some found
  split at here
  · rename_i word value split
    split at here
    · rename_i isValue
      cases here
      have nonempty : keyword ≠ [] := (by decide : ∀ keyword ∈ clauseKeywords, keyword ≠ []) _ known
      obtain ⟨same, spells⟩ := spells_of_splitKeyword nonempty split
      obtain ⟨boundary, unblank⟩ := isValueText_iff.mp isValue
      refine ⟨key.toList.takeWhile Text.isBlank, keyword, known, value, ?_, fun character member =>
        List.mem_takeWhile_imp member, by rwa [String.toList_ofList], boundary, unblank⟩
      rw [String.toList_ofList, List.append_assoc, ← same, List.takeWhile_append_dropWhile]
    · cases here
  · cases here

/-- In every key that merges a keyword with its value one is found. -/
theorem exists_collapsedKeyword? {key spelt : String} (merges : Merges key spelt) :
    ∃ found, collapsedKeyword? key = some found := by
  obtain ⟨blanks, keyword, known, value, same, blank, spells, boundary, unblank⟩ := merges
  have solid := solid_clauseKeywords keyword known
  obtain ⟨first, rest, begun, firstUnblank⟩ := spells.begins solid
  have dropped : key.toList.dropWhile Text.isBlank = spelt.toList ++ value := by
    rw [same, List.append_assoc, List.dropWhile_append_of_pos blank, begun, List.cons_append,
      List.dropWhile_cons_of_neg (by simp [firstUnblank])]
  rw [← Option.isSome_iff_exists, collapsedKeyword?, List.findSome?_isSome_iff]
  refine ⟨keyword, known, ?_⟩
  rw [dropped, splitKeyword_of_spells spells solid]
  simp [isValueText_iff.mpr ⟨boundary, unblank⟩]

/-- The first key of a payload that merges a keyword with its value is reported. -/
theorem collapsedIn?_first {command key spelt : String} {value : Value} {earlier later : Entries}
    (none : ∀ entry ∈ earlier, ∀ other, entry.1 = .text other → ∀ spelt, ¬ Merges other spelt)
    (merges : Merges key spelt) :
    ∃ found, Merges key found ∧
      collapsedIn? command (earlier ++ (.text key, value) :: later) =
        some (collapsedReport command key found) := by
  obtain ⟨found, here⟩ := exists_collapsedKeyword? merges
  refine ⟨found, merges_of_collapsedKeyword? here, ?_⟩
  induction earlier with
  | nil => simp [collapsedIn?, here]
  | cons entry earlier inductionHypothesis =>
    obtain ⟨head, tail⟩ := List.forall_mem_cons.mp none
    have continued := inductionHypothesis tail
    obtain ⟨entryKey, entryValue⟩ := entry
    cases entryKey with
    | text other =>
      have passed : collapsedKeyword? other = .none := by
        cases merged : collapsedKeyword? other with
        | none => rfl
        | some spelt => exact absurd (merges_of_collapsedKeyword? merged) (head other rfl spelt)
      simp only [List.cons_append, collapsedIn?, passed, continued]
    | _ => exact continued

end PortableSql.Payload
