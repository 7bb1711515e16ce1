import Mathlib.Data.List.DropRight
import PortableSql.Text.Blank

/-!
# Cut and trimmed texts

Cutting a text at a separator gives parts without the separator, and such parts are what the text is
cut into that joins them. Trimming a text leaves what has no white space around it, and leaves that
alone.
-/

namespace PortableSql.Text

/-! ## Parts -/

section Parts

variable {separator : Char} {characters : List Char}

/-- The parts of a cut hold no new characters. -/
theorem mem_of_mem_cut {separator character : Char} {characters part : List Char}
    (member : part ∈ cut separator characters) (inside : character ∈ part) :
    character ∈ characters := by
  fun_induction cut separator characters generalizing part with
  | case1 => simp_all
  | case2 rest inductionHypothesis =>
    rcases List.mem_cons.mp member with rfl | later
    · cases inside
    · exact List.mem_cons_of_mem _ (inductionHypothesis later inside)
  | case3 first rest other empty inductionHypothesis => exact absurd empty (cut_ne_nil _ _)
  | case4 first rest other begun others found inductionHypothesis =>
    rw [found] at inductionHypothesis
    rcases List.mem_cons.mp member with rfl | later
    · rcases List.mem_cons.mp inside with rfl | deeper
      · exact List.mem_cons_self
      · exact List.mem_cons_of_mem _ (inductionHypothesis List.mem_cons_self deeper)
    · exact List.mem_cons_of_mem _ (inductionHypothesis (List.mem_cons_of_mem _ later) inside)

/-- No part has the separator in it. -/
theorem not_mem_of_mem_cut {part : List Char} (member : part ∈ cut separator characters) :
    separator ∉ part := by
  fun_induction cut separator characters generalizing part with
  | case1 =>
    rw [List.mem_singleton.mp member]
    exact List.not_mem_nil
  | case2 rest inductionHypothesis =>
    rcases List.mem_cons.mp member with rfl | later
    · exact List.not_mem_nil
    · exact inductionHypothesis later
  | case3 first rest other empty inductionHypothesis => exact absurd empty (cut_ne_nil _ _)
  | case4 first rest other begun others found inductionHypothesis =>
    rw [found] at inductionHypothesis
    rcases List.mem_cons.mp member with rfl | later
    · rw [List.mem_cons, not_or]
      exact ⟨Ne.symm other, inductionHypothesis List.mem_cons_self⟩
    · exact inductionHypothesis (List.mem_cons_of_mem _ later)

/-- A text without the separator is its only part. -/
theorem cut_of_not_mem (free : separator ∉ characters) :
    cut separator characters = [characters] := by
  induction characters with
  | nil => rfl
  | cons character rest inductionHypothesis =>
    rw [List.mem_cons, not_or] at free
    rw [cut, if_neg (Ne.symm free.1), inductionHypothesis free.2]

/-- The only part of characters without separators is the whole of them. -/
theorem cut_eq_singleton {part : List Char} :
    cut separator characters = [part] ↔ part = characters ∧ separator ∉ characters := by
  constructor
  · intro single
    have whole : part = characters := by
      rw [← intercalate_cut separator characters, single, List.intercalate_singleton]
    subst whole
    exact ⟨rfl, not_mem_of_mem_cut (single ▸ List.mem_singleton_self part)⟩
  · rintro ⟨rfl, free⟩
    exact cut_of_not_mem free

/-- What is no separator belongs to the first part. -/
theorem cut_cons {character : Char} (other : character ≠ separator) :
    cut separator (character :: characters) =
      (cut separator characters).modifyHead (character :: ·) := by
  rw [cut, if_neg other]
  cases known : cut separator characters with
  | nil => exact absurd known (cut_ne_nil separator characters)
  | cons first rest => rfl

/-- The first part ends at the first separator. -/
theorem cut_append {first : List Char} (free : separator ∉ first) (rest : List Char) :
    cut separator (first ++ separator :: rest) = first :: cut separator rest := by
  induction first with
  | nil => rw [List.nil_append, cut, if_pos rfl]
  | cons character others inductionHypothesis =>
    rw [List.mem_cons, not_or] at free
    rw [List.cons_append, cut, if_neg (Ne.symm free.1), inductionHypothesis free.2]

/-- Joined parts are cut into themselves. -/
theorem cut_intercalate {parts : List (List Char)} (full : parts ≠ [])
    (free : ∀ part ∈ parts, separator ∉ part) :
    cut separator ([separator].intercalate parts) = parts := by
  induction parts with
  | nil => exact absurd rfl full
  | cons part rest inductionHypothesis =>
    obtain ⟨head, tail⟩ := List.forall_mem_cons.mp free
    cases rest with
    | nil => rw [List.intercalate_singleton, cut_of_not_mem head]
    | cons next others =>
      rw [List.intercalate_cons_cons, List.append_assoc, List.singleton_append, cut_append head,
        inductionHypothesis (List.cons_ne_nil next others) tail]

end Parts

/-! ## White space -/

theorem trim_eq (characters : List Char) :
    trim characters = (characters.dropWhile isBlank).rdropWhile isBlank := rfl

/-- Trimming leaves characters out and changes none. -/
theorem trim_sublist (characters : List Char) : (trim characters).Sublist characters :=
  (List.rdropWhile_prefix isBlank _).sublist.trans (List.dropWhile_sublist isBlank)

/-- Only white space follows what remains of a trimming. -/
theorem exists_blank_trim (characters : List Char) : ∃ tail, (∀ character ∈ tail,
    isBlank character = true) ∧ characters.dropWhile isBlank = trim characters ++ tail :=
  ⟨(characters.dropWhile isBlank).rtakeWhile isBlank,
    fun _ => List.mem_rtakeWhile_imp, List.rdropWhile_append_rtakeWhile.symm⟩

/-- What was trimmed begins without white space. -/
theorem dropWhile_trim (characters : List Char) :
    (trim characters).dropWhile isBlank = trim characters := by
  obtain ⟨tail, -, whole⟩ := exists_blank_trim characters
  have begins := List.dropWhile_idempotent isBlank characters
  cases core : trim characters with
  | nil => rfl
  | cons first rest =>
    rw [whole, core, List.cons_append, List.dropWhile_eq_self_iff] at begins
    have solid : ¬isBlank first = true := begins (Nat.succ_pos _)
    rw [List.dropWhile_cons_of_neg solid]

/-- Trimming once is enough. -/
theorem trim_trim (characters : List Char) : trim (trim characters) = trim characters := by
  rw [trim_eq (trim characters), dropWhile_trim, trim_eq, List.rdropWhile_idempotent]

theorem trimmed_trimmed (text : String) : trimmed (trimmed text) = trimmed text := by
  rw [trimmed, trimmed, String.toList_ofList, trim_trim]

/-- There is no white space around the characters. -/
structure Tight (characters : List Char) : Prop where
  head : ∀ character ∈ characters.head?, isBlank character = false
  last : ∀ character ∈ characters.getLast?, isBlank character = false

theorem Tight.cons {character : Char} {characters : List Char} (tight : Tight characters)
    (visible : isBlank character = false) : Tight (character :: characters) where
  head _ member := by
    cases member
    exact visible
  last other member := by
    cases known : characters.getLast? with
    | none =>
      rw [List.getLast?_eq_none_iff] at known
      subst known
      cases member
      exact visible
    | some last =>
      rw [List.getLast?_cons, known] at member
      cases member
      exact tight.last last known

/-- Characters are left as they are exactly if there is no white space around them. -/
theorem trim_eq_self_iff {characters : List Char} :
    trim characters = characters ↔ Tight characters := by
  constructor
  · intro same
    have begins : characters.dropWhile isBlank = characters := same ▸ dropWhile_trim characters
    have ends : characters.rdropWhile isBlank = characters := by
      rwa [trim_eq, begins] at same
    rw [List.dropWhile_eq_self_iff] at begins
    rw [List.rdropWhile_eq_self_iff] at ends
    refine ⟨fun character member => ?_, fun character member => ?_⟩
    · obtain ⟨rest, rfl⟩ := List.head?_eq_some_iff.mp member
      simpa using begins (Nat.succ_pos _)
    · obtain ⟨before, rfl⟩ := List.getLast?_eq_some_iff.mp member
      have full : before ++ [character] ≠ [] := List.concat_ne_nil _ _
      simpa using ends full
  · rintro ⟨head, last⟩
    have begins : characters.dropWhile isBlank = characters := by
      cases characters with
      | nil => rfl
      | cons first rest => rw [List.dropWhile_cons, head first rfl, if_neg Bool.false_ne_true]
    rw [trim_eq, begins, List.rdropWhile_eq_self_iff]
    intro full
    rw [last _ (List.getLast?_eq_some_getLast full)]
    exact Bool.false_ne_true

end PortableSql.Text
