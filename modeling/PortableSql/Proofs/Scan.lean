import Mathlib.Data.List.TakeWhile
import PortableSql.Sql.Scan

/-!
# Scanning character by character

A scan divides a text into pieces and looks ahead for the end of each quoted span. The same
division is made here by a machine that reads one character at a time. Its mode says where it
stands: outside of quoted spans, inside one, after a backslash that escapes, or after a closing
quote that may turn out to be doubled.

The machine recognises exactly the placeholders of the pieces. Since its mode is all that it
remembers, texts that follow each other can be scanned one after the other.
-/

namespace PortableSql.Sql

/-! ## Pieces -/

/-- A character that opens a span is the opening of some delimiter. -/
theorem closingFor?_mem {delimiters : List Delimiter} {character : Char} {closing : Option Char}
    (found : closingFor? delimiters character = some closing) :
    (some character, closing) ∈
      delimiters.map fun delimiter =>
        (onlyCharacter? delimiter.opening, onlyCharacter? delimiter.closing) := by
  obtain ⟨delimiter, first, rfl⟩ := Option.map_eq_some_iff.mp found
  have opens : onlyCharacter? delimiter.opening = some character := by
    simpa using List.find?_some first
  have member : delimiter ∈ delimiters := List.mem_reverse.mp (List.mem_of_find?_eq_some first)
  exact List.mem_map.mpr ⟨delimiter, member, by rw [opens]⟩

/-- A token has decimal digits between its braces. -/
theorem isDecimal_of_mem_splitToken {characters digits after : List Char}
    (found : splitToken characters = some (digits, after)) {character : Char}
    (member : character ∈ digits) : Text.isDecimal character = true := by
  unfold splitToken at found
  split at found
  · split at found
    · cases found
    · cases found
      exact List.mem_takeWhile_imp member
  · cases found

/-- A character that neither escapes nor closes stands inside of the span. -/
theorem splitSpan_inside {escapes : Bool} {closing : Option Char} {first : Char}
    (unescaping : (escapes && first = '\\') = false) (unclosing : some first ≠ closing)
    (rest : List Char) :
    splitSpan escapes closing (first :: rest) =
      (first :: (splitSpan escapes closing rest).1, (splitSpan escapes closing rest).2) := by
  cases rest with
  | nil => rfl
  | cons second rest => simp [splitSpan, unescaping, unclosing]

/-- A closing quote that is not doubled ends the span. -/
theorem splitSpan_closing {escapes : Bool} {closing : Char} (other : closing ≠ '\\')
    {following : List Char} (single : following.head? ≠ some closing) :
    splitSpan escapes (some closing) (closing :: following) = ([closing], following) := by
  cases following with
  | nil => rfl
  | cons next rest =>
    have apart : next ≠ closing := by simpa using single
    simp [splitSpan, other, apart]

/-- Where subqueries are not looked for, no piece is one. -/
theorem not_subquery_mem_pieces {delimiters : List Delimiter} {characters digits : List Char} :
    .subquery digits ∉ pieces { subqueries := false } delimiters characters := by
  fun_induction pieces { subqueries := false } delimiters characters with
  | case1 => exact List.not_mem_nil
  | case2 first rest closing _ inductionHypothesis => simpa using inductionHypothesis
  | case3 first rest _ _ inductionHypothesis => simpa using inductionHypothesis
  | case4 first rest _ _ isBrace => simp at isBrace
  | case5 first rest _ _ isBrace => simp at isBrace
  | case6 first rest _ _ _ inductionHypothesis => simpa using inductionHypothesis

/-- Where only placeholders are looked for, characters that neither open a span nor are placeholders
are pieces of their own. -/
theorem pieces_plain {tokens : Tokens} {delimiters : List Delimiter} {word : List Char}
    (textual : tokens.subqueries = false) (rest : List Char)
    (plain : ∀ character ∈ word, closingFor? delimiters character = none ∧ character ≠ '?') :
    pieces tokens delimiters (word ++ rest) =
      word.map Piece.other ++ pieces tokens delimiters rest := by
  induction word with
  | nil => rfl
  | cons first others inductionHypothesis =>
    obtain ⟨closed, noMark⟩ := plain first List.mem_cons_self
    have later := inductionHypothesis fun character member =>
      plain character (List.mem_cons_of_mem first member)
    rw [List.cons_append, pieces]
    simp [closed, noMark, textual, later]

/-- Pieces that are plain characters stay in front while tokens are replaced. -/
theorem replaceM_plain {m : Type → Type} [Monad m] [LawfulMonad m] (placeholder : m String)
    (subquery : List Char → m String) (word : List Char) (found : List Piece) :
    replaceM placeholder subquery (word.map Piece.other ++ found) =
      (word ++ ·) <$> replaceM placeholder subquery found := by
  induction word with
  | nil => exact (id_map _).symm
  | cons first others inductionHypothesis =>
    rw [List.map_cons, List.cons_append, replaceM, inductionHypothesis]
    · simp [Piece.text]
    · intro wrong
      cases wrong
    · intro _ wrong
      cases wrong

/-! ## The machine -/

/-- Where a scan stands. -/
inductive Mode where
  | outside
  | inside (opening : Char) (closing : Option Char)
  | escaped (opening : Char) (closing : Option Char)
  /-- After a closing quote, which another one would double. -/
  | closed (opening : Char) (closing : Option Char)
deriving DecidableEq, Repr

namespace Mode

variable (delimiters : List Delimiter)

/-- The mode after a character that is read outside of quoted spans. -/
def opened (character : Char) : Mode :=
  match closingFor? delimiters character with
  | some closing => inside character closing
  | none => outside

/-- The mode after a character. -/
def step : Mode → Char → Mode
  | outside, character => opened delimiters character
  | inside opening closing, character =>
    if escapesIn opening && character = '\\' then escaped opening closing
    else if some character = closing then closed opening closing
    else inside opening closing
  | escaped opening closing, _ => inside opening closing
  | closed opening closing, character =>
    if some character = closing then inside opening closing else opened delimiters character

/-- Whether a character that is read outside of quoted spans is a placeholder. -/
def opensMark (character : Char) : Bool :=
  character = '?' && (closingFor? delimiters character).isNone

/-- Whether a character is a placeholder. -/
def marks : Mode → Char → Bool
  | outside, character => opensMark delimiters character
  | inside _ _, _ | escaped _ _, _ => false
  | closed _ closing, character => some character ≠ closing && opensMark delimiters character

@[simp] theorem marks_inside (opening character : Char) (closing : Option Char) :
    (inside opening closing).marks delimiters character = false := rfl

/-- The mode after a text. -/
def after (mode : Mode) (characters : List Char) : Mode :=
  characters.foldl (step delimiters) mode

/-- For each character of a text, whether it is a placeholder. -/
def flags (mode : Mode) : List Char → List Bool
  | [] => []
  | first :: rest => mode.marks delimiters first :: flags (mode.step delimiters first) rest

@[simp] theorem after_nil (mode : Mode) : mode.after delimiters [] = mode := rfl

@[simp] theorem after_cons (mode : Mode) (first : Char) (rest : List Char) :
    mode.after delimiters (first :: rest) = (mode.step delimiters first).after delimiters rest :=
  rfl

@[simp] theorem flags_nil (mode : Mode) : mode.flags delimiters [] = [] := rfl

@[simp] theorem flags_cons (mode : Mode) (first : Char) (rest : List Char) :
    mode.flags delimiters (first :: rest) =
      mode.marks delimiters first :: (mode.step delimiters first).flags delimiters rest := rfl

theorem after_append (mode : Mode) (characters others : List Char) :
    mode.after delimiters (characters ++ others) =
      (mode.after delimiters characters).after delimiters others := List.foldl_append

theorem flags_append (mode : Mode) (characters others : List Char) :
    mode.flags delimiters (characters ++ others) =
      mode.flags delimiters characters ++
        (mode.after delimiters characters).flags delimiters others := by
  induction characters generalizing mode with
  | nil => rfl
  | cons first rest inductionHypothesis =>
    rw [List.cons_append, flags_cons, inductionHypothesis]
    rfl

@[simp] theorem length_flags (mode : Mode) (characters : List Char) :
    (mode.flags delimiters characters).length = characters.length := by
  induction characters generalizing mode with
  | nil => rfl
  | cons first rest inductionHypothesis => simp [inductionHypothesis]

/-- A mode reads a character as if a new text began with it. -/
def Reads (mode : Mode) (character : Char) : Prop :=
  mode.step delimiters character = opened delimiters character ∧
    mode.marks delimiters character = opensMark delimiters character

theorem reads_outside (character : Char) : outside.Reads delimiters character := ⟨rfl, rfl⟩

/-- After a closing quote any other character begins a new text. -/
theorem reads_closed {opening character : Char} {closing : Option Char}
    (other : some character ≠ closing) :
    (closed opening closing).Reads delimiters character := by
  simp [Reads, step, marks, other]

/-- A mode that reads the first character of a text as a new one reads the whole text so. -/
theorem scan_eq {mode : Mode} {characters : List Char}
    (reads : ∀ first ∈ characters.head?, mode.Reads delimiters first) :
    mode.flags delimiters characters = outside.flags delimiters characters ∧
      (characters ≠ [] →
        mode.after delimiters characters = outside.after delimiters characters) := by
  cases characters with
  | nil => exact ⟨rfl, fun wrong => absurd rfl wrong⟩
  | cons first rest =>
    obtain ⟨sameMode, sameMark⟩ := reads first rfl
    refine ⟨?_, fun _ => ?_⟩
    · rw [flags_cons, flags_cons, sameMode, sameMark]
      rfl
    · rw [after_cons, after_cons, sameMode]
      rfl

/-- Nothing is recognised inside a span, and a span that does not reach to the end of the text
stops at a closing quote that is not doubled. -/
theorem span_scan (opening : Char) (closing : Option Char) (characters : List Char) :
    (inside opening closing).flags delimiters (splitSpan (escapesIn opening) closing characters).1 =
        List.replicate (splitSpan (escapesIn opening) closing characters).1.length false ∧
      ((splitSpan (escapesIn opening) closing characters).2 ≠ [] →
        (inside opening closing).after delimiters
            (splitSpan (escapesIn opening) closing characters).1 = closed opening closing ∧
          ∀ first ∈ (splitSpan (escapesIn opening) closing characters).2.head?,
            some first ≠ closing) := by
  fun_induction splitSpan (escapesIn opening) closing characters with
  | case1 => exact ⟨rfl, fun wrong => absurd rfl wrong⟩
  | case2 last => exact ⟨rfl, fun wrong => absurd rfl wrong⟩
  | case3 first second rest pair inside after split inductionHypothesis =>
    rw [split] at inductionHypothesis
    -- an escape and a doubled quote both lead back into the span
    have back :
      ((Mode.inside opening closing).step delimiters first).marks delimiters second = false ∧
        ((Mode.inside opening closing).step delimiters first).step delimiters second =
          .inside opening closing := by
      simp only [Bool.or_eq_true, Bool.and_eq_true, decide_eq_true_eq] at pair
      by_cases escape : escapesIn opening = true ∧ first = '\\'
      · simp [step, marks, escape]
      · obtain ⟨firstCloses, secondCloses⟩ := pair.resolve_left escape
        simp [step, marks, escape, firstCloses, secondCloses]
    simpa [back, List.replicate_succ] using inductionHypothesis
  | case4 first second rest single ends =>
    simp only [Bool.or_eq_true, Bool.and_eq_true, decide_eq_true_eq, not_or, not_and] at single
    have plain : ¬ (escapesIn opening = true ∧ first = '\\') :=
      fun escape => single.1 escape.1 escape.2
    have stops : (Mode.inside opening closing).step delimiters first = closed opening closing := by
      simp [step, plain, ends]
    refine ⟨rfl, fun _ => ⟨?_, ?_⟩⟩
    · simpa using stops
    · simpa using single.2 ends
  | case5 first second rest single continues inside after split inductionHypothesis =>
    rw [split] at inductionHypothesis
    simp only [Bool.or_eq_true, Bool.and_eq_true, decide_eq_true_eq, not_or, not_and] at single
    have plain : ¬ (escapesIn opening = true ∧ first = '\\') :=
      fun escape => single.1 escape.1 escape.2
    have stays : (Mode.inside opening closing).step delimiters first = .inside opening closing := by
      simp [step, plain, continues]
    simpa [stays, List.replicate_succ] using inductionHypothesis

/-- Outside of quoted spans, possibly right after a closing quote. -/
def ended : Mode → Bool
  | outside | closed _ _ => true
  | inside _ _ | escaped _ _ => false

/-- The quotes of a mode are quotes of some delimiter. -/
def Proper : Mode → Prop
  | outside => True
  | inside opening closing | escaped opening closing | closed opening closing =>
    closingFor? delimiters opening = some closing

theorem proper_outside : outside.Proper delimiters := trivial

theorem proper_opened (character : Char) : (opened delimiters character).Proper delimiters := by
  unfold opened
  split
  · assumption
  · trivial

theorem proper_step {mode : Mode} (proper : mode.Proper delimiters) (character : Char) :
    (mode.step delimiters character).Proper delimiters := by
  cases mode with
  | outside => exact proper_opened delimiters character
  | inside opening closing =>
    dsimp only [step]
    split
    · exact proper
    · split <;> exact proper
  | escaped opening closing => exact proper
  | closed opening closing =>
    dsimp only [step]
    split
    · exact proper
    · exact proper_opened delimiters character

theorem proper_after {mode : Mode} (proper : mode.Proper delimiters) (characters : List Char) :
    (mode.after delimiters characters).Proper delimiters := by
  induction characters generalizing mode with
  | nil => exact proper
  | cons first rest inductionHypothesis =>
    exact inductionHypothesis (proper_step delimiters proper first)

end Mode

/-- The scan of the text ends outside of quoted spans. -/
def quoteClosed (delimiters : List Delimiter) (text : String) : Bool :=
  (Mode.outside.after delimiters text.toList).ended

/-- For each character of a piece, whether it is a placeholder. -/
def Piece.flags : Piece → List Bool
  | placeholder => [true]
  | piece => List.replicate piece.text.length false

namespace Mode

variable (delimiters : List Delimiter)

/-- After a quoted span the machine goes on as at the beginning of a text. -/
theorem flags_span {first : Char} {closing : Option Char} (rest : List Char)
    (opens : closingFor? delimiters first = some closing) :
    outside.flags delimiters (first :: rest) =
      List.replicate ((splitSpan (escapesIn first) closing rest).1.length + 1) false ++
        outside.flags delimiters (splitSpan (escapesIn first) closing rest).2 := by
  obtain ⟨unmarked, stops⟩ := span_scan delimiters first closing rest
  have notMark : outside.marks delimiters first = false := by simp [marks, opensMark, opens]
  have enters : outside.step delimiters first = inside first closing := by
    simp [step, opened, opens]
  have continued : ((inside first closing).after delimiters
      (splitSpan (escapesIn first) closing rest).1).flags delimiters
        (splitSpan (escapesIn first) closing rest).2 =
      outside.flags delimiters (splitSpan (escapesIn first) closing rest).2 := by
    by_cases finished : (splitSpan (escapesIn first) closing rest).2 = []
    · rw [finished]
      rfl
    · obtain ⟨ending, single⟩ := stops finished
      rw [ending]
      exact (scan_eq delimiters fun next head => reads_closed delimiters (single next head)).1
  have divided := flags_append delimiters (inside first closing)
    (splitSpan (escapesIn first) closing rest).1 (splitSpan (escapesIn first) closing rest).2
  rw [splitSpan_append, continued, unmarked] at divided
  rw [flags_cons, notMark, enters, divided, List.replicate_succ, List.cons_append]

end Mode

/-- The machine recognises the placeholders of the pieces. -/
theorem flags_pieces (delimiters : List Delimiter) (characters : List Char) :
    Mode.outside.flags delimiters characters =
      (pieces { subqueries := false } delimiters characters).flatMap Piece.flags := by
  fun_induction pieces { subqueries := false } delimiters characters with
  | case1 => rfl
  | case2 first rest closing opens inductionHypothesis =>
    rw [Mode.flags_span delimiters rest opens, inductionHypothesis]
    rfl
  | case3 first rest free isMark inductionHypothesis =>
    simp only [Bool.true_and, decide_eq_true_eq] at isMark
    subst isMark
    simp only [Mode.flags_cons, Mode.marks, Mode.opensMark, Mode.step, Mode.opened, free,
      inductionHypothesis]
    rfl
  | case4 first rest _ _ isBrace => simp at isBrace
  | case5 first rest _ _ isBrace => simp at isBrace
  | case6 first rest free notMark _ inductionHypothesis =>
    simp only [Bool.true_and, decide_eq_true_eq] at notMark
    simp [Mode.marks, Mode.opensMark, Mode.step, Mode.opened, free, notMark, Piece.flags,
      Piece.text, inductionHypothesis]

/-- The machine counts the placeholders of a text. -/
theorem count_flags (delimiters : List Delimiter) (text : String) :
    countPlaceholders delimiters text =
      (Mode.outside.flags delimiters text.toList).count true := by
  rw [flags_pieces, countPlaceholders]
  induction pieces { subqueries := false } delimiters text.toList with
  | nil => rfl
  | cons piece rest inductionHypothesis =>
    rw [List.flatMap_cons, List.count_append, ← inductionHypothesis]
    cases piece <;> simp [Piece.flags, List.count_replicate, Nat.add_comm]

/-- In a text without placeholders no character is one. -/
theorem flags_of_unmarked {delimiters : List Delimiter} {text : String}
    (unmarked : countPlaceholders delimiters text = 0) :
    Mode.outside.flags delimiters text.toList = List.replicate text.toList.length false := by
  rw [count_flags, List.count_eq_zero] at unmarked
  refine List.eq_replicate_iff.mpr ⟨Mode.length_flags .., fun flag member => ?_⟩
  cases flag with
  | false => rfl
  | true => exact absurd member unmarked

end PortableSql.Sql
