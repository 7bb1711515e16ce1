import Mathlib.Logic.Function.Iterate
import PortableSql.Compile.Clause
import PortableSql.Proofs.Scan
import PortableSql.Server.Marker

/-!
# Texts as tokens

Where all quotes are single characters that tokens are not made of, a text has just one division
into quoted spans, placeholders, subquery tokens and other characters. It is described here without
a scan: the characters of a span are read from the left, where backslashes and doubled closing
quotes take two of them at a time, and a character outside of spans is another one only if no span
and no token begins with it.

The division does not depend on which tokens are looked for. A scan that leaves some of them out
finds their characters one by one instead. So replacing the tokens of a text is to go through its
division once, from left to right, and to put together what the callbacks return for the tokens and
the texts of the other pieces.
-/

namespace PortableSql

namespace Sql

/-! ## Plain delimiters -/

/-- No token is made of the character, and it does not escape others. -/
def isQuote (character : Char) : Bool :=
  !(['?', '{', '}', '\\'].contains character || Text.isDecimal character)

/-- Both quotes are single characters that no token is made of and that do not escape others. -/
structure Delimiter.Plain (delimiter : Delimiter) : Prop where
  opening : ∃ quote, delimiter.opening.toList = [quote] ∧ isQuote quote = true
  closing : ∃ quote, delimiter.closing.toList = [quote] ∧ isQuote quote = true

section

variable {delimiters : List Delimiter}

/-- Plain spans are opened and closed by quotes. -/
theorem closingFor?_plain (plain : ∀ delimiter ∈ delimiters, delimiter.Plain) {first : Char}
    {closing : Option Char} (opens : closingFor? delimiters first = some closing) :
    isQuote first = true ∧ ∃ quote, closing = some quote ∧ isQuote quote = true := by
  obtain ⟨delimiter, member, same⟩ := List.mem_map.mp (closingFor?_mem opens)
  obtain ⟨⟨opening, opened, openingQuote⟩, ⟨quote, closed, closingQuote⟩⟩ := plain delimiter member
  simp only [onlyCharacter?, opened, closed, Prod.mk.injEq, Option.some.injEq] at same
  obtain ⟨rfl, rfl⟩ := same
  exact ⟨openingQuote, quote, rfl, closingQuote⟩

/-- What is no quote opens nothing. -/
theorem closingFor?_eq_none (plain : ∀ delimiter ∈ delimiters, delimiter.Plain) {character : Char}
    (other : isQuote character = false) : closingFor? delimiters character = none := by
  cases opens : closingFor? delimiters character with
  | none => rfl
  | some closing =>
    rw [(closingFor?_plain plain opens).1] at other
    cases other

end

/-! ## Spans -/

/-- Characters inside of a span, read from the left: characters behind a backslash, where it
escapes, doubled closing quotes, and others. -/
inductive Quoted (escapes : Bool) (closing : Char) : List Char → Prop where
  | nil : Quoted escapes closing []
  | escaped {character : Char} {rest : List Char} (escaping : escapes = true)
      (others : Quoted escapes closing rest) : Quoted escapes closing ('\\' :: character :: rest)
  | doubled {rest : List Char} (others : Quoted escapes closing rest) :
      Quoted escapes closing (closing :: closing :: rest)
  | plain {character : Char} {rest : List Char} (single : character ≠ closing)
      (unescaping : (escapes && character = '\\') = false)
      (others : Quoted escapes closing rest) : Quoted escapes closing (character :: rest)

/-- What belongs to a span behind its opening quote, and what follows it. The span runs up to its
first closing quote that is neither doubled nor escaped, or to the end of the text if there is
none. -/
inductive Closes (escapes : Bool) (closing : Char) : List Char → List Char → Prop where
  | closed {inside following : List Char} (quoted : Quoted escapes closing inside)
      (single : following.head? ≠ some closing) :
      Closes escapes closing (inside ++ [closing]) following
  | unclosed {inside : List Char} (quoted : Quoted escapes closing inside) :
      Closes escapes closing inside []
  /-- A backslash at the end of the text has nothing to escape. -/
  | trailing {inside : List Char} (escaping : escapes = true)
      (quoted : Quoted escapes closing inside) : Closes escapes closing (inside ++ ['\\']) []

section

variable {escapes : Bool} {closing : Char}

/-- Quoted characters are passed over. -/
theorem Quoted.splitSpan {inside : List Char} (quoted : Quoted escapes closing inside)
    (rest : List Char) :
    Sql.splitSpan escapes (some closing) (inside ++ rest) =
      (inside ++ (Sql.splitSpan escapes (some closing) rest).1,
        (Sql.splitSpan escapes (some closing) rest).2) := by
  induction quoted with
  | nil => rfl
  | escaped escaping _ inductionHypothesis =>
    subst escaping
    simp [Sql.splitSpan, inductionHypothesis]
  | doubled _ inductionHypothesis =>
    simp [Sql.splitSpan, inductionHypothesis]
  | plain single unescaping _ inductionHypothesis =>
    have unclosing : some _ ≠ some closing := fun same => single (Option.some.inj same)
    rw [List.cons_append, splitSpan_inside unescaping unclosing, inductionHypothesis,
      List.cons_append]

/-- A span is split where it ends. -/
theorem Closes.splitSpan {inside following : List Char}
    (closes : Closes escapes closing inside following) (other : closing ≠ '\\') :
    Sql.splitSpan escapes (some closing) (inside ++ following) = (inside, following) := by
  cases closes with
  | closed quoted single =>
    rw [List.append_assoc, List.singleton_append, quoted.splitSpan, splitSpan_closing other single]
  | unclosed quoted =>
    rw [quoted.splitSpan]
    simp [Sql.splitSpan]
  | trailing escaping quoted =>
    rw [List.append_nil, quoted.splitSpan]
    rfl

/-- More quoted characters belong to the span. -/
theorem Quoted.append {before inside : List Char} (quoted : Quoted escapes closing before)
    (more : Quoted escapes closing inside) : Quoted escapes closing (before ++ inside) := by
  induction quoted with
  | nil => exact more
  | escaped escaping _ inductionHypothesis => exact .escaped escaping inductionHypothesis
  | doubled _ inductionHypothesis => exact .doubled inductionHypothesis
  | plain single unescaping _ inductionHypothesis =>
    exact .plain single unescaping inductionHypothesis

/-- Quoted characters before the rest of a span belong to it. -/
theorem Closes.append {before inside following : List Char}
    (quoted : Quoted escapes closing before) (closes : Closes escapes closing inside following) :
    Closes escapes closing (before ++ inside) following := by
  cases closes with
  | closed more single =>
    rw [← List.append_assoc]
    exact .closed (quoted.append more) single
  | unclosed more => exact .unclosed (quoted.append more)
  | trailing escaping more =>
    rw [← List.append_assoc]
    exact .trailing escaping (quoted.append more)

/-- Splitting finds the end of the span. -/
theorem closes_splitSpan (escapes : Bool) (closing : Char) (characters : List Char) :
    Closes escapes closing (Sql.splitSpan escapes (some closing) characters).1
      (Sql.splitSpan escapes (some closing) characters).2 := by
  fun_induction Sql.splitSpan escapes (some closing) characters with
  | case1 => exact .unclosed .nil
  | case2 last =>
    by_cases ends : last = closing
    · subst ends
      exact .closed .nil (by simp)
    · by_cases escape : (escapes && last = '\\') = true
      · obtain ⟨escaping, backslash⟩ := Bool.and_eq_true_iff.mp escape
        obtain rfl := of_decide_eq_true backslash
        exact .trailing escaping .nil
      · exact .unclosed (.plain ends (Bool.of_not_eq_true escape) .nil)
  | case3 first second rest pair inside after split inductionHypothesis =>
    rw [split] at inductionHypothesis
    have unit : Quoted escapes closing [first, second] := by
      simp only [Bool.or_eq_true, Bool.and_eq_true, decide_eq_true_eq, Option.some.injEq] at pair
      rcases pair with ⟨escaping, rfl⟩ | ⟨rfl, rfl⟩
      · exact .escaped escaping .nil
      · exact .doubled .nil
    exact inductionHypothesis.append unit
  | case4 first second rest single ends =>
    obtain rfl := Option.some.inj ends
    refine .closed .nil ?_
    intro doubles
    simp_all
  | case5 first second rest single continues inside after split inductionHypothesis =>
    rw [split] at inductionHypothesis
    have unit : Quoted escapes closing [first] := by
      refine .plain (fun same => continues (congrArg some same)) ?_ .nil
      simp_all
    exact inductionHypothesis.append unit

end

/-! ## Subquery tokens -/

/-- The digits of a subquery token. -/
structure Numeral (digits : List Char) : Prop where
  full : digits ≠ []
  decimal : ∀ character ∈ digits, Text.isDecimal character = true

/-- A token is found exactly where digits are followed by a closing brace. -/
theorem splitToken_eq_some {characters digits after : List Char} :
    splitToken characters = some (digits, after) ↔
      Numeral digits ∧ characters = digits ++ '}' :: after := by
  constructor
  · intro found
    refine ⟨⟨?_, fun _ => isDecimal_of_mem_splitToken found⟩, splitToken_append found⟩
    rintro rfl
    unfold splitToken at found
    split at found
    · split at found
      · cases found
      · rename_i full
        have blank := (Prod.mk.inj (Option.some.inj found)).1
        rw [blank] at full
        exact full rfl
    · cases found
  · rintro ⟨⟨full, decimal⟩, rfl⟩
    have brace : ¬Text.isDecimal '}' = true := by decide
    have taken : (digits ++ '}' :: after).takeWhile Text.isDecimal = digits := by
      rw [List.takeWhile_append_of_pos decimal, List.takeWhile_cons_of_neg brace, List.append_nil]
    have dropped : (digits ++ '}' :: after).dropWhile Text.isDecimal = '}' :: after := by
      rw [List.dropWhile_append_of_pos decimal, List.dropWhile_cons_of_neg brace]
    rw [splitToken, dropped, taken]
    simp [full]

/-- No token is found where none begins. -/
theorem splitToken_eq_none {characters : List Char}
    (untold : ∀ digits after, Numeral digits → characters ≠ digits ++ '}' :: after) :
    splitToken characters = none := by
  cases found : splitToken characters with
  | none => rfl
  | some split =>
    obtain ⟨numeral, same⟩ := splitToken_eq_some.mp found
    exact absurd same (untold _ _ numeral)

/-- The characters of a token are no quotes and no placeholders. -/
theorem Numeral.isQuote_eq_false {digits : List Char} (numeral : Numeral digits) {character : Char}
    (member : character ∈ (Piece.subquery digits).text) :
    isQuote character = false ∧ character ≠ '?' := by
  simp only [Piece.text, List.cons_append, List.mem_cons, List.mem_append, List.not_mem_nil,
    or_false] at member
  rcases member with rfl | digit | rfl
  · decide
  · have decimal := numeral.decimal character digit
    constructor
    · rw [isQuote, decimal, Bool.or_true, Bool.not_true]
    · rintro rfl
      exact absurd decimal (by decide)
  · decide

/-- The values of decimal digits. -/
theorem digitValues_decimal {digits : List Char}
    (decimal : ∀ character ∈ digits, Text.isDecimal character = true) :
    Text.digitValues true digits = some (digits.filterMap Text.decimalValue?) ∧
      (digits.filterMap Text.decimalValue?).length = digits.length := by
  induction digits with
  | nil => exact ⟨rfl, rfl⟩
  | cons first rest inductionHypothesis =>
    obtain ⟨head, tail⟩ := List.forall_mem_cons.mp decimal
    obtain ⟨value, known⟩ := Option.isSome_iff_exists.mp head
    obtain ⟨values, counted⟩ := inductionHypothesis tail
    rw [List.filterMap_cons_some known]
    constructor
    · simp [Text.digitValues, known, values]
    · rw [List.length_cons, List.length_cons, counted]

/-- The number of a token, unless it has too many digits. -/
theorem Numeral.tokenIndex {digits : List Char} (numeral : Numeral digits) :
    Sql.tokenIndex digits =
      if Text.longestNumeral < digits.length then .error (.tooLong digits.length)
      else .ok (Text.ofDigits (digits.filterMap Text.decimalValue?)) := by
  obtain ⟨full, decimal⟩ := numeral
  have inside : ∀ character ∈ digits, Text.inNumeral character = true := by
    intro character member
    rw [Text.inNumeral, decimal character member, Bool.true_or]
  have values : Text.digitValues false digits = some (digits.filterMap Text.decimalValue?) := by
    obtain ⟨first, rest, rfl⟩ := List.exists_cons_of_ne_nil full
    obtain ⟨value, known⟩ := Option.isSome_iff_exists.mp (decimal first List.mem_cons_self)
    have read := (digitValues_decimal decimal).1
    rw [Text.digitValues, known] at read ⊢
    exact read
  rw [Sql.tokenIndex, Text.readDigits, List.takeWhile_eq_self_iff.mpr inside,
    List.dropWhile_eq_nil_iff.mpr inside, values]
  simp only [(digitValues_decimal decimal).2]
  rfl

/-! ## Steps of a scan -/

section

variable {tokens : Tokens} {delimiters : List Delimiter} {first : Char} {rest : List Char}

/-- A quote opens a span. -/
theorem pieces_span {closing : Option Char} (opens : closingFor? delimiters first = some closing) :
    pieces tokens delimiters (first :: rest) =
      .span (first :: (splitSpan (escapesIn first) closing rest).1) ::
        pieces tokens delimiters (splitSpan (escapesIn first) closing rest).2 := by
  rw [pieces, opens]

/-- A placeholder is found where it is looked for. -/
theorem pieces_placeholder (free : closingFor? delimiters '?' = none)
    (sought : tokens.placeholders = true) :
    pieces tokens delimiters ('?' :: rest) = .placeholder :: pieces tokens delimiters rest := by
  rw [pieces, free]
  simp [sought]

/-- A subquery token is found where it is looked for. -/
theorem pieces_subquery {digits after : List Char} (free : closingFor? delimiters '{' = none)
    (sought : tokens.subqueries = true) (found : splitToken rest = some (digits, after)) :
    pieces tokens delimiters ('{' :: rest) =
      .subquery digits :: pieces tokens delimiters after := by
  rw [pieces, free]
  dsimp only
  rw [if_neg (by simp), if_pos (by simp [sought])]
  split
  case h_1 others behind known =>
    rw [found] at known
    cases known
    rfl
  case h_2 missing =>
    rw [found] at missing
    cases missing

/-- Any other character is a piece of its own. -/
theorem pieces_other (free : closingFor? delimiters first = none)
    (unmarked : (tokens.placeholders && first = '?') = false)
    (untold : tokens.subqueries = true → first = '{' → splitToken rest = none) :
    pieces tokens delimiters (first :: rest) = .other first :: pieces tokens delimiters rest := by
  rw [pieces, free]
  dsimp only
  rw [if_neg (by simp [unmarked])]
  split
  case isTrue brace =>
    obtain ⟨sought, same⟩ := Bool.and_eq_true_iff.mp brace
    have missing := untold sought (of_decide_eq_true same)
    split
    case h_1 found =>
      rw [missing] at found
      cases found
    case h_2 => rfl
  case isFalse => rfl

end

/-! ## The division of a text -/

/-- The pieces that a text is divided into, from left to right. -/
inductive Division (delimiters : List Delimiter) : List Char → List Piece → Prop where
  | nil : Division delimiters [] []
  | span {opening closing : Char} {inside following : List Char} {others : List Piece}
      (opens : closingFor? delimiters opening = some (some closing))
      (closes : Closes (escapesIn opening) closing inside following)
      (rest : Division delimiters following others) :
      Division delimiters (opening :: inside ++ following) (.span (opening :: inside) :: others)
  | placeholder {following : List Char} {others : List Piece}
      (rest : Division delimiters following others) :
      Division delimiters ('?' :: following) (.placeholder :: others)
  | subquery {digits following : List Char} {others : List Piece} (numeral : Numeral digits)
      (rest : Division delimiters following others) :
      Division delimiters ('{' :: digits ++ '}' :: following) (.subquery digits :: others)
  | other {character : Char} {following : List Char} {others : List Piece}
      (opensNone : closingFor? delimiters character = none) (unmarked : character ≠ '?')
      (untold : character = '{' → ∀ digits after, Numeral digits →
        following ≠ digits ++ '}' :: after)
      (rest : Division delimiters following others) :
      Division delimiters (character :: following) (.other character :: others)

section

variable {delimiters : List Delimiter}

/-- A scan that looks for all tokens divides the text. -/
theorem division_pieces (plain : ∀ delimiter ∈ delimiters, delimiter.Plain)
    (characters : List Char) :
    Division delimiters characters (pieces {} delimiters characters) := by
  fun_induction pieces {} delimiters characters with
  | case1 => exact .nil
  | case2 first rest closing opens inductionHypothesis =>
    obtain ⟨-, quote, rfl, -⟩ := closingFor?_plain plain opens
    have divided := Division.span opens (closes_splitSpan (escapesIn first) quote rest)
      inductionHypothesis
    rwa [List.cons_append, splitSpan_append] at divided
  | case3 first rest free mark inductionHypothesis =>
    obtain rfl := of_decide_eq_true (Bool.and_eq_true_iff.mp mark).2
    exact .placeholder inductionHypothesis
  | case4 first rest free noMark brace digits after found inductionHypothesis =>
    obtain rfl := of_decide_eq_true (Bool.and_eq_true_iff.mp brace).2
    obtain ⟨numeral, rfl⟩ := splitToken_eq_some.mp found
    exact .subquery numeral inductionHypothesis
  | case5 first rest free noMark brace missing inductionHypothesis =>
    refine .other free ?_ ?_ inductionHypothesis
    · rintro rfl
      exact noMark rfl
    · rintro - digits after numeral rfl
      rw [splitToken_eq_some.mpr ⟨numeral, rfl⟩] at missing
      cases missing
  | case6 first rest free noMark noBrace inductionHypothesis =>
    refine .other free ?_ ?_ inductionHypothesis
    · rintro rfl
      exact noMark rfl
    · rintro rfl
      exact absurd rfl noBrace

/-- What a scan finds of a piece that looks for some tokens only: the characters of the others. -/
def Piece.sought (tokens : Tokens) : Piece → List Piece
  | placeholder => if tokens.placeholders then [placeholder] else [other '?']
  | subquery digits =>
    if tokens.subqueries then [subquery digits] else (subquery digits).text.map other
  | span characters => [span characters]
  | other character => [other character]

/-- A scan for all tokens finds the piece. -/
theorem Piece.sought_all (piece : Piece) : piece.sought {} = [piece] := by
  cases piece <;> rfl

/-- Whatever tokens a scan looks for, it finds the pieces of a division. -/
theorem Division.pieces_eq (plain : ∀ delimiter ∈ delimiters, delimiter.Plain) (tokens : Tokens)
    {characters : List Char} {found : List Piece}
    (division : Division delimiters characters found) :
    pieces tokens delimiters characters = found.flatMap (Piece.sought tokens) := by
  induction division with
  | nil => simp [pieces]
  | @span opening closing inside following others opens closes rest inductionHypothesis =>
    obtain ⟨-, quote, same, isQuote⟩ := closingFor?_plain plain opens
    obtain rfl := Option.some.inj same
    have other : closing ≠ '\\' := by
      rintro rfl
      exact absurd isQuote (by decide)
    rw [List.cons_append, pieces_span opens, closes.splitSpan other, inductionHypothesis]
    rfl
  | placeholder rest inductionHypothesis =>
    have free : closingFor? delimiters '?' = none := closingFor?_eq_none plain (by decide)
    rw [List.flatMap_cons, ← inductionHypothesis, Piece.sought]
    split
    case isTrue sought => exact pieces_placeholder free sought
    case isFalse unsought =>
      apply pieces_other free (by simp [unsought])
      intro _ wrong
      cases wrong
  | @subquery digits following others numeral rest inductionHypothesis =>
    have free : closingFor? delimiters '{' = none := closingFor?_eq_none plain (by decide)
    rw [List.flatMap_cons, ← inductionHypothesis, Piece.sought]
    split
    case isTrue sought =>
      exact pieces_subquery free sought (splitToken_eq_some.mpr ⟨numeral, rfl⟩)
    case isFalse unsought =>
      have textual : tokens.subqueries = false := Bool.of_not_eq_true unsought
      have shape : '{' :: digits ++ '}' :: following =
          (Piece.subquery digits).text ++ following := by simp [Piece.text]
      rw [shape]
      apply pieces_plain textual
      intro character member
      have outside := numeral.isQuote_eq_false member
      refine ⟨closingFor?_eq_none plain outside.1, outside.2⟩
  | @other character following others opensNone unmarked untold rest inductionHypothesis =>
    rw [List.flatMap_cons, ← inductionHypothesis]
    apply pieces_other opensNone (by simp [unmarked])
    intro _ brace
    exact splitToken_eq_none (untold brace)

/-- There is no other division than what a scan for all tokens finds. -/
theorem Division.eq_pieces (plain : ∀ delimiter ∈ delimiters, delimiter.Plain)
    {characters : List Char} {found : List Piece}
    (division : Division delimiters characters found) :
    found = pieces {} delimiters characters := by
  rw [division.pieces_eq plain, funext Piece.sought_all, List.flatMap_singleton']

/-- Scans that look for some tokens only find the same division as one that looks for all. -/
theorem pieces_sought (plain : ∀ delimiter ∈ delimiters, delimiter.Plain) (tokens : Tokens)
    (characters : List Char) : pieces tokens delimiters characters =
      (pieces {} delimiters characters).flatMap (Piece.sought tokens) :=
  (division_pieces plain characters).pieces_eq plain tokens

/-- The digits of subquery tokens are digits. -/
theorem Division.numeral {characters : List Char} {found : List Piece} {digits : List Char}
    (division : Division delimiters characters found) (member : .subquery digits ∈ found) :
    Numeral digits := by
  induction division with
  | nil => cases member
  | subquery numeral rest inductionHypothesis =>
    rcases List.mem_cons.mp member with same | later
    · cases same
      exact numeral
    · exact inductionHypothesis later
  | span _ _ _ inductionHypothesis | placeholder _ inductionHypothesis
  | other _ _ _ _ inductionHypothesis =>
    rcases List.mem_cons.mp member with wrong | later
    · cases wrong
    · exact inductionHypothesis later

end

/-! ## Substitution -/

/-- What is done to the value at the end does not matter to what runs before it. -/
theorem map_iterate {m : Type → Type} [Monad m] [LawfulMonad m] {α β : Type}
    (change : α → β) (effect : m Unit) (times : Nat) (last : m α) :
    change <$> (effect *> ·)^[times] last = (effect *> ·)^[times] (change <$> last) := by
  have step : Function.Semiconj (change <$> ·) (effect *> · : m α → m α) (effect *> ·) := by
    intro computation
    simp [seqRight_eq_bind]
  exact step.iterate_right times last

section

variable {m : Type → Type} [Monad m] [MonadExceptOf Failure m]

/-- What stands in the place of a piece: what its callback returns, or its text. -/
def Piece.replacement (placeholder? : Option (m String)) (subquery? : Option (Nat → m String)) :
    Piece → m String
  | placeholder => placeholder?.getD (pure "?")
  | subquery digits =>
    match subquery? with
    | some callback => numbered callback digits
    | none => pure (String.ofList (subquery digits).text)
  | span characters => pure (String.ofList characters)
  | other character => pure (String.singleton character)

variable [LawfulMonad m] {delimiters : List Delimiter}

/-- What a scan finds of a piece is replaced as the piece is. -/
theorem replaceM_sought (placeholder? : Option (m String)) (subquery? : Option (Nat → m String))
    (piece : Piece) (rest : List Piece) :
    let replace := replaceM (placeholder?.getD (pure "?"))
      (numbered (subquery?.getD fun _ => pure ""))
    let tokens : Tokens := {
      placeholders := placeholder?.isSome
      subqueries := subquery?.isSome }
    replace (piece.sought tokens ++ rest) =
      (do
        let text ← piece.replacement placeholder? subquery?
        let others ← replace rest
        pure (text.toList ++ others)) := by
  intro replace tokens
  cases piece with
  | span characters => simp [replace, Piece.sought, Piece.replacement, replaceM, Piece.text]
  | placeholder =>
    cases placeholder? with
    | none => simp [replace, tokens, Piece.sought, Piece.replacement, replaceM, Piece.text]
    | some callback => simp [replace, tokens, Piece.sought, Piece.replacement, replaceM]
  | subquery digits =>
    cases subquery? with
    | none => simp [replace, tokens, Piece.sought, Piece.replacement, replaceM_plain]
    | some callback => simp [replace, tokens, Piece.sought, Piece.replacement, replaceM]
  | other character => simp [replace, Piece.sought, Piece.replacement, replaceM, Piece.text]

/-- The pieces of a division are replaced one after the other. -/
theorem replaceM_flatMap_sought (placeholder? : Option (m String))
    (subquery? : Option (Nat → m String)) (found : List Piece) :
    let tokens : Tokens := {
      placeholders := placeholder?.isSome
      subqueries := subquery?.isSome }
    replaceM (placeholder?.getD (pure "?")) (numbered (subquery?.getD fun _ => pure ""))
        (found.flatMap (Piece.sought tokens)) =
      (fun texts => texts.flatMap String.toList) <$>
        found.mapM (Piece.replacement placeholder? subquery?) := by
  intro tokens
  induction found with
  | nil => simp [replaceM]
  | cons piece rest inductionHypothesis =>
    rw [List.flatMap_cons, replaceM_sought, inductionHypothesis, List.mapM_cons]
    simp

/-- Substitution goes through the division of the text once and puts together what stands in the
place of each piece. -/
theorem substitute_eq (plain : ∀ delimiter ∈ delimiters, delimiter.Plain)
    (placeholder? : Option (m String)) (subquery? : Option (Nat → m String)) (text : String) :
    substitute delimiters placeholder? subquery? text = String.join <$>
      (pieces {} delimiters text.toList).mapM (Piece.replacement placeholder? subquery?) := by
  rw [substitute, pieces_sought plain, replaceM_flatMap_sought]
  have joined : ∀ texts : List String, String.ofList (texts.flatMap String.toList) =
      String.join texts := by
    intro texts
    rw [← String.toList_join, String.ofList_toList]
  simp only [bind_pure_comp, Functor.map_map, joined]

/-- The texts of the pieces are the text. -/
theorem join_pieces (tokens : Tokens) (delimiters : List Delimiter) (text : String) :
    String.join ((pieces tokens delimiters text.toList).map fun piece =>
      String.ofList piece.text) = text := by
  rw [← String.toList_inj, String.toList_join, List.flatMap_map]
  simp only [String.toList_ofList]
  exact flatMap_text_pieces tokens delimiters text.toList

/-- Without callbacks a text stays as it is. -/
theorem substitute_none (plain : ∀ delimiter ∈ delimiters, delimiter.Plain) (text : String) :
    substitute delimiters none none text = (pure text : m String) := by
  have kept : ∀ piece : Piece, piece.replacement none none =
      (pure (String.ofList piece.text) : m String) := by
    intro piece
    cases piece <;> rfl
  rw [substitute_eq plain, funext kept, List.mapM_pure, map_pure, join_pieces]

/-- With a callback that returns a question mark the pieces are replaced by their texts, and the
callback has run once for each placeholder. -/
theorem mapM_same (effect : m Unit) (found : List Piece) :
    found.mapM (Piece.replacement (some (effect *> pure "?")) none) =
      (effect *> ·)^[found.count .placeholder]
        (pure (found.map fun piece => String.ofList piece.text)) := by
  induction found with
  | nil => simp
  | cons piece rest inductionHypothesis =>
    have cons : ∀ text : String, (do
        let others ← rest.mapM (Piece.replacement (some (effect *> pure "?")) none)
        pure (text :: others)) = (effect *> ·)^[rest.count .placeholder]
          (pure (text :: rest.map fun piece => String.ofList piece.text)) := by
      intro text
      rw [inductionHypothesis, bind_pure_comp, map_iterate, map_pure]
    rw [List.mapM_cons, List.map_cons]
    cases piece with
    | placeholder =>
      rw [List.count_cons_self, Function.iterate_succ_apply', ← cons]
      simp [Piece.replacement, Piece.text, seqRight_eq_bind]
    | span characters | subquery digits | other character =>
      rw [List.count_cons_of_ne (by simp), ← cons]
      simp [Piece.replacement, Piece.text]

/-- So the text stays as it is. -/
theorem substitute_same (plain : ∀ delimiter ∈ delimiters, delimiter.Plain) (effect : m Unit)
    (text : String) :
    substitute delimiters (some (effect *> pure "?")) none text =
      (effect *> ·)^[(pieces {} delimiters text.toList).count .placeholder] (pure text) := by
  rw [substitute_eq plain, mapM_same, map_iterate, map_pure, join_pieces]

end

/-- The placeholders that are counted are those of the division. -/
theorem countPlaceholders_eq {delimiters : List Delimiter}
    (plain : ∀ delimiter ∈ delimiters, delimiter.Plain) (text : String) :
    countPlaceholders delimiters text =
      (pieces {} delimiters text.toList).count .placeholder := by
  rw [countPlaceholders, pieces_sought plain]
  induction pieces {} delimiters text.toList with
  | nil => rfl
  | cons piece rest inductionHypothesis =>
    rw [List.flatMap_cons, List.filter_append, List.length_append, inductionHypothesis,
      List.count_cons]
    cases piece with
    | span characters => simp [Piece.sought]
    | placeholder => simp [Piece.sought, Nat.add_comm]
    | subquery digits => simp [Piece.sought]
    | other character => simp [Piece.sought]

/-- Callbacks for subqueries do not matter where none is found. -/
theorem replaceM_congr {m : Type → Type} [Monad m] {placeholder : m String}
    {subquery other : List Char → m String} {found : List Piece}
    (same : ∀ digits, .subquery digits ∈ found → subquery digits = other digits) :
    replaceM placeholder subquery found = replaceM placeholder other found := by
  induction found with
  | nil => rfl
  | cons piece rest inductionHypothesis =>
    have later := inductionHypothesis fun digits member =>
      same digits (List.mem_cons_of_mem piece member)
    cases piece with
    | subquery digits =>
      simp only [replaceM, later, same digits List.mem_cons_self]
    | span characters | placeholder | other character => simp only [replaceM, later]

/-- Without a callback for subqueries none are found, whatever stands in for it. -/
theorem substitute_placeholders {m : Type → Type} [Monad m] [LawfulMonad m]
    [MonadExceptOf Failure m] (delimiters : List Delimiter) (placeholder : m String)
    (subquery : List Char → m String) (text : String) :
    substitute delimiters (some placeholder) none text = String.ofList <$>
      replaceM placeholder subquery
        (pieces { subqueries := false } delimiters text.toList) := by
  have same : replaceM placeholder subquery
      (pieces { subqueries := false } delimiters text.toList) =
    replaceM placeholder (numbered fun _ => pure "")
      (pieces { subqueries := false } delimiters text.toList) :=
    replaceM_congr fun _ member => absurd member not_subquery_mem_pieces
  rw [same, map_eq_pure_bind]
  rfl

end Sql

/-! ## Clauses and statements -/

/-- The text in the place of the subquery with this number. -/
def emitNumbered (subqueries : List (Reporting Statement)) (index : Nat) : Emitting String :=
  match subqueries[index]? with
  | none => .refuse (.validation
      ("subquery token \x7b" ++ toString index ++ "\x7d has no matching SUBQUERIES entry (" ++
        toString subqueries.length ++ " given)")
      "SUBQUERIES" .null .argumentMismatch)
  | some compiled => do
    let statement ← compiled
    modify fun binding => { binding with
      parameters := binding.parameters ++ statement.parameters
      used := binding.used ++ [index] }
    pure ("(" ++ statement.sql ++ ")")

/-- A subquery token is emitted by its number. -/
theorem emitSubquery_eq (subqueries : List (Reporting Statement)) :
    emitSubquery subqueries = Sql.numbered (emitNumbered subqueries) := by
  funext digits
  unfold emitSubquery Sql.numbered
  cases Sql.tokenIndex digits with
  | error fault => cases fault <;> rfl
  | ok index => rfl

/-- A clause is emitted by substitution. -/
theorem emitClause_eq (dialect : Dialect) (clause : String) (use : PlaceholderUse)
    (subqueries? : Option (List (Reporting Statement))) (text : String) :
    emitClause dialect clause use subqueries? text =
      Sql.substitute dialect.table.quotedSpans (some (emitPlaceholder dialect clause use))
        (subqueries?.map emitNumbered) text := by
  cases subqueries? with
  | some subqueries =>
    unfold emitClause
    rw [Option.getD_some, emitSubquery_eq]
    rfl
  | none =>
    rw [Option.map_none, Sql.substitute_placeholders _ _ (emitSubquery []), map_eq_pure_bind]
    rfl

/-- The marks of a driver are put in by substitution, behind doubled percent signs where these are
marks. -/
theorem replaceMarkers_eq {style : MarkerStyle} (other : style ≠ .question)
    (delimiters : List Sql.Delimiter) (parameters : Nat) (sql : String) :
    replaceMarkers style delimiters parameters sql =
      Prod.fst <$> (Sql.substitute delimiters (some (nextMarker style parameters)) none
        (if style.usesPercent then String.ofList (doubledPercent sql.toList) else sql)).run 0 := by
  have prepared : (if style.usesPercent then doubledPercent sql.toList else sql.toList) =
      (if style.usesPercent then String.ofList (doubledPercent sql.toList) else sql).toList := by
    split
    · rw [String.toList_ofList]
    · rfl
  unfold replaceMarkers
  rw [if_neg other, prepared]
  rw [Sql.substitute_placeholders _ _ fun _ => pure "", StateT.run_map]
  simp

/-! ## Main results -/

/-- The quotes of the built-in dialects are plain. -/
theorem Family.plain_quotedSpans (family : Family) :
    ∀ delimiter ∈ family.dialect.table.quotedSpans, delimiter.Plain := by
  have known : ∀ delimiter ∈ family.dialect.table.quotedSpans,
      delimiter ∈ Sql.standardDelimiters ++ [⟨"\x60", "\x60"⟩, ⟨"[", "]"⟩] := by
    cases family <;> decide
  intro delimiter member
  have listed := known delimiter member
  simp only [Sql.standardDelimiters, List.cons_append, List.nil_append, List.mem_cons,
    List.not_mem_nil, or_false] at listed
  rcases listed with rfl | rfl | rfl | rfl
  · exact ⟨⟨'\'', rfl, by decide⟩, ⟨'\'', rfl, by decide⟩⟩
  · exact ⟨⟨'"', rfl, by decide⟩, ⟨'"', rfl, by decide⟩⟩
  · exact ⟨⟨'\x60', rfl, by decide⟩, ⟨'\x60', rfl, by decide⟩⟩
  · exact ⟨⟨'[', rfl, by decide⟩, ⟨']', rfl, by decide⟩⟩

namespace Sql

/-- Where all quotes are plain, a text has one division into spans, placeholders, subquery tokens
and other characters, and the texts of its pieces are the text. Substitution goes through it for all
callbacks: each token is replaced by what its callback returns, one call for each of them from left
to right, every other piece and every token without a callback stands as it is, and the results are
put together. So without callbacks, or with one that returns a question mark, the text stays as it
is, and the count of placeholders is that of the division. The number of a subquery token is read
before its callback is called; a token with too many digits fails there.

Proof: a scan for all tokens divides the text, and every division is what it finds, as each rule is
one step of it. A scan for fewer tokens finds the characters of the others instead, since these open
no spans; they are put together again to the text of their token. -/
theorem texts_tokenized {delimiters : List Delimiter}
    (plain : ∀ delimiter ∈ delimiters, delimiter.Plain) (text : String) :
    ∃ division : List Piece,
      (∀ other, Division delimiters text.toList other ↔ other = division) ∧
      division.flatMap Piece.text = text.toList ∧
      (∀ digits, .subquery digits ∈ division → Numeral digits ∧
        tokenIndex digits =
          if Text.longestNumeral < digits.length then .error (.tooLong digits.length)
          else .ok (Text.ofDigits (digits.filterMap Text.decimalValue?))) ∧
      (∀ (m : Type → Type) [Monad m] [LawfulMonad m] [MonadExceptOf Failure m],
        (∀ (placeholder? : Option (m String)) (subquery? : Option (Nat → m String)),
          substitute delimiters placeholder? subquery? text =
            String.join <$> division.mapM (Piece.replacement placeholder? subquery?)) ∧
        substitute delimiters none none text = (pure text : m String) ∧
        ∀ effect : m Unit, substitute delimiters (some (effect *> pure "?")) none text =
          (effect *> ·)^[division.count .placeholder] (pure text)) ∧
      countPlaceholders delimiters text = division.count .placeholder := by
  have division := division_pieces plain text.toList
  refine ⟨pieces {} delimiters text.toList, ?_, flatMap_text_pieces _ _ _, ?_, ?_,
    countPlaceholders_eq plain text⟩
  · intro other
    constructor
    · exact Division.eq_pieces plain
    · rintro rfl
      exact division
  · intro digits member
    have numeral := division.numeral member
    exact ⟨numeral, numeral.tokenIndex⟩
  · intro m _ _ _
    refine ⟨?_, substitute_none plain text, ?_⟩
    · intro placeholder? subquery?
      exact substitute_eq plain placeholder? subquery? text
    · intro effect
      exact substitute_same plain effect text

/-- A clause with a placeholder, two kinds of spans, and a subquery token. -/
def noteClause : String := "a = ? AND b = 'it''s \\'{0}?' AND [c?] IN {12}"

/-- Numbers placeholders, and shows subqueries by their numbers. -/
def numberedMark : StateT Nat (Except Failure) String := do
  let position ← getModify (· + 1)
  pure ("$" ++ toString position)

theorem noteClause_tokenized :
    (∀ delimiter ∈ Family.sqlite.dialect.table.quotedSpans, delimiter.Plain) ∧
    ∃ division : List Piece,
      (∀ other, Division Family.sqlite.dialect.table.quotedSpans noteClause.toList other ↔
        other = division) ∧
      division.count .placeholder = 1 ∧
      ((String.join <$> division.mapM (Piece.replacement (some numberedMark)
          (some fun index => pure ("(" ++ toString index ++ ")")))).run 1).toOption =
        some ("a = $1 AND b = 'it''s \\'{0}?' AND [c?] IN (12)", 2) := by
  have plain := Family.plain_quotedSpans .sqlite
  obtain ⟨division, only, -, -, replaced, counted⟩ := texts_tokenized plain noteClause
  refine ⟨plain, division, only, ?_, ?_⟩
  · rw [← counted]
    decide +kernel
  · rw [← (replaced _).1]
    decide +kernel

/-- A text that is a subquery token with so many zeros. -/
def zeroToken (count : Nat) : String :=
  String.ofList ('{' :: List.replicate count '0' ++ ['}'])

/-- A token with too many zeros is one piece of its text. -/
theorem zeroToken_divided {count : Nat} (long : Text.longestNumeral < count) :
    Numeral (List.replicate count '0') ∧
      Division standardDelimiters (zeroToken count).toList
        [.subquery (List.replicate count '0')] := by
  have numeral : Numeral (List.replicate count '0') := by
    constructor
    · intro none
      have short := congrArg List.length none
      rw [List.length_replicate, List.length_nil] at short
      omega
    · intro character member
      rw [List.eq_of_mem_replicate member]
      decide
  refine ⟨numeral, ?_⟩
  rw [zeroToken, String.toList_ofList]
  exact .subquery numeral .nil

/-- No callback is called for it. -/
theorem zeroToken_refused {count : Nat} (long : Text.longestNumeral < count)
    (callback : Nat → Except Failure String) :
    substitute standardDelimiters none (some callback) (zeroToken count) =
      .error ((Text.NumeralFault.tooLong count).failure "") := by
  have plain : ∀ delimiter ∈ standardDelimiters, delimiter.Plain :=
    Family.plain_quotedSpans .postgresql
  obtain ⟨numeral, division⟩ := zeroToken_divided long
  have told : ∀ shown, (Text.NumeralFault.tooLong count).failure shown =
      (Text.NumeralFault.tooLong count).failure "" := fun _ => rfl
  have refused : numbered callback (List.replicate count '0') =
      .error ((Text.NumeralFault.tooLong count).failure "") := by
    rw [numbered, numeral.tokenIndex, List.length_replicate, if_pos long]
    exact congrArg Except.error (told _)
  rw [substitute_eq plain, ← division.eq_pieces plain, List.mapM_cons, Piece.replacement, refused]
  rfl

/-- A token with 4301 zeros is one piece, but the number of it is not read, and the substitution
fails. -/
theorem longToken_refused :
    (∀ delimiter ∈ standardDelimiters, delimiter.Plain) ∧
    Division standardDelimiters (zeroToken 4301).toList [.subquery (List.replicate 4301 '0')] ∧
    substitute standardDelimiters none (some fun index => .ok ("q" ++ toString index))
        (zeroToken 4301) =
      (.error (.fault .badValue ("Exceeds the limit (4300 digits) for integer string " ++
        "conversion: value has 4301 digits; use sys.set_int_max_str_digits() to increase the " ++
        "limit")) : Except Failure String) := by
  have long : Text.longestNumeral < 4301 := by decide
  exact ⟨Family.plain_quotedSpans .postgresql, (zeroToken_divided long).2,
    zeroToken_refused long _⟩

end Sql

end PortableSql
