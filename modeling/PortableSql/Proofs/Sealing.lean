import Mathlib
import PortableSql.Proofs.Marking
import PortableSql.Proofs.Quoting

/-!
# Quotations under a scan

Between single and double quotes a scan reads backslashes as escapes, in every dialect. Names keep
their backslashes, and literals double them only where the dialect itself reads escapes. So a scan
sees a quotation as one, and what follows it as if it stood alone, exactly when no backslash that
the scan takes for an escape stands before a quote or at the end of what is quoted.

Where one does, the scan takes the quote for a character and goes astray: from there on it is
outside where the quotation is inside, and it ends inside of a span.
-/

namespace PortableSql

namespace Sql

/-- Read from the left, no backslash that escapes stands before the closing quote or at the
end. -/
def quotable (escapes : Bool) (closing : Char) : List Char → Bool
  | [] => true
  | [last] => !(escapes && last = '\\')
  | first :: second :: rest =>
    if escapes && first = '\\' then second ≠ closing && quotable escapes closing rest
    else quotable escapes closing (second :: rest)

/-- Without escapes everything can be quoted. -/
theorem quotable_unescaped (closing : Char) (characters : List Char) :
    quotable false closing characters = true := by
  fun_induction quotable false closing characters <;> simp_all

/-- Doubled backslashes escape each other. -/
theorem quotable_doubled {closing : Char} (other : closing ≠ '\\') (characters : List Char) :
    quotable true closing (doubled ['\\'] characters) = true := by
  rw [doubled_singleton]
  induction characters with
  | nil => rfl
  | cons first rest inductionHypothesis =>
    rw [List.flatMap_cons]
    by_cases escape : first = '\\'
    · simp [escape, quotable, other.symm, inductionHypothesis]
    · rw [if_neg escape, List.singleton_append]
      generalize rest.flatMap _ = following at inductionHypothesis ⊢
      cases following with
      | nil => simp [quotable, escape]
      | cons second others => simpa [quotable, escape] using inductionHypothesis

/-- Nothing is recognised in the text, and behind it and a space a scan recognises what it
recognises without it. -/
def Sealed (delimiters : List Delimiter) (text : List Char) : Prop :=
  ∀ tokens following, ∃ found : List Piece, (∀ piece ∈ found, piece.IsText) ∧
    found.flatMap Piece.text = text ∧
    pieces tokens delimiters (text ++ ' ' :: following) =
      found ++ pieces tokens delimiters (' ' :: following)

/-- Characters between quotes, with the closing quote doubled among them. -/
def quotation (opening closing : Char) (characters : List Char) : List Char :=
  opening :: doubled [closing] characters ++ [closing]

/-- The quotes of a delimiter. -/
structure Quotes (delimiters : List Delimiter) (opening closing : Char) : Prop where
  opens : closingFor? delimiters opening = some (some closing)
  unescaping : closing ≠ '\\'
  /-- Nothing else is closed like this. -/
  same : ∀ other, closingFor? delimiters other = some (some closing) → other = opening
  /-- Where backslashes escape, both quotes are the same. -/
  symmetric : escapesIn opening = true → opening = closing

/-- A span ends where its quotation ends, if what is quoted can be quoted. -/
theorem splitSpan_quotation {escapes : Bool} {closing : Char} (other : closing ≠ '\\')
    {characters : List Char} (quotes : quotable escapes closing characters = true)
    {following : List Char} (apart : following.head? ≠ some closing) :
    splitSpan escapes (some closing) (doubled [closing] characters ++ closing :: following) =
      (doubled [closing] characters ++ [closing], following) := by
  have ends : splitSpan escapes (some closing) (closing :: following) = ([closing], following) :=
    splitSpan_closing other apart
  rw [doubled_singleton]
  fun_induction quotable escapes closing characters with
  | case1 => simpa using ends
  | case2 last =>
    by_cases closes : last = closing
    · simp [closes, splitSpan, ends]
    · have unescaped : (escapes && decide (last = '\\')) = false := by
        rwa [Bool.not_eq_true'] at quotes
      simp [closes, splitSpan_inside unescaped, ends]
  | case3 first second rest escape inductionHypothesis =>
    simp only [Bool.and_eq_true, decide_eq_true_eq] at escape quotes
    obtain ⟨rfl, rfl⟩ := escape
    obtain ⟨single, quotes⟩ := quotes
    have following := inductionHypothesis quotes
    simp [other.symm, single, splitSpan, following]
  | case4 first second rest unescaped inductionHypothesis =>
    have unescaping : (escapes && decide (first = '\\')) = false := by simpa using unescaped
    have following := inductionHypothesis quotes
    rw [List.flatMap_cons]
    by_cases closes : first = closing
    · simp only [closes, if_true, List.cons_append, List.nil_append, splitSpan, decide_true,
        Bool.and_self, Bool.or_true, following]
    · rw [if_neg closes, List.singleton_append, List.cons_append,
        splitSpan_inside unescaping (by simpa using closes), following]
      simp

section

variable {delimiters : List Delimiter} {opening closing : Char}

/-- A quotation is one piece. -/
theorem pieces_quotation (quotes : Quotes delimiters opening closing) {characters : List Char}
    (quoted : quotable (escapesIn opening) closing characters = true) (tokens : Tokens)
    {following : List Char} (apart : following.head? ≠ some closing) :
    pieces tokens delimiters (quotation opening closing characters ++ following) =
      .span (quotation opening closing characters) :: pieces tokens delimiters following := by
  have split := splitSpan_quotation quotes.unescaping quoted apart
  have shape : quotation opening closing characters ++ following =
      opening :: (doubled [closing] characters ++ closing :: following) := by
    simp [quotation]
  rw [shape, pieces, quotes.opens]
  simp [split, quotation]

/-- A quotation is sealed if what is quoted can be quoted. -/
theorem sealed_quotation (quotes : Quotes delimiters opening closing) (spaced : closing ≠ ' ')
    {characters : List Char} (quoted : quotable (escapesIn opening) closing characters = true) :
    Sealed delimiters (quotation opening closing characters) := fun tokens following =>
  ⟨[.span (quotation opening closing characters)], by simp [Piece.IsText], by simp [Piece.text],
    pieces_quotation quotes quoted tokens (by simpa using spaced.symm)⟩

/-- Quotations with dots between them are sealed if everything quoted can be quoted. -/
theorem sealed_dotted (quotes : Quotes delimiters opening closing) (spaced : closing ≠ ' ')
    (dotted : closing ≠ '.') (free : closingFor? delimiters '.' = none) {parts : List (List Char)}
    (full : parts ≠ [])
    (quoted : ∀ part ∈ parts, quotable (escapesIn opening) closing part = true) :
    Sealed delimiters (List.intercalate ['.'] (parts.map (quotation opening closing))) := by
  induction parts with
  | nil => exact absurd rfl full
  | cons part rest inductionHypothesis =>
    have first := quoted part List.mem_cons_self
    cases rest with
    | nil => simpa using sealed_quotation quotes spaced first
    | cons next others =>
      intro tokens following
      obtain ⟨found, texts, whole, divided⟩ := inductionHypothesis (List.cons_ne_nil next others)
        (fun other member => quoted other (List.mem_cons_of_mem part member)) tokens following
      refine ⟨.span (quotation opening closing part) :: .other '.' :: found, ?_, ?_, ?_⟩
      · simpa [Piece.IsText] using texts
      · simp [List.intercalate_cons_cons, Piece.text, whole]
      · rw [List.map_cons, List.map_cons, List.intercalate_cons_cons, List.append_assoc,
          List.append_assoc, pieces_quotation quotes first tokens (by simpa using dotted.symm)]
        simp only [List.map_cons] at divided
        rw [List.singleton_append, pieces, free]
        simp [divided]

end

namespace Mode

variable {delimiters : List Delimiter} {quote : Char}

/-- The scan is not inside of a span with these quotes; it went astray where a quotation with them
goes on. -/
def Astray (quote : Char) : Mode → Prop
  | outside | closed _ _ => True
  | inside opening _ | escaped opening _ => opening ≠ quote

/-- The scan is inside of a span; it is lost where a quotation has ended. -/
def Lost : Mode → Prop
  | inside _ _ => True
  | outside | closed _ _ | escaped _ _ => False

/-- Nothing but the quote opens a span with it. -/
theorem astray_opened {character : Char} (other : character ≠ quote) :
    (opened delimiters character).Astray quote := by
  unfold opened
  cases closingFor? delimiters character with
  | none => trivial
  | some closing => exact other

/-- Nothing but the quote leads back. -/
theorem Astray.step (quotes : Quotes delimiters quote quote) {mode : Mode}
    (proper : mode.Proper delimiters) (astray : mode.Astray quote) {character : Char}
    (other : character ≠ quote) : (mode.step delimiters character).Astray quote := by
  cases mode with
  | outside => exact astray_opened other
  | closed opening closing =>
    dsimp only [Mode.step]
    split
    · rename_i doubles
      rintro rfl
      have sameClosing := Option.some.inj (quotes.opens.symm.trans proper)
      exact other (Option.some.inj (doubles.trans sameClosing.symm))
    · exact astray_opened other
  | inside opening closing =>
    dsimp only [Mode.step]
    split
    · exact astray
    · split
      · trivial
      · exact astray
  | escaped opening closing => exact astray

/-- Where the quotation ends, the scan is lost. -/
theorem Astray.lost (quotes : Quotes delimiters quote quote) {mode : Mode}
    (proper : mode.Proper delimiters) (astray : mode.Astray quote) :
    (mode.step delimiters quote).Lost := by
  have opens : (opened delimiters quote).Lost := by simp [opened, quotes.opens, Lost]
  cases mode with
  | outside => exact opens
  | closed opening closing =>
    dsimp only [Mode.step]
    split
    · trivial
    · exact opens
  | inside opening closing =>
    have single : some quote ≠ closing := by
      rintro rfl
      exact astray (quotes.same opening proper)
    simp [Mode.step, quotes.unescaping, single, Lost]
  | escaped opening closing => trivial

/-- Where the next quotation begins, the scan goes astray. -/
theorem Lost.astray (quotes : Quotes delimiters quote quote) {mode : Mode}
    (proper : mode.Proper delimiters) (lost : mode.Lost) :
    (mode.step delimiters quote).Astray quote := by
  cases mode with
  | inside opening closing =>
    by_cases closes : some quote = closing
    · simp [Mode.step, quotes.unescaping, closes, Astray]
    · have apart : opening ≠ quote := by
        rintro rfl
        exact closes (Option.some.inj (quotes.opens.symm.trans proper))
      simp [Mode.step, quotes.unescaping, closes, Astray, apart]
  | outside | escaped _ _ | closed _ _ => cases lost

/-- What neither closes nor escapes leads nowhere. -/
theorem Lost.step {mode : Mode} (proper : mode.Proper delimiters) (lost : mode.Lost)
    {character : Char} (unescaping : character ≠ '\\')
    (unclosed : ∀ other, closingFor? delimiters other ≠ some (some character)) :
    (mode.step delimiters character).Lost := by
  cases mode with
  | inside opening closing =>
    have single : some character ≠ closing := by
      rintro rfl
      exact unclosed opening proper
    simp [Mode.step, unescaping, single, Lost]
  | outside | escaped _ _ | closed _ _ => cases lost

/-- The rest of a quotation does not lead back: its doubled quotes lead into a span and out of it
again. -/
theorem Astray.after_doubled (quotes : Quotes delimiters quote quote) {mode : Mode}
    (proper : mode.Proper delimiters) (astray : mode.Astray quote) (characters : List Char) :
    (mode.after delimiters (doubled [quote] characters)).Astray quote := by
  rw [doubled_singleton]
  induction characters generalizing mode with
  | nil => exact astray
  | cons first rest inductionHypothesis =>
    rw [List.flatMap_cons, after_append]
    refine inductionHypothesis (proper_after delimiters proper _) ?_
    by_cases closes : first = quote
    · rw [if_pos closes]
      exact (astray.lost quotes proper).astray quotes (proper_step delimiters proper quote)
    · rw [if_neg closes]
      exact astray.step quotes proper closes

/-- From where the scan is astray it is lost behind the quotation. -/
theorem Astray.after_rest (quotes : Quotes delimiters quote quote) {mode : Mode}
    (proper : mode.Proper delimiters) (astray : mode.Astray quote) (characters : List Char) :
    (mode.after delimiters (doubled [quote] characters ++ [quote])).Lost := by
  rw [after_append]
  exact (astray.after_doubled quotes proper characters).lost quotes
    (proper_after delimiters proper _)

/-- What cannot be quoted leaves the scan lost. -/
theorem lost_of_unquotable (quotes : Quotes delimiters quote quote)
    (escapes : escapesIn quote = true) {characters : List Char}
    (broken : quotable true quote characters = false) :
    ((inside quote (some quote)).after delimiters
      (doubled [quote] characters ++ [quote])).Lost := by
  have proper : (inside quote (some quote)).Proper delimiters := quotes.opens
  have other := quotes.unescaping
  fun_induction quotable true quote characters with
  | case1 => cases broken
  | case2 last =>
    obtain rfl : last = '\\' := by simpa using broken
    simp [doubled_singleton, other.symm, Mode.step, escapes, Lost]
  | case3 first second rest escape inductionHypothesis =>
    obtain rfl : first = '\\' := by simpa using escape
    by_cases closes : second = quote
    · -- The escape swallows the first of two quotes, and the second one ends the span.
      have astray : (closed quote (some quote)).Astray quote := trivial
      have proper : (closed quote (some quote)).Proper delimiters := quotes.opens
      have following := astray.after_rest quotes proper rest
      simpa [doubled_singleton, closes, other.symm, other, Mode.step, escapes] using following
    · have following := inductionHypothesis (by simpa [closes] using broken)
      simpa [doubled_singleton, closes, other.symm, Mode.step, escapes] using following
  | case4 first second rest plain inductionHypothesis =>
    have unescaping : first ≠ '\\' := by simpa using plain
    have following := inductionHypothesis broken
    by_cases closes : first = quote
    · rw [doubled_singleton] at following ⊢
      rw [List.flatMap_cons, if_pos closes]
      simpa [Mode.step, other] using following
    · rw [doubled_singleton] at following ⊢
      rw [List.flatMap_cons, if_neg closes]
      simpa [Mode.step, closes, unescaping] using following

/-- Behind a quotation of what can be quoted the scan stands behind a closing quote. -/
theorem after_quotation (quotes : Quotes delimiters quote quote) (dotted : quote ≠ '.')
    {characters : List Char} (quoted : quotable (escapesIn quote) quote characters = true) :
    outside.after delimiters (quotation quote quote characters) = closed quote (some quote) := by
  have enters : outside.step delimiters quote = inside quote (some quote) := by
    simp [Mode.step, opened, quotes.opens]
  have apart : (['.'] : List Char).head? ≠ some quote := by simpa using dotted.symm
  have stops := (span_scan delimiters quote (some quote)
    (doubled [quote] characters ++ quote :: ['.'])).2
  rw [splitSpan_quotation quotes.unescaping quoted apart] at stops
  rw [quotation, List.cons_append, after_cons, enters]
  exact (stops (List.cons_ne_nil _ _)).1

/-- Behind a quotation of what cannot be quoted the scan is lost. -/
theorem lost_of_quotation (quotes : Quotes delimiters quote quote)
    (escapes : escapesIn quote = true) {characters : List Char}
    (broken : quotable true quote characters = false) :
    (outside.after delimiters (quotation quote quote characters)).Lost := by
  have enters : outside.step delimiters quote = inside quote (some quote) := by
    simp [Mode.step, opened, quotes.opens]
  rw [quotation, List.cons_append, after_cons, enters]
  exact lost_of_unquotable quotes escapes broken

/-- Further quotations do not lead back. -/
theorem Lost.after_dotted (quotes : Quotes delimiters quote quote)
    (unclosed : ∀ other, closingFor? delimiters other ≠ some (some '.'))
    {parts : List (List Char)} (full : parts ≠ []) {mode : Mode}
    (proper : mode.Proper delimiters) (lost : mode.Lost) :
    (mode.after delimiters
      ('.' :: List.intercalate ['.'] (parts.map (quotation quote quote)))).Lost := by
  induction parts generalizing mode with
  | nil => exact absurd rfl full
  | cons part rest inductionHypothesis =>
    have behindDot := lost.step proper (by decide) unclosed
    have properDot := proper_step delimiters proper '.'
    have behind : ((mode.step delimiters '.').after delimiters
        (quotation quote quote part)).Lost := by
      rw [quotation, List.cons_append, after_cons]
      exact (behindDot.astray quotes properDot).after_rest quotes
        (proper_step delimiters properDot quote) part
    cases rest with
    | nil => simpa using behind
    | cons next others =>
      rw [List.map_cons, List.map_cons, List.intercalate_cons_cons, after_cons, List.append_assoc,
        after_append]
      exact inductionHypothesis (List.cons_ne_nil next others)
        (proper_after delimiters properDot _) behind

/-- Where one part cannot be quoted, the scan is lost behind the quotations. -/
theorem lost_of_dotted (quotes : Quotes delimiters quote quote) (escapes : escapesIn quote = true)
    (dotted : quote ≠ '.') (free : closingFor? delimiters '.' = none)
    (unclosed : ∀ other, closingFor? delimiters other ≠ some (some '.'))
    {parts : List (List Char)} (broken : ∃ part ∈ parts, quotable true quote part = false) :
    (outside.after delimiters
      (List.intercalate ['.'] (parts.map (quotation quote quote)))).Lost := by
  induction parts with
  | nil => simp at broken
  | cons part rest inductionHypothesis =>
    cases quoted : quotable true quote part with
    | false =>
      have behind := lost_of_quotation quotes escapes quoted
      cases rest with
      | nil => simpa using behind
      | cons next others =>
        rw [List.map_cons, List.map_cons, List.intercalate_cons_cons, List.append_assoc,
          after_append]
        exact behind.after_dotted quotes unclosed (List.cons_ne_nil next others)
          (proper_after delimiters (proper_outside delimiters) _)
    | true =>
      obtain ⟨later, member, brokenLater⟩ : ∃ later ∈ rest, quotable true quote later = false := by
        simpa [quoted] using broken
      have behind := after_quotation quotes dotted
        (by rwa [escapes] : quotable (escapesIn quote) quote part = true)
      have behindDot : (closed quote (some quote)).step delimiters '.' = outside := by
        simp [Mode.step, dotted.symm, opened, free]
      cases rest with
      | nil => cases member
      | cons next others =>
        rw [List.map_cons, List.map_cons, List.intercalate_cons_cons, List.append_assoc,
          after_append, behind, List.singleton_append, after_cons, behindDot]
        exact inductionHypothesis ⟨later, member, brokenLater⟩

end Mode

/-- Where a scan is lost behind a text, a placeholder that follows is not found. -/
theorem not_sealed_of_lost {delimiters : List Delimiter} {text : List Char}
    (free : ∀ character ∈ [' ', '?'], closingFor? delimiters character = none)
    (unclosed : ∀ other, closingFor? delimiters other ≠ some (some ' '))
    (lost : (Mode.outside.after delimiters text).Lost) : ¬Sealed delimiters text := by
  intro whole
  obtain ⟨found, -, -, divided⟩ := whole { subqueries := false } ['?']
  have alone : pieces { subqueries := false } delimiters [' ', '?'] =
      [.other ' ', .placeholder] := by
    simp [pieces, free]
  have unmarked : (Mode.outside.after delimiters text).flags delimiters [' ', '?'] =
      [false, false] := by
    have proper := Mode.proper_after delimiters (Mode.proper_outside delimiters) text
    have stays := lost.step proper (by decide : ' ' ≠ '\\') unclosed
    generalize Mode.outside.after delimiters text = mode at lost stays
    cases mode with
    | inside opening closing =>
      generalize reached : (Mode.inside opening closing).step delimiters ' ' = next at stays
      cases next with
      | inside _ _ => simp [reached]
      | outside | escaped _ _ | closed _ _ => cases stays
    | outside | escaped _ _ | closed _ _ => cases lost
  have scanned := flags_pieces delimiters (text ++ [' ', '?'])
  rw [divided, alone, Mode.flags_append, unmarked, List.flatMap_append] at scanned
  have last := (List.append_inj' scanned rfl).2
  simp [Piece.flags, Piece.text] at last

end Sql

/-- The literal of the value is a text between quotes. -/
def Value.isTextual : Value → Bool
  | .text _ | .date _ | .time _ | .datetime _ | .list _ | .tuple _ | .dictionary _ => true
  | .null | .bool _ | .int _ | .float _ | .decimal _ | .binary _ _ => false

/-- Such a literal is a quotation, with its backslashes doubled where they are escapes. -/
theorem Dialect.quoteLiteral_textual {dialect : Dialect} {value : Value}
    (textual : value.isTextual = true) :
    (dialect.quoteLiteral value).toList =
      Sql.quotation '\'' '\'' (if dialect.table.backslashEscapes then
        doubled ['\\'] value.plain.toList else value.plain.toList) := by
  cases value with
  | null | bool _ | int _ | float _ | decimal _ | binary _ _ => cases textual
  | text _ | date _ | time _ | datetime _ | list _ | tuple _ | dictionary _ =>
    simp [quoteLiteral, textLiteral, enclosed, Sql.quotation]

namespace Family

/-- The quotes of names. -/
theorem nameQuotes (family : Family) :
    Sql.Quotes family.dialect.table.quotedSpans family.quote.1 family.quote.2 where
  opens := family.quoting.opens
  unescaping := by cases family <;> decide
  same other closes := by
    have known := family.delimited closes
    cases family <;> simpa [quote] using known
  symmetric escapes := by cases family <;> first | rfl | exact absurd escapes (by decide)

/-- The quotes of literals. -/
theorem textQuotes (family : Family) :
    Sql.Quotes family.dialect.table.quotedSpans '\'' '\'' where
  opens := by cases family <;> decide
  unescaping := by decide
  same other closes := by simpa using family.delimited closes
  symmetric _ := rfl

/-- Characters that are no quotes open and close nothing. -/
theorem unquoted (family : Family) {character : Char} (plain : character ∉ quoteCharacters) :
    Sql.closingFor? family.dialect.table.quotedSpans character = none ∧
      ∀ other, Sql.closingFor? family.dialect.table.quotedSpans other ≠ some (some character) :=
  ⟨family.quoting.unopened character plain, family.quoting.unclosed character plain⟩

theorem not_sealed_of_lost (family : Family) {text : List Char}
    (lost : (Sql.Mode.outside.after family.dialect.table.quotedSpans text).Lost) :
    ¬Sql.Sealed family.dialect.table.quotedSpans text := by
  have plain : ∀ character ∈ [' ', '?'], character ∉ quoteCharacters := by simp [quoteCharacters]
  refine Sql.not_sealed_of_lost ?_ (family.unquoted (plain _ List.mem_cons_self)).2 lost
  exact fun character member => (family.unquoted (plain character member)).1

/-- A part of a name between the quotes of a built-in dialect is a quotation. -/
theorem enclosed_name (family : Family) :
    enclosed family.dialect.table.identifierQuote =
      Sql.quotation family.quote.1 family.quote.2 := by
  funext part
  have opening : family.dialect.table.identifierQuote.1.toList = [family.quote.1] :=
    family.quoting.openingText
  have closing : family.dialect.table.identifierQuote.2.toList = [family.quote.2] :=
    family.quoting.closingText
  rw [enclosed, opening, closing]
  rfl

/-- A quoted name is sealed exactly when all its parts can be quoted. -/
theorem sealed_name_iff (family : Family) {what name quoted : String}
    (ended : family.dialect.quoted what name = .ok quoted) :
    Sql.Sealed family.dialect.table.quotedSpans quoted.toList ↔
      ∀ part ∈ nameParts name,
        Sql.quotable (Sql.escapesIn family.quote.1) family.quote.2 part = true := by
  obtain ⟨free, unclosed⟩ := family.unquoted (by decide : '.' ∉ quoteCharacters)
  have dotted : family.quote.2 ≠ '.' := by cases family <;> decide
  rw [quoteName_ok ended, family.enclosed_name]
  constructor
  · intro whole
    by_contra broken
    push Not at broken
    obtain ⟨part, member, broken⟩ := broken
    rw [ne_eq, Bool.not_eq_true] at broken
    cases escapes : Sql.escapesIn family.quote.1 with
    | false =>
      rw [escapes, Sql.quotable_unescaped] at broken
      cases broken
    | true =>
      have same := family.nameQuotes.symmetric escapes
      have quotes := family.nameQuotes
      rw [escapes] at broken
      rw [same] at escapes quotes whole
      exact family.not_sealed_of_lost
        (Sql.Mode.lost_of_dotted quotes escapes dotted free unclosed ⟨part, member, broken⟩) whole
  · exact Sql.sealed_dotted family.nameQuotes (by cases family <;> decide) dotted free
      (nameParts_ne_nil name)

/-- A literal is sealed exactly when the dialect reads escapes or its text can be quoted. -/
theorem sealed_literal_iff (family : Family) (text : String) :
    Sql.Sealed family.dialect.table.quotedSpans
        (family.dialect.quoteLiteral (.text text)).toList ↔
      family.dialect.table.backslashEscapes = true ∨
        Sql.quotable true '\'' text.toList = true := by
  have shape : (family.dialect.quoteLiteral (.text text)).toList =
      Sql.quotation '\'' '\'' (if family.dialect.table.backslashEscapes then
        doubled ['\\'] text.toList else text.toList) :=
    Dialect.quoteLiteral_textual rfl
  rw [shape]
  cases escapes : family.dialect.table.backslashEscapes with
  | true =>
    have quoted := Sql.quotable_doubled (by decide : '\'' ≠ '\\') text.toList
    simpa using Sql.sealed_quotation family.textQuotes (by decide) quoted
  | false =>
    rw [if_neg Bool.false_ne_true]
    cases quoted : Sql.quotable true '\'' text.toList with
    | true => simpa using Sql.sealed_quotation family.textQuotes (by decide) quoted
    | false =>
      simpa using family.not_sealed_of_lost
        (Sql.Mode.lost_of_quotation family.textQuotes (by decide) quoted)

end Family

/-- In every built-in dialect a scan sees a quoted name or literal as one, and what follows it
behind a space as if it stood alone, exactly when no backslash that the scan takes for an escape
stands before a quote or at the end: of a part of a name between double quotes, or of the text of
a literal in a dialect that does not read escapes itself. -/
theorem quotations_sealed (family : Family) :
    (∀ what name quoted, family.dialect.quoted what name = .ok quoted →
      (Sql.Sealed family.dialect.table.quotedSpans quoted.toList ↔
        ∀ part ∈ nameParts name,
          Sql.quotable (Sql.escapesIn family.quote.1) family.quote.2 part = true)) ∧
    ∀ text, Sql.Sealed family.dialect.table.quotedSpans
        (family.dialect.quoteLiteral (.text text)).toList ↔
      family.dialect.table.backslashEscapes = true ∨
        Sql.quotable true '\'' text.toList = true :=
  ⟨fun _ _ _ => family.sealed_name_iff, family.sealed_literal_iff⟩

/-- A placeholder behind a name that ends with a backslash is not found between double quotes. -/
theorem trailingBackslash_unsealed :
    Family.postgresql.dialect.quoted "identifier" "a\\" = .ok "\"a\\\"" ∧
      ¬Sql.Sealed Family.postgresql.dialect.table.quotedSpans "\"a\\\"".toList := by
  have ended : Family.postgresql.dialect.quoted "identifier" "a\\" = .ok "\"a\\\"" := by cbv
  refine ⟨ended, ?_⟩
  rw [(quotations_sealed .postgresql).1 "identifier" "a\\" "\"a\\\"" ended]
  decide

end PortableSql
