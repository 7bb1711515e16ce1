import PortableSql.Proofs.Interference

/-!
# Texts that every dialect reads alike

The built-in dialects agree about single and double quotes, and disagree about back quotes and
brackets. A text without these two is divided into the same pieces by all of them. Whether a name
can be quoted depends on its parts only, and so is the same in all of them, too.
-/

namespace PortableSql

/-- Nothing in the text opens a quoted span in some dialects only. -/
def Neutral (text : String) : Prop := '\x60' ∉ text.toList ∧ '[' ∉ text.toList

instance (text : String) : Decidable (Neutral text) :=
  inferInstanceAs (Decidable ('\x60' ∉ text.toList ∧ '[' ∉ text.toList))

namespace Sql

/-- A text is divided alike by delimiters that agree about each of its characters.

Proof: by induction along the pieces. What follows a piece is a part of the text, so the delimiters
agree about its characters as well. -/
theorem pieces_congr {tokens : Tokens} {delimiters others : List Delimiter}
    {characters : List Char}
    (agree : ∀ character ∈ characters,
      closingFor? delimiters character = closingFor? others character) :
    pieces tokens delimiters characters = pieces tokens others characters := by
  fun_induction pieces tokens delimiters characters with
  | case1 => simp [pieces]
  | case2 first rest closing opens inductionHypothesis =>
    have opensOther := (agree first List.mem_cons_self).symm.trans opens
    rw [pieces, opensOther, inductionHypothesis]
    intro character member
    apply agree character
    apply List.mem_cons_of_mem
    rw [← splitSpan_append (escapesIn first) closing rest]
    exact List.mem_append_right _ member
  | case3 first rest free isMark inductionHypothesis =>
    have freeOther := (agree first List.mem_cons_self).symm.trans free
    rw [pieces, freeOther, inductionHypothesis (List.forall_mem_of_forall_mem_cons agree)]
    exact (if_pos isMark).symm
  | case4 first rest free noMark isBrace digits after found inductionHypothesis =>
    have freeOther := (agree first List.mem_cons_self).symm.trans free
    have others := inductionHypothesis <| by
      intro character member
      apply agree character
      apply List.mem_cons_of_mem
      rw [splitToken_append found]
      simp [member]
    rw [pieces, freeOther, others]
    dsimp only
    rw [if_neg noMark, if_pos isBrace]
    split
    · rename_i foundOther
      cases found.symm.trans foundOther
      rfl
    · rename_i missing
      cases found.symm.trans missing
  | case5 first rest free noMark isBrace missing inductionHypothesis =>
    have freeOther := (agree first List.mem_cons_self).symm.trans free
    rw [pieces, freeOther, inductionHypothesis (List.forall_mem_of_forall_mem_cons agree)]
    dsimp only
    rw [if_neg noMark, if_pos isBrace]
    split
    · rename_i found
      cases missing.symm.trans found
    · rfl
  | case6 first rest free noMark noBrace inductionHypothesis =>
    have freeOther := (agree first List.mem_cons_self).symm.trans free
    rw [pieces, freeOther, inductionHypothesis (List.forall_mem_of_forall_mem_cons agree)]
    dsimp only
    rw [if_neg noMark, if_neg noBrace]

end Sql

namespace Family

/-- Every built-in dialect opens spans by the standard quotes, apart from back quotes and
brackets. -/
theorem closingFor?_standard (family : Family) {character : Char} (noBackQuote : character ≠ '\x60')
    (noBracket : character ≠ '[') :
    Sql.closingFor? family.dialect.table.quotedSpans character =
      Sql.closingFor? Sql.standardDelimiters character := by
  have backQuote : Sql.onlyCharacter? "\x60" ≠ some character := by
    intro same
    exact noBackQuote (Option.some.inj same).symm
  have bracket : Sql.onlyCharacter? "[" ≠ some character := by
    intro same
    exact noBracket (Option.some.inj same).symm
  cases family <;>
    simp [dialect, Capabilities.mysql, Capabilities.postgresql, Capabilities.sqlite,
      Capabilities.mssql, Sql.closingFor?, backQuote, bracket]

/-- Neutral texts are divided alike by the built-in dialects. -/
theorem pieces_neutral (family other : Family) {tokens : Sql.Tokens} {text : String}
    (neutral : Neutral text) :
    Sql.pieces tokens family.dialect.table.quotedSpans text.toList =
      Sql.pieces tokens other.dialect.table.quotedSpans text.toList := by
  apply Sql.pieces_congr
  intro character member
  have noBackQuote : character ≠ '\x60' := fun same => neutral.1 (same ▸ member)
  have noBracket : character ≠ '[' := fun same => neutral.2 (same ▸ member)
  rw [family.closingFor?_standard noBackQuote noBracket,
    other.closingFor?_standard noBackQuote noBracket]

theorem clauseItems_neutral (family other : Family) (clause : String) (use : PlaceholderUse)
    (subqueries : Bool) {text : String} (neutral : Neutral text) :
    clauseItems family.dialect clause use subqueries text =
      clauseItems other.dialect clause use subqueries text := by
  unfold clauseItems
  rw [family.pieces_neutral other neutral]

theorem optionalItems_neutral (family other : Family) (clause : String) (use : PlaceholderUse)
    (subqueries : Bool) {text : Option String} (neutral : ∀ given ∈ text, Neutral given) :
    optionalItems family.dialect clause use subqueries text =
      optionalItems other.dialect clause use subqueries text := by
  cases text with
  | none => rfl
  | some text =>
    simp only [optionalItems]
    rw [family.clauseItems_neutral other clause use subqueries (neutral text rfl)]

/-- The built-in dialects find the same placeholders in a neutral fragment. -/
theorem fragmentAllowed_neutral (family other : Family) (column : String) {fragment : String}
    (neutral : Neutral fragment) :
    fragmentAllowed family.dialect column fragment =
      fragmentAllowed other.dialect column fragment := by
  unfold fragmentAllowed refusePlaceholders Dialect.placeholders Sql.countPlaceholders
  rw [family.pieces_neutral other neutral]

end Family

/-- Outcomes of items that look the same one by one look the same together. -/
theorem Mirrors.mapM {α β γ : Type} {view : β → γ} {first second : α → Except Failure β}
    {items : List α} (each : ∀ item ∈ items, Mirrors view (first item) (second item)) :
    Mirrors (List.map view) (items.mapM first) (items.mapM second) := by
  induction items with
  | nil => exact Mirrors.of_ok rfl
  | cons item rest inductionHypothesis =>
    have others := inductionHypothesis fun later member =>
      each later (List.mem_cons_of_mem item member)
    rw [List.mapM_cons, List.mapM_cons]
    refine (each item List.mem_cons_self).bindViewed fun value other same => ?_
    refine others.bindViewed fun values otherValues sameRest => Mirrors.of_ok ?_
    rw [List.map_cons, List.map_cons, same, sameRest]

section Names

variable (dialect other : Dialect) (what : String)

/-- A part of a name can be quoted by any quotes, or by none. -/
theorem quotePart_mirrors (quote quoteOther : String × String) (part : String) :
    Mirrors (fun _ => ()) (quotePart quote what part).result
      (quotePart quoteOther what part).result := by
  unfold quotePart
  cases nameFault? what part with
  | none => exact Mirrors.of_ok rfl
  | some failure =>
    intro quoted ended
    rw [Reporting.result_raise] at ended
    cases ended

/-- A name that one dialect can quote can be quoted by every other. -/
theorem quoted_mirrors (name : String) :
    Mirrors (fun _ => ()) (dialect.quoted what name) (other.quoted what name) := by
  have parts := fun dialect : Dialect =>
    (gives_quoteName_parts dialect.table.identifierQuote what name).result_eq
  change Mirrors _ (quoteName _ what name).result (quoteName _ what name).result
  rw [parts dialect, parts other]
  have each := Mirrors.mapM fun part (_ : part ∈ Text.parts '.' name) =>
    quotePart_mirrors what dialect.table.identifierQuote other.table.identifierQuote
      (Text.trimmed part)
  exact each.bindViewed fun _ _ _ => Mirrors.of_ok rfl

/-- A value that is a name for one dialect is a name for every other. -/
theorem quotedValue_mirrors (value : Value) :
    Mirrors (fun _ => ()) (dialect.quotedValue what value) (other.quotedValue what value) := by
  intro quoted ended
  obtain ⟨name, rfl, named⟩ := Dialect.quotedValue_ok ended
  exact quoted_mirrors dialect other what name quoted named

/-- Names that one dialect can quote can be quoted by every other. -/
theorem quotedAll_mirrors (names : List String) :
    Mirrors (List.map fun _ => ()) (dialect.quotedAll names) (other.quotedAll names) :=
  Mirrors.mapM fun name _ => quoted_mirrors dialect other "identifier" name

end Names

end PortableSql
