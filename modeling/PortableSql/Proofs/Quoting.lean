import Mathlib.Data.List.ReduceOption
import Mathlib.Data.List.TakeWhile
import PortableSql.Proofs.Binding
import PortableSql.Proofs.Scan

/-!
# Scanning written clauses

The clauses of a command are scanned before names and subqueries are put into them, and the text
that is made of them is scanned again by a driver. Both scans agree as long as quotes do not meet
where texts are joined. A line is whole when a scan of its text finds the marks of its parameters
and ends outside of quoted spans; it is steady when it can follow any other line.

What is written for a clause is whole where the clause is closed, since names between quotes and
subqueries between parentheses end where they began: outside.
-/

namespace PortableSql

/-- The characters that open or close quoted spans in the built-in dialects. -/
def quoteCharacters : List Char := ['\'', '"', '\x60', '[', ']']

/-- How a dialect quotes names with single characters, and which characters scans do not care
about. -/
structure Quoting (dialect : Dialect) where
  opening : Char
  closing : Char
  openingText : dialect.table.identifierQuote.1.toList = [opening]
  closingText : dialect.table.identifierQuote.2.toList = [closing]
  opens : Sql.closingFor? dialect.table.quotedSpans opening = some (some closing)
  /-- What closes a span with the opening quote of names is opened by it. -/
  same : ∀ other, Sql.closingFor? dialect.table.quotedSpans other = some (some opening) →
    other = opening
  unopened : ∀ character ∉ quoteCharacters,
    Sql.closingFor? dialect.table.quotedSpans character = none
  unclosed : ∀ character ∉ quoteCharacters, ∀ other,
    Sql.closingFor? dialect.table.quotedSpans other ≠ some (some character)
  /-- Backslashes escape in names between double quotes only. -/
  escaping : Sql.escapesIn opening = true → dialect.table.identifierQuote.1 = "\""
  /-- Names have different quotes on both sides in one family only. -/
  sided : opening ≠ closing → dialect.family = .mssql ∧ closing = ']' ∧
    Sql.closingFor? dialect.table.quotedSpans ']' = none

namespace Family

/-- Whatever opens a span in a built-in dialect, and what closes it. -/
theorem delimited (family : Family) {character : Char} {closing : Option Char}
    (found : Sql.closingFor? family.dialect.table.quotedSpans character = some closing) :
    (character, closing) ∈ [('\'', some '\''), ('"', some '"'), ('\x60', some '\x60'),
      ('[', some ']')] := by
  have member := Sql.closingFor?_mem found
  have known : family.dialect.table.quotedSpans.map (fun delimiter =>
        (Sql.onlyCharacter? delimiter.opening, Sql.onlyCharacter? delimiter.closing)) ⊆
      [(some '\'', some '\''), (some '"', some '"'), (some '\x60', some '\x60'),
        (some '[', some ']')] := by
    cases family <;> decide
  simpa using known member

/-- The quotes of names in a built-in dialect. -/
def quote : Family → Char × Char
  | mysql => ('\x60', '\x60')
  | postgresql | sqlite => ('"', '"')
  | mssql => ('[', ']')

/-- The quotes of a built-in dialect. -/
def quoting (family : Family) : Quoting family.dialect where
  opening := family.quote.1
  closing := family.quote.2
  openingText := by cases family <;> rfl
  closingText := by cases family <;> rfl
  opens := by cases family <;> decide
  same other closes := by
    have known := family.delimited closes
    cases family <;> simp [quote] at known ⊢ <;> exact known
  unopened character free := by
    cases found : Sql.closingFor? family.dialect.table.quotedSpans character with
    | none => rfl
    | some closing =>
      have known := family.delimited found
      simp [quoteCharacters] at free known
      grind
  unclosed character free other closes := by
    have known := family.delimited closes
    simp [quoteCharacters] at free known
    grind
  escaping escapes := by cases family <;> first | rfl | exact absurd escapes (by decide)
  sided differ := by cases family <;> first | exact ⟨rfl, rfl, by decide⟩ | exact absurd rfl differ

end Family

namespace Sql

/-- A mode that a scan can end in outside of quoted spans. -/
def Mode.Settled (delimiters : List Delimiter) (mode : Mode) : Prop :=
  mode.ended = true ∧ mode.Proper delimiters

theorem settled_of_quoteClosed {delimiters : List Delimiter} {text : String}
    (closed : quoteClosed delimiters text = true) :
    (Mode.outside.after delimiters text.toList).Settled delimiters :=
  ⟨closed, Mode.proper_after delimiters (Mode.proper_outside delimiters) text.toList⟩

theorem settled_outside (delimiters : List Delimiter) : Mode.outside.Settled delimiters :=
  ⟨rfl, trivial⟩

end Sql

/-- For each character of a part, the parameter that it is the mark of. -/
def Part.owners : Part → List (Option Parameter)
  | text characters => List.replicate characters.length none
  | marker parameter => [some parameter]

namespace Line

/-- For each character of a line, the parameter that it is the mark of. -/
def owners (line : Line) : List (Option Parameter) := line.flatMap Part.owners

/-- For each character of a line, whether it is the mark of a parameter. -/
def flags (line : Line) : List Bool := line.owners.map Option.isSome

theorem flags_cons (part : Part) (line : Line) :
    flags (part :: line) = part.owners.map Option.isSome ++ flags line := List.map_append

@[simp] theorem flags_append (line other : Line) :
    flags (line ++ other) = flags line ++ flags other := by
  simp [flags, owners]

@[simp] theorem flags_ofText (text : String) :
    flags (ofText text) = List.replicate text.toList.length false := by
  simp [flags, owners, ofText, Part.owners]

/-- The parameters of a line are those that have marks, in the order of the marks. -/
theorem reduceOption_owners (line : Line) : line.owners.reduceOption = line.parameters := by
  induction line with
  | nil => rfl
  | cons part rest inductionHypothesis =>
    have split : owners (part :: rest) = part.owners ++ owners rest := rfl
    rw [split, List.reduceOption_append, inductionHypothesis]
    cases part <;> simp [Part.owners]

/-- There are as many marks as parameters. -/
theorem count_flags (line : Line) : (flags line).count true = (parameters line).length := by
  rw [← reduceOption_owners, List.reduceOption_length_eq, flags, List.count, List.countP_map,
    List.countP_eq_length_filter]
  exact congrArg List.length (List.filter_congr fun owner _ => by cases owner <;> rfl)

variable (delimiters : List Sql.Delimiter)

/-- A scan of the line from a mode finds its marks and ends outside of quoted spans. -/
structure Scans (mode : Sql.Mode) (line : Line) : Prop where
  flags : mode.flags delimiters line.characters = line.flags
  settled : (mode.after delimiters line.characters).Settled delimiters

/-- A line that stands alone. -/
def Whole (line : Line) : Prop := Scans delimiters .outside line

/-- A line that may follow any other. -/
def Steady (line : Line) : Prop :=
  ∀ mode : Sql.Mode, mode.Settled delimiters → Scans delimiters mode line

variable {delimiters}

theorem Scans.append {mode : Sql.Mode} {line other : Line} (first : Scans delimiters mode line)
    (second : Scans delimiters (mode.after delimiters line.characters) other) :
    Scans delimiters mode (line ++ other) where
  flags := by
    rw [characters_append, Sql.Mode.flags_append, first.flags, second.flags, flags_append]
  settled := by
    rw [characters_append, Sql.Mode.after_append]
    exact second.settled

theorem Whole.append {line other : Line} (whole : Whole delimiters line)
    (steady : Steady delimiters other) : Whole delimiters (line ++ other) :=
  Scans.append whole (steady _ whole.settled)

theorem Steady.append {line other : Line} (first : Steady delimiters line)
    (second : Steady delimiters other) : Steady delimiters (line ++ other) := fun mode settled =>
  (first mode settled).append (second _ (first mode settled).settled)

theorem Steady.whole {line : Line} (steady : Steady delimiters line) : Whole delimiters line :=
  steady .outside (Sql.settled_outside _)

/-- Plain texts that follow each other are one text. -/
theorem Steady.join {text other : String} (first : Steady delimiters (ofText text))
    (second : Steady delimiters (ofText other)) : Steady delimiters (ofText (text ++ other)) := by
  intro mode settled
  obtain ⟨flags, settled⟩ := first.append second mode settled
  rw [characters_append, characters_ofText, characters_ofText, flags_append, flags_ofText,
    flags_ofText, List.replicate_append_replicate] at flags
  rw [characters_append, characters_ofText, characters_ofText] at settled
  constructor
  · rw [characters_ofText, flags_ofText, String.toList_append, flags, List.length_append]
  · rwa [characters_ofText, String.toList_append]

theorem steady_nil : Steady delimiters [] := fun _ settled => ⟨rfl, settled⟩

end Line

/-- Characters without quotes and question marks. -/
def Plain (characters : List Char) : Prop :=
  ∀ character ∈ characters, character ∉ '?' :: quoteCharacters

instance (characters : List Char) : Decidable (Plain characters) :=
  List.decidableBAll (· ∉ '?' :: quoteCharacters) characters

/-- What holds of the question mark and of every quote. -/
theorem forall_quoteCharacters {property : Char → Prop} :
    (∀ character ∈ '?' :: quoteCharacters, property character) ↔
      property '?' ∧ property '\'' ∧ property '"' ∧ property '\x60' ∧ property '[' ∧
        property ']' := by
  simp [quoteCharacters]

namespace Quoting

variable {dialect : Dialect} (quoting : Quoting dialect)

include quoting

/-- A character that is no quote leads out of a settled mode to the outside. -/
theorem step_plain {mode : Sql.Mode} {character : Char}
    (settled : mode.Settled dialect.table.quotedSpans) (plain : character ∉ quoteCharacters) :
    mode.step dialect.table.quotedSpans character = .outside ∧
      mode.marks dialect.table.quotedSpans character = decide (character = '?') := by
  have free := quoting.unopened character plain
  cases mode with
  | outside => simp [Sql.Mode.step, Sql.Mode.opened, Sql.Mode.marks, Sql.Mode.opensMark, free]
  | closed opening closing =>
    have other : some character ≠ closing := by
      rintro rfl
      exact quoting.unclosed character plain opening settled.2
    simp [Sql.Mode.step, Sql.Mode.opened, Sql.Mode.marks, Sql.Mode.opensMark, free, other]
  | inside _ _ | escaped _ _ => exact absurd settled.1 Bool.false_ne_true

/-- A text without quotes and question marks is read from any settled mode; it leads to the outside
unless it is empty. -/
theorem scan_plain {characters : List Char} (plain : Plain characters) {mode : Sql.Mode}
    (settled : mode.Settled dialect.table.quotedSpans) :
    mode.flags dialect.table.quotedSpans characters = List.replicate characters.length false ∧
      mode.after dialect.table.quotedSpans characters =
        if characters.isEmpty then mode else .outside := by
  induction characters generalizing mode with
  | nil => exact ⟨rfl, rfl⟩
  | cons first rest inductionHypothesis =>
    have apart := plain first List.mem_cons_self
    rw [List.mem_cons, not_or] at apart
    obtain ⟨outside, unmarked⟩ := quoting.step_plain settled apart.2
    have others := inductionHypothesis
      (fun character member => plain character (List.mem_cons_of_mem first member))
      (Sql.settled_outside _)
    constructor
    · rw [Sql.Mode.flags_cons, outside, unmarked, others.1, decide_eq_false apart.1]
      rfl
    · rw [Sql.Mode.after_cons, outside, others.2]
      simp

/-- A text without quotes and question marks may follow anything. -/
theorem steady_plain {text : String} (plain : Plain text.toList) :
    Line.Steady dialect.table.quotedSpans (Line.ofText text) := by
  intro mode settled
  obtain ⟨flags, after⟩ := quoting.scan_plain plain settled
  constructor
  · rw [Line.characters_ofText, Line.flags_ofText, flags]
  · rw [Line.characters_ofText, after]
    split
    · exact settled
    · exact Sql.settled_outside _

/-- A line that stands alone may follow anything after a text without quotes between them. -/
theorem steady_after (text : String) (plain : Plain text.toList) (full : text.toList ≠ [])
    {line : Line} (whole : Line.Whole dialect.table.quotedSpans line) :
    Line.Steady dialect.table.quotedSpans (Line.ofText text ++ line) := by
  intro mode settled
  refine (quoting.steady_plain plain mode settled).append ?_
  rw [Line.characters_ofText, (quoting.scan_plain plain settled).2, if_neg (by simpa using full)]
  exact whole

/-- The mark of a parameter is found after anything, and leads to the outside. -/
theorem scan_marker {mode : Sql.Mode} (settled : mode.Settled dialect.table.quotedSpans) :
    mode.marks dialect.table.quotedSpans '?' = true ∧
      mode.step dialect.table.quotedSpans '?' = .outside := by
  obtain ⟨outside, marked⟩ := quoting.step_plain settled (by decide : '?' ∉ quoteCharacters)
  exact ⟨marked, outside⟩

theorem steady_marker (parameter : Parameter) :
    Line.Steady dialect.table.quotedSpans [.marker parameter] := by
  intro mode settled
  obtain ⟨marked, outside⟩ := quoting.scan_marker settled
  constructor
  · change mode.flags _ ['?'] = [true]
    rw [Sql.Mode.flags_cons, marked]
    rfl
  · change (mode.after _ ['?']).Settled _
    rw [Sql.Mode.after_cons, outside]
    exact Sql.settled_outside _

/-- The mode inside a quoted name. -/
def within : Sql.Mode := .inside quoting.opening (some quoting.closing)

/-- The mode after a quoted name. -/
def behind : Sql.Mode := .closed quoting.opening (some quoting.closing)

theorem settled_behind : quoting.behind.Settled dialect.table.quotedSpans := ⟨rfl, quoting.opens⟩

/-- The opening quote of a name leads into the name from any settled mode: behind a span that it
could close it doubles the quote, and this span is one with the same quotes. -/
theorem scan_opening {mode : Sql.Mode} (settled : mode.Settled dialect.table.quotedSpans) :
    mode.marks dialect.table.quotedSpans quoting.opening = false ∧
      mode.step dialect.table.quotedSpans quoting.opening = quoting.within := by
  have opened : Sql.Mode.opened dialect.table.quotedSpans quoting.opening = quoting.within := by
    rw [Sql.Mode.opened, quoting.opens]
    rfl
  have unmarked : Sql.Mode.opensMark dialect.table.quotedSpans quoting.opening = false := by
    simp [Sql.Mode.opensMark, quoting.opens]
  cases mode with
  | outside => exact ⟨unmarked, opened⟩
  | closed opening closing =>
    refine ⟨by simp [Sql.Mode.marks, unmarked], ?_⟩
    by_cases doubles : some quoting.opening = closing
    · subst doubles
      have sameOpening := quoting.same opening settled.2
      subst sameOpening
      have sameClosing := quoting.opens.symm.trans settled.2
      rw [Option.some.injEq, Option.some.injEq] at sameClosing
      simp [Sql.Mode.step, within, sameClosing]
    · simp [Sql.Mode.step, doubles, opened]
  | inside _ _ | escaped _ _ => exact absurd settled.1 Bool.false_ne_true

/-- Characters that a backslash does not escape. -/
def Unescaped (characters : List Char) : Prop :=
  Sql.escapesIn quoting.opening = true → '\\' ∉ characters

theorem closing_ne_backslash : quoting.closing ≠ '\\' := by
  intro same
  exact quoting.unclosed '\\' (by decide) quoting.opening (same ▸ quoting.opens)

/-- The closing quote leads out of a name, and a second one back into it. -/
theorem step_closing :
    quoting.within.step dialect.table.quotedSpans quoting.closing = quoting.behind ∧
      quoting.behind.step dialect.table.quotedSpans quoting.closing = quoting.within := by
  have other := quoting.closing_ne_backslash
  constructor <;> simp [within, behind, Sql.Mode.step, other]

/-- Inside a name its doubled closing quotes and its other characters stay inside. -/
theorem scan_doubled {characters : List Char} (unescaped : quoting.Unescaped characters) :
    quoting.within.flags dialect.table.quotedSpans (doubled [quoting.closing] characters) =
        List.replicate (doubled [quoting.closing] characters).length false ∧
      quoting.within.after dialect.table.quotedSpans (doubled [quoting.closing] characters) =
        quoting.within := by
  rw [doubled_singleton]
  induction characters with
  | nil => exact ⟨rfl, rfl⟩
  | cons first rest inductionHypothesis =>
    obtain ⟨flags, after⟩ := inductionHypothesis fun escapes member =>
      unescaped escapes (List.mem_cons_of_mem first member)
    rw [List.flatMap_cons]
    by_cases closes : first = quoting.closing
    · obtain ⟨out, back⟩ := quoting.step_closing
      have unmarked : quoting.behind.marks dialect.table.quotedSpans quoting.closing = false := by
        simp [behind, Sql.Mode.marks]
      have inside : quoting.within.marks dialect.table.quotedSpans quoting.closing = false := rfl
      simp only [closes, if_true, List.cons_append, List.nil_append, Sql.Mode.flags_cons,
        Sql.Mode.after_cons, out, back, unmarked, inside, flags, after, List.length_cons,
        List.replicate_succ, and_self]
    · have plain : ¬ (Sql.escapesIn quoting.opening = true ∧ first = '\\') := by
        rintro ⟨escapes, rfl⟩
        exact unescaped escapes List.mem_cons_self
      have stays : quoting.within.step dialect.table.quotedSpans first = quoting.within := by
        simp [within, Sql.Mode.step, plain, closes]
      have inside : quoting.within.marks dialect.table.quotedSpans first = false := rfl
      simp only [closes, if_false, List.cons_append, List.nil_append, Sql.Mode.flags_cons,
        Sql.Mode.after_cons, stays, inside, flags, after, List.length_cons, List.replicate_succ,
        and_self]

/-- A part of a name between quotes is read from any settled mode. -/
theorem scan_enclosed {characters : List Char} (unescaped : quoting.Unescaped characters)
    {mode : Sql.Mode} (settled : mode.Settled dialect.table.quotedSpans) :
    mode.flags dialect.table.quotedSpans (enclosed dialect.table.identifierQuote characters) =
        List.replicate (enclosed dialect.table.identifierQuote characters).length false ∧
      mode.after dialect.table.quotedSpans (enclosed dialect.table.identifierQuote characters) =
        quoting.behind := by
  obtain ⟨unmarked, enters⟩ := quoting.scan_opening settled
  obtain ⟨flags, after⟩ := quoting.scan_doubled unescaped
  have out := quoting.step_closing.1
  have inside : quoting.within.marks dialect.table.quotedSpans quoting.closing = false := rfl
  unfold enclosed
  rw [quoting.openingText, quoting.closingText]
  simp only [List.cons_append, List.nil_append, Sql.Mode.flags_cons, Sql.Mode.after_cons,
    Sql.Mode.flags_append, Sql.Mode.after_append, unmarked, enters, flags, after, out, inside,
    Sql.Mode.flags_nil, Sql.Mode.after_nil, List.length_cons, List.length_append, List.length_nil,
    and_true]
  rw [List.replicate_succ, List.replicate_succ']

/-- Names between quotes with dots between them are read from any settled mode. -/
theorem scan_dotted {parts : List (List Char)} (full : parts ≠ [])
    (unescaped : ∀ part ∈ parts, quoting.Unescaped part) {mode : Sql.Mode}
    (settled : mode.Settled dialect.table.quotedSpans) :
    let text := List.intercalate ['.'] (parts.map (enclosed dialect.table.identifierQuote))
    mode.flags dialect.table.quotedSpans text = List.replicate text.length false ∧
      mode.after dialect.table.quotedSpans text = quoting.behind := by
  induction parts generalizing mode with
  | nil => exact absurd rfl full
  | cons part rest inductionHypothesis =>
    obtain ⟨flags, after⟩ := quoting.scan_enclosed (unescaped part List.mem_cons_self) settled
    cases rest with
    | nil => simpa using ⟨flags, after⟩
    | cons next others =>
      have continued := inductionHypothesis (List.cons_ne_nil next others)
        (fun other member => unescaped other (List.mem_cons_of_mem part member))
        (Sql.settled_outside _)
      obtain ⟨outside, unmarked⟩ := quoting.step_plain quoting.settled_behind
        (by decide : '.' ∉ quoteCharacters)
      simp only [List.map_cons, List.intercalate_cons_cons] at continued ⊢
      simp only [Sql.Mode.flags_append, Sql.Mode.after_append, Sql.Mode.flags_cons,
        Sql.Mode.after_cons, Sql.Mode.flags_nil, Sql.Mode.after_nil, flags, after, outside,
        unmarked, continued.1, continued.2, List.length_append, List.length_cons, List.length_nil,
        ← List.replicate_append_replicate, and_true]
      rfl

end Quoting

/-- A name that is not read differently when it stands in a text again. -/
def Dialect.SafeName (dialect : Dialect) (name : String) : Prop :=
  dialect.table.identifierQuote.1 = "\"" → '\\' ∉ name.toList

/-- An argument that is safe where a name stands. -/
def Dialect.SafeValue (dialect : Dialect) (value : Value) : Prop :=
  ∀ name, value = .text name → dialect.SafeName name

namespace Quoting

variable {dialect : Dialect} (quoting : Quoting dialect)

include quoting

/-- A quoted name is read from any settled mode. -/
theorem scan_name {what name quoted : String} (safe : dialect.SafeName name)
    (ended : dialect.quoted what name = .ok quoted) {mode : Sql.Mode}
    (settled : mode.Settled dialect.table.quotedSpans) :
    mode.flags dialect.table.quotedSpans quoted.toList =
        List.replicate quoted.toList.length false ∧
      mode.after dialect.table.quotedSpans quoted.toList = quoting.behind := by
  rw [quoteName_ok ended]
  refine quoting.scan_dotted (nameParts_ne_nil name) (fun part member escapes inside => ?_) settled
  exact safe (quoting.escaping escapes) (mem_of_mem_nameParts member inside)

theorem steady_name {what name quoted : String} (safe : dialect.SafeName name)
    (ended : dialect.quoted what name = .ok quoted) :
    Line.Steady dialect.table.quotedSpans (Line.ofText quoted) := by
  intro mode settled
  obtain ⟨flags, after⟩ := quoting.scan_name safe ended settled
  constructor
  · rw [Line.characters_ofText, Line.flags_ofText, flags]
  · rw [Line.characters_ofText, after]
    exact quoting.settled_behind

/-- A line in parentheses may follow anything and leads to the outside. -/
theorem scan_parentheses {line : Line} (whole : Line.Whole dialect.table.quotedSpans line)
    {mode : Sql.Mode} (settled : mode.Settled dialect.table.quotedSpans) :
    Line.Scans dialect.table.quotedSpans mode (Line.ofText "(" ++ line ++ Line.ofText ")") ∧
      mode.after dialect.table.quotedSpans
        (Line.ofText "(" ++ line ++ Line.ofText ")").characters = .outside := by
  have opens := quoting.steady_after "(" (by decide) (by decide) whole mode settled
  have bracket : Plain ")".toList := by decide
  obtain ⟨-, closes⟩ := quoting.scan_plain bracket opens.settled
  refine ⟨opens.append (quoting.steady_plain bracket _ opens.settled), ?_⟩
  rw [Line.characters_append, Sql.Mode.after_append, Line.characters_ofText]
  exact closes

/-- Behind a quoted name the rest of a clause is read as before, unless it begins with the closing
quote of names that have different quotes on both sides. -/
theorem reads_behind {character : Char} (apart : quoting.opening ≠ quoting.closing →
      character ≠ quoting.closing) :
    quoting.behind.Reads dialect.table.quotedSpans character := by
  by_cases closes : character = quoting.closing
  · have symmetric : quoting.opening = quoting.closing := by
      by_contra differ
      exact apart differ closes
    have opens := quoting.opens
    rw [symmetric] at opens
    rw [closes]
    constructor
    · simp [behind, Sql.Mode.step, Sql.Mode.opened, symmetric, opens]
    · simp [behind, Sql.Mode.marks, Sql.Mode.opensMark, opens]
  · exact Sql.Mode.reads_closed _ (by simpa using closes)

end Quoting

/-- No closing quote of SQL Server stands right behind a placeholder, where it would double the
closing quote of a name. -/
def Dialect.Unjoined (dialect : Dialect) (pieces : List Sql.Piece) : Prop :=
  dialect.family = .mssql → ¬ [.placeholder, .other ']'] <:+: pieces

theorem Dialect.Unjoined.tail {dialect : Dialect} {piece : Sql.Piece} {pieces : List Sql.Piece}
    (unjoined : dialect.Unjoined (piece :: pieces)) : dialect.Unjoined pieces :=
  fun family joined => unjoined family (List.infix_cons joined)

namespace Quoting

variable {dialect : Dialect} (quoting : Quoting dialect)

include quoting

/-- Behind a quoted name the rest of a clause is read as before. -/
theorem reads_rest {subqueries : Bool} {rest : List Char}
    (unjoined : dialect.Unjoined
      (.placeholder :: Sql.pieces { subqueries } dialect.table.quotedSpans rest)) :
    ∀ first ∈ rest.head?, quoting.behind.Reads dialect.table.quotedSpans first := by
  intro first head
  refine quoting.reads_behind fun differ closes => ?_
  obtain ⟨family, bracket, unopened⟩ := quoting.sided differ
  refine unjoined family ?_
  obtain ⟨others, rfl⟩ : ∃ others, rest = first :: others := by
    cases rest with
    | nil => cases head
    | cons other others =>
      cases head
      exact ⟨others, rfl⟩
  rw [closes, bracket, Sql.pieces, unopened]
  exact ⟨[], Sql.pieces { subqueries } dialect.table.quotedSpans others, by simp⟩

omit quoting in
/-- A character that is no quote and no question mark is read as it is. -/
theorem scan_other {character : Char} {mode : Sql.Mode}
    (free : Sql.closingFor? dialect.table.quotedSpans character = none)
    (other : character ≠ '?') (reads : mode.Reads dialect.table.quotedSpans character) :
    Line.Scans dialect.table.quotedSpans mode [.text [character]] ∧
      mode.after dialect.table.quotedSpans [character] = .outside := by
  obtain ⟨sameMode, sameMark⟩ := reads
  have outside : mode.step dialect.table.quotedSpans character = .outside := by
    rw [sameMode, Sql.Mode.opened, free]
  have unmarked : mode.marks dialect.table.quotedSpans character = false := by
    rw [sameMark, Sql.Mode.opensMark, decide_eq_false other]
    rfl
  refine ⟨⟨?_, ?_⟩, outside⟩
  · change [mode.marks _ character] = [false]
    rw [unmarked]
  · change (mode.step _ character).Settled _
    rw [outside]
    exact Sql.settled_outside _

omit quoting in
/-- A quoted span is read as it is. -/
theorem scan_span {first : Char} {closing : Option Char} {mode : Sql.Mode} (rest : List Char)
    (opens : Sql.closingFor? dialect.table.quotedSpans first = some closing)
    (reads : mode.Reads dialect.table.quotedSpans first) :
    let span := first :: (Sql.splitSpan (Sql.escapesIn first) closing rest).1
    mode.flags dialect.table.quotedSpans span = List.replicate span.length false ∧
      mode.after dialect.table.quotedSpans span =
        (Sql.Mode.inside first closing).after dialect.table.quotedSpans
          (Sql.splitSpan (Sql.escapesIn first) closing rest).1 := by
  obtain ⟨sameMode, sameMark⟩ := reads
  have enters : mode.step dialect.table.quotedSpans first = .inside first closing := by
    rw [sameMode, Sql.Mode.opened, opens]
  have unmarked : mode.marks dialect.table.quotedSpans first = false := by
    rw [sameMark, Sql.Mode.opensMark, opens]
    simp
  obtain ⟨flags, -⟩ := Sql.Mode.span_scan dialect.table.quotedSpans first closing rest
  refine ⟨?_, ?_⟩
  · rw [Sql.Mode.flags_cons, unmarked, enters, flags]
    rfl
  · rw [Sql.Mode.after_cons, enters]

omit quoting in
/-- Where a span ends, the rest of the text is read as a text of its own. -/
theorem after_span {first : Char} {closing : Option Char} (rest : List Char)
    (opens : Sql.closingFor? dialect.table.quotedSpans first = some closing)
    (ended : (Sql.Mode.outside.after dialect.table.quotedSpans (first :: rest)).Settled
      dialect.table.quotedSpans) :
    let mode := (Sql.Mode.inside first closing).after dialect.table.quotedSpans
      (Sql.splitSpan (Sql.escapesIn first) closing rest).1
    let following := (Sql.splitSpan (Sql.escapesIn first) closing rest).2
    mode.Settled dialect.table.quotedSpans ∧
      (Sql.Mode.outside.after dialect.table.quotedSpans following).Settled
        dialect.table.quotedSpans ∧
      ∀ next ∈ following.head?, mode.Reads dialect.table.quotedSpans next := by
  obtain ⟨-, stops⟩ := Sql.Mode.span_scan dialect.table.quotedSpans first closing rest
  have enters : Sql.Mode.outside.after dialect.table.quotedSpans (first :: rest) =
      ((Sql.Mode.inside first closing).after dialect.table.quotedSpans
        (Sql.splitSpan (Sql.escapesIn first) closing rest).1).after dialect.table.quotedSpans
          (Sql.splitSpan (Sql.escapesIn first) closing rest).2 := by
    rw [← Sql.Mode.after_append, Sql.splitSpan_append, Sql.Mode.after_cons, Sql.Mode.step,
      Sql.Mode.opened, opens]
  rw [enters] at ended
  dsimp only
  by_cases finished : (Sql.splitSpan (Sql.escapesIn first) closing rest).2 = []
  · rw [finished] at ended ⊢
    exact ⟨ended, Sql.settled_outside _, fun next head => absurd head (Option.not_mem_none next)⟩
  · obtain ⟨closed, single⟩ := stops finished
    have reads : ∀ next ∈ (Sql.splitSpan (Sql.escapesIn first) closing rest).2.head?,
        (Sql.Mode.closed first closing).Reads dialect.table.quotedSpans next :=
      fun next head => Sql.Mode.reads_closed _ (single next head)
    rw [closed] at ended ⊢
    rw [(Sql.Mode.scan_eq _ reads).2 finished] at ended
    exact ⟨⟨rfl, opens⟩, ended, reads⟩

omit quoting in
/-- What opens no span leads from the outside to the outside. -/
theorem after_free {first : Char} {rest : List Char}
    (free : Sql.closingFor? dialect.table.quotedSpans first = none) :
    Sql.Mode.outside.after dialect.table.quotedSpans (first :: rest) =
      Sql.Mode.outside.after dialect.table.quotedSpans rest := by
  rw [Sql.Mode.after_cons, Sql.Mode.step, Sql.Mode.opened, free]

/-- The token of a subquery leads from the outside to the outside. -/
theorem after_token {rest digits after : List Char}
    (found : Sql.splitToken rest = some (digits, after)) :
    Sql.Mode.outside.after dialect.table.quotedSpans ('{' :: rest) =
      Sql.Mode.outside.after dialect.table.quotedSpans after := by
  have decimal : ∀ character ∈ '?' :: quoteCharacters, Text.isDecimal character = false :=
    forall_quoteCharacters.mpr (by decide)
  have plain : Plain ('{' :: digits ++ ['}']) := by
    intro character member
    simp only [List.cons_append, List.mem_cons, List.mem_append, List.not_mem_nil, or_false]
      at member
    rcases member with rfl | digit | rfl
    · decide
    · intro quote
      have known := Sql.isDecimal_of_mem_splitToken found digit
      rw [decimal character quote] at known
      cases known
    · decide
  have same : '{' :: rest = ('{' :: digits ++ ['}']) ++ after := by
    rw [Sql.splitToken_append found]
    simp
  rw [same, Sql.Mode.after_append,
    (quoting.scan_plain plain (Sql.settled_outside _)).2]
  rfl

/-- What is written for the pieces of a clause is whole where the clause is.

Proof: along the pieces, from a mode that reads the rest of the clause like a scan of the clause
itself. Marks and other characters lead to the outside, spans and names lead behind a closing
quote, and what follows there does not double it. -/
theorem scan_pieces {lines : List (Except Failure Line)} {clause : String} {use : PlaceholderUse}
    {subqueries : Bool}
    (named : ∀ digits line, namedLine lines digits = .ok line →
      Line.Whole dialect.table.quotedSpans line)
    {characters : List Char} {consumed : List Value} {line : Line} {mode : Sql.Mode}
    (binds : Binds dialect lines
      ((Sql.pieces { subqueries } dialect.table.quotedSpans characters).map (.ofPiece clause use))
      consumed line)
    (ended : (Sql.Mode.outside.after dialect.table.quotedSpans characters).Settled
      dialect.table.quotedSpans)
    (unjoined : use = .name →
      dialect.Unjoined (Sql.pieces { subqueries } dialect.table.quotedSpans characters))
    (safe : use = .name → ∀ value ∈ consumed, dialect.SafeValue value)
    (settled : mode.Settled dialect.table.quotedSpans)
    (reads : ∀ first ∈ characters.head?, mode.Reads dialect.table.quotedSpans first) :
    Line.Scans dialect.table.quotedSpans mode line := by
  fun_induction Sql.pieces { subqueries } dialect.table.quotedSpans characters
    generalizing mode consumed line with
  | case1 =>
    cases binds
    exact ⟨rfl, settled⟩
  | case2 first rest closing opens inductionHypothesis =>
    obtain _ | ⟨bindsFirst, others⟩ := binds
    cases bindsFirst with
    | text =>
      obtain ⟨flags, after⟩ := scan_span rest opens (reads first rfl)
      obtain ⟨settledNext, endedNext, readsNext⟩ := after_span rest opens ended
      rw [← after] at settledNext readsNext
      have scans : Line.Scans dialect.table.quotedSpans mode
          [.text (first :: (Sql.splitSpan (Sql.escapesIn first) closing rest).1)] := by
        constructor <;> simpa [Line.flags, Line.owners, Part.owners]
      refine scans.append ?_
      have following := inductionHypothesis others endedNext (fun name => (unjoined name).tail)
        safe settledNext readsNext
      simpa using following
  | case3 first rest free isMark inductionHypothesis =>
    obtain _ | ⟨bindsFirst, others⟩ := binds
    simp only [Bool.true_and, decide_eq_true_eq] at isMark
    subst isMark
    cases use with
    | refused => cases bindsFirst
    | value =>
      cases bindsFirst with
      | value =>
        obtain ⟨marked, outside⟩ := quoting.scan_marker settled
        refine (quoting.steady_marker _ mode settled).append ?_
        change Line.Scans _ (mode.step _ '?') _
        rw [outside]
        rw [after_free free] at ended
        exact inductionHypothesis others ended (fun name => (unjoined name).tail)
          (fun name => absurd name (by decide)) (Sql.settled_outside _)
          fun first _ => Sql.Mode.reads_outside _ first
    | name =>
      cases bindsFirst with
      | @name clause value quoted known =>
        obtain ⟨name, rfl, ended'⟩ := Dialect.quotedValue_ok known
        have safeName := safe rfl _ List.mem_cons_self name rfl
        obtain ⟨-, behind⟩ := quoting.scan_name safeName ended' settled
        refine (quoting.steady_name safeName ended' mode settled).append ?_
        rw [Line.characters_ofText, behind]
        rw [after_free free] at ended
        exact inductionHypothesis others ended (fun name => (unjoined name).tail)
          (fun name value member => safe name value (List.mem_cons_of_mem _ member))
          quoting.settled_behind (quoting.reads_rest (unjoined rfl))
  | case4 first rest free notMark isBrace digits after found inductionHypothesis =>
    obtain _ | ⟨bindsFirst, others⟩ := binds
    cases bindsFirst with
    | subquery known =>
      simp only [Bool.and_eq_true, decide_eq_true_eq] at isBrace
      obtain ⟨-, rfl⟩ := isBrace
      obtain ⟨scans, outside⟩ := quoting.scan_parentheses (named _ _ known) settled
      rw [quoting.after_token found] at ended
      refine scans.append
        (outside ▸ inductionHypothesis others ended ?_ safe (Sql.settled_outside _) ?_)
      · exact fun name => (unjoined name).tail
      · exact fun first _ => Sql.Mode.reads_outside _ first
  | case5 first rest free notMark _ _ inductionHypothesis
  | case6 first rest free notMark _ inductionHypothesis =>
    obtain _ | ⟨bindsFirst, others⟩ := binds
    cases bindsFirst with
    | text =>
      simp only [Bool.true_and, decide_eq_true_eq] at notMark
      obtain ⟨scans, outside⟩ := scan_other free notMark (reads first rfl)
      rw [after_free free] at ended
      exact scans.append (outside ▸ inductionHypothesis others ended
        (fun name => (unjoined name).tail) safe (Sql.settled_outside _)
        fun next _ => Sql.Mode.reads_outside _ next)

end Quoting

end PortableSql
