import PortableSql.Proofs.Sealing

/-!
# Reading quoted names

What a dialect writes between quotes is read here by the rules of the dialect itself: quoted
characters go on to their closing quote, two closing quotes in a row are one of the characters, and
where backslashes are escapes the character behind one is taken with it. These readers share
nothing with the quotation that they undo.

A name is read back part by part, up to the last closing quote and no further. So no part can end
its quotes early, and names that differ in a part are written differently.
-/

namespace PortableSql

namespace Sql

/-- What a backslash and the character behind it stand for, where backslashes are escapes. -/
def unescaped : Char → List Char
  | '0' => ['\x00']
  | 'b' => ['\x08']
  | 'n' => ['\n']
  | 'r' => ['\r']
  | 't' => ['\t']
  | 'Z' => ['\x1a']
  | '%' => ['\\', '%']
  | '_' => ['\\', '_']
  | other => [other]

/-- Reads quoted characters up to their closing quote, which has to be there. -/
def readQuoted (escapes : Bool) (closing : Char) : List Char → Option (List Char × List Char)
  | [] => none
  | [last] => if last = closing then some ([], []) else none
  | first :: second :: rest =>
    if escapes && first = '\\' then
      (readQuoted escapes closing rest).map (Prod.map (unescaped second ++ ·) id)
    else if first ≠ closing then
      (readQuoted escapes closing (second :: rest)).map (Prod.map (first :: ·) id)
    else if second = closing then
      (readQuoted escapes closing rest).map (Prod.map (closing :: ·) id)
    else some ([], second :: rest)

/-- What is added to what was read leaves what stands behind it. -/
theorem following_of_map {α : Type} {read : Option (α × List Char)} {before : α → α} {inner : α}
    {following : List Char}
    (mapped : read.map (Prod.map before id) = some (inner, following)) :
    ∃ deeper, read = some (deeper, following) := by
  obtain ⟨⟨deeper, behind⟩, known, same⟩ := Option.map_eq_some_iff.mp mapped
  cases same
  exact ⟨deeper, known⟩

/-- Reading takes the closing quote at least. -/
theorem readQuoted_length {escapes : Bool} {closing : Char} {characters inner following : List Char}
    (found : readQuoted escapes closing characters = some (inner, following)) :
    following.length < characters.length := by
  fun_induction readQuoted escapes closing characters generalizing inner with
  | case1 => cases found
  | case2 => cases found; simp
  | case3 => cases found
  | case4 first second rest escape inductionHypothesis =>
    obtain ⟨deeper, known⟩ := following_of_map found
    have shorter := inductionHypothesis known
    simp only [List.length_cons]
    omega
  | case5 first second rest unescaping other inductionHypothesis =>
    obtain ⟨deeper, known⟩ := following_of_map found
    have shorter := inductionHypothesis known
    simp only [List.length_cons] at shorter ⊢
    omega
  | case6 first rest unescaping closes inductionHypothesis =>
    obtain ⟨deeper, known⟩ := following_of_map found
    have shorter := inductionHypothesis known
    simp only [List.length_cons]
    omega
  | case7 => cases found; simp

/-- A character as it is written between quotes. -/
def quotedCharacter (escapes : Bool) (closing character : Char) : List Char :=
  if escapes && character = '\\' then ['\\', '\\']
  else if character = closing then [closing, closing]
  else [character]

/-- Backslashes are doubled first, closing quotes next; together this goes character by
character. -/
theorem doubled_escaped {closing : Char} (other : closing ≠ '\\') (escapes : Bool)
    (characters : List Char) :
    doubled [closing] (if escapes then doubled ['\\'] characters else characters) =
      characters.flatMap (quotedCharacter escapes closing) := by
  rw [doubled_singleton]
  cases escapes with
  | false =>
    refine List.flatMap_congr fun character _ => ?_
    simp [quotedCharacter]
  | true =>
    rw [if_pos rfl, doubled_singleton, List.flatMap_assoc]
    refine List.flatMap_congr fun character _ => ?_
    by_cases escape : character = '\\'
    · simp [quotedCharacter, escape, other.symm]
    · simp [quotedCharacter, escape]

/-- A written character is read as itself, if anything stands behind it. -/
theorem readQuoted_quotedCharacter {escapes : Bool} {closing : Char} (character : Char)
    {behind : List Char} (continued : behind ≠ []) :
    readQuoted escapes closing (quotedCharacter escapes closing character ++ behind) =
      (readQuoted escapes closing behind).map (Prod.map (character :: ·) id) := by
  obtain ⟨next, rest, rfl⟩ := List.exists_cons_of_ne_nil continued
  unfold quotedCharacter
  split_ifs with escape closes
  · have backslash : escapes = true ∧ character = '\\' := by simpa using escape
    obtain ⟨rfl, rfl⟩ := backslash
    rfl
  · subst closes
    simp only [List.cons_append, List.nil_append, readQuoted, if_neg escape, ne_eq, not_true,
      if_false, if_true]
  · simp only [List.cons_append, List.nil_append, readQuoted, if_neg escape, ne_eq, closes,
      not_false_eq_true, if_true]

/-- What is written between quotes is read back, up to the closing quote. -/
theorem readQuoted_doubled {closing : Char} (other : closing ≠ '\\') (escapes : Bool)
    (characters : List Char) {following : List Char} (apart : following.head? ≠ some closing) :
    readQuoted escapes closing
        (doubled [closing] (if escapes then doubled ['\\'] characters else characters) ++
          closing :: following) =
      some (characters, following) := by
  rw [doubled_escaped other]
  induction characters with
  | nil =>
    cases following with
    | nil => simp [readQuoted]
    | cons next rest =>
      have single : next ≠ closing := by simpa using apart
      simp [readQuoted, other, single]
  | cons first rest inductionHypothesis =>
    rw [List.flatMap_cons, List.append_assoc, readQuoted_quotedCharacter first (by simp),
      inductionHypothesis]
    rfl

/-- Reads the parts of a name, each between quotes, with dots between them. What stands behind the
last part is left. -/
def readParts (opening closing : Char) (characters : List Char) :
    Option (List (List Char) × List Char) :=
  match characters with
  | [] => none
  | first :: rest =>
    if first = opening then
      match _found : readQuoted false closing rest with
      | none => none
      | some (part, '.' :: others) =>
        (readParts opening closing others).map (Prod.map (part :: ·) id)
      | some (part, following) => some ([part], following)
    else none
termination_by characters.length
decreasing_by
  have shorter := readQuoted_length _found
  simp only [List.length_cons] at shorter ⊢
  omega

section

variable {opening closing : Char}

/-- The last part of a name ends where no dot follows. -/
theorem readParts_last {rest part following : List Char}
    (read : readQuoted false closing rest = some (part, following))
    (undotted : following.head? ≠ some '.') :
    readParts opening closing (opening :: rest) = some ([part], following) := by
  rw [readParts, if_pos rfl]
  split
  · rename_i missing
    rw [read] at missing
    cases missing
  · rename_i found
    rw [read] at found
    cases found
    simp at undotted
  · rename_i found
    rw [read] at found
    cases found
    rfl

/-- Where a dot follows, another part does. -/
theorem readParts_more {rest part others : List Char}
    (read : readQuoted false closing rest = some (part, '.' :: others)) :
    readParts opening closing (opening :: rest) =
      (readParts opening closing others).map (Prod.map (part :: ·) id) := by
  rw [readParts, if_pos rfl]
  split
  · rename_i missing
    rw [read] at missing
    cases missing
  · rename_i found
    rw [read] at found
    cases found
    rfl
  · rename_i plain found
    rw [read] at found
    cases found
    exact absurd rfl (plain _)

/-- Quotations with dots between them are read back. -/
theorem readParts_dotted (unescaping : closing ≠ '\\') (dotted : closing ≠ '.')
    {parts : List (List Char)} (full : parts ≠ []) {following : List Char}
    (apart : following.head? ≠ some closing) (undotted : following.head? ≠ some '.') :
    readParts opening closing
        (List.intercalate ['.'] (parts.map (quotation opening closing)) ++ following) =
      some (parts, following) := by
  have shape : ∀ part behind : List Char, quotation opening closing part ++ behind =
      opening :: (doubled [closing] part ++ closing :: behind) := by simp [quotation]
  have written : ∀ (part : List Char) {behind : List Char}, behind.head? ≠ some closing →
      readQuoted false closing (doubled [closing] part ++ closing :: behind) =
        some (part, behind) :=
    fun part _ => readQuoted_doubled unescaping false part
  induction parts with
  | nil => exact absurd rfl full
  | cons part rest inductionHypothesis =>
    cases rest with
    | nil =>
      rw [List.map_singleton, List.intercalate_singleton, shape]
      exact readParts_last (written part apart) undotted
    | cons next others =>
      have behind := inductionHypothesis (List.cons_ne_nil next others)
      rw [List.map_cons] at behind
      -- The dot ends this part, as it does not double the closing quote before it.
      rw [List.map_cons, List.map_cons, List.intercalate_cons_cons, List.append_assoc,
        List.append_assoc, shape, List.singleton_append,
        readParts_more (written part (by simpa using dotted.symm)), behind]
      rfl

end

end Sql

/-- A part of a name that can be quoted. -/
structure QuotablePart (part : List Char) : Prop where
  full : part ≠ []
  short : part.length ≤ longestName
  legible : '\x00' ∉ part

/-- A part is quoted exactly if it can be. -/
theorem quotePart_accepted {quote : String × String} {what part : String} :
    (∃ quoted, (quotePart quote what part).result = .ok quoted) ↔ QuotablePart part.toList := by
  unfold quotePart
  cases fault : nameFault? what part with
  | none =>
    refine iff_of_true ⟨_, rfl⟩ ?_
    simp only [nameFault?] at fault
    split_ifs at fault with blank long nul
    refine ⟨by simpa using blank, ?_, by simpa using nul⟩
    rw [String.length_toList]
    exact Nat.not_lt.mp long
  | some failure =>
    refine iff_of_false ?_ fun quotable => ?_
    · rintro ⟨quoted, ended⟩
      rw [Reporting.result_raise] at ended
      cases ended
    · have blank : part ≠ "" := by simpa using quotable.full
      have long : ¬ longestName < part.length := by
        rw [← String.length_toList]
        exact Nat.not_lt.mpr quotable.short
      simp [nameFault?, blank, long, quotable.legible] at fault

/-- A name is quoted exactly if each of its parts can be. -/
theorem quoteName_accepted {quote : String × String} {what name : String} :
    (∃ quoted, (quoteName quote what name).result = .ok quoted) ↔
      ∀ part ∈ nameParts name, QuotablePart part := by
  have each : (∃ parts, (Text.parts '.' name).mapM (fun part =>
        (quotePart quote what (Text.trimmed part)).result) = .ok parts) ↔
      ∀ part ∈ nameParts name, QuotablePart part := by
    rw [Reporting.mapM_accepted]
    simp [Text.parts, Text.trimmed, nameParts, quotePart_accepted]
  rw [(gives_quoteName_parts quote what name).result_eq, ← each]
  simp only [Reporting.bind_ok]
  constructor
  · rintro ⟨_, parts, ended, -⟩
    exact ⟨parts, ended⟩
  · rintro ⟨parts, ended⟩
    exact ⟨_, parts, ended, rfl⟩

namespace Family

/-- What a built-in dialect quotes is read back by its rules. -/
theorem readParts_quoted {family : Family} {what name quoted : String}
    (ended : family.dialect.quoted what name = .ok quoted) (following : List Char)
    (apart : following.head? ≠ some family.quote.2) (undotted : following.head? ≠ some '.') :
    Sql.readParts family.quote.1 family.quote.2 (quoted.toList ++ following) =
      some (nameParts name, following) := by
  rw [quoteName_ok ended, family.enclosed_name]
  exact Sql.readParts_dotted (by cases family <;> decide) (by cases family <;> decide)
    (nameParts_ne_nil name) apart undotted

end Family

/-- A built-in dialect quotes a name exactly if each of its parts can be quoted: it is not empty,
not too long, and has no NUL in it. The quoted name is read back by the rules of the dialect, up to
its end and whatever follows, unless that goes on with the closing quote or a further part; what
is read are the parts of the name. Names are quoted alike only if their parts are the same. -/
theorem names_read_back (family : Family) (what name : String) :
    ((∃ quoted, family.dialect.quoted what name = .ok quoted) ↔
      ∀ part ∈ nameParts name, QuotablePart part) ∧
    ∀ quoted, family.dialect.quoted what name = .ok quoted →
      (∀ following : List Char, following.head? ≠ some family.quote.2 →
        following.head? ≠ some '.' →
        Sql.readParts family.quote.1 family.quote.2 (quoted.toList ++ following) =
          some (nameParts name, following)) ∧
      ∀ otherWhat other otherQuoted, family.dialect.quoted otherWhat other = .ok otherQuoted →
        (otherQuoted = quoted ↔ nameParts other = nameParts name) := by
  refine ⟨quoteName_accepted, fun quoted ended => ⟨fun following apart undotted => ?_, ?_⟩⟩
  · exact Family.readParts_quoted ended following apart undotted
  · intro otherWhat other otherQuoted otherEnded
    constructor
    · rintro rfl
      have read := Family.readParts_quoted ended [] (by simp) (by simp)
      have otherRead := Family.readParts_quoted otherEnded [] (by simp) (by simp)
      rw [read] at otherRead
      exact (Prod.mk.inj (Option.some.inj otherRead)).1.symm
    · intro same
      rw [← String.toList_inj, quoteName_ok otherEnded, quoteName_ok ended, same]

/-- In brackets only the closing one is doubled, and white space around a part is left out. -/
theorem bracketedName_read_back :
    Family.mssql.dialect.quoted "identifier" "a[]b. c" = .ok "[a[]]b].[c]" ∧
      Sql.readParts '[' ']' ("[a[]]b].[c]".toList ++ " = 1".toList) =
        some (["a[]b".toList, "c".toList], " = 1".toList) := by
  have ended : Family.mssql.dialect.quoted "identifier" "a[]b. c" = .ok "[a[]]b].[c]" := by cbv
  have parts : nameParts "a[]b. c" = ["a[]b".toList, "c".toList] := by decide
  refine ⟨ended, ?_⟩
  rw [← parts]
  exact ((names_read_back .mssql "identifier" "a[]b. c").2 "[a[]]b].[c]" ended).1 " = 1".toList
    (by decide) (by decide)

end PortableSql
