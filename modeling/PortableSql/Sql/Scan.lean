import PortableSql.Value.Integer

/-!
# Scanning clause texts

A clause text is divided, from left to right, into quoted spans, placeholders, subquery tokens and
other single characters. Nothing is lost: the texts of the pieces make up the clause again. Inside
a quoted span nothing is recognised. A span ends at the first closing quote that is neither
doubled nor, between single or double quotes, preceded by a backslash that escapes it; without
one it reaches to the end of the text.

Which characters open a span depends on the dialect; whether placeholders and subquery tokens are
recognised depends on the caller. A quote is one character: a delimiter whose opening text is
longer, or empty, opens nothing, and one whose closing text is longer, or empty, is never closed.
-/

namespace PortableSql.Sql

/-- A pair of quotes between which nothing is recognised. -/
structure Delimiter where
  opening : String
  closing : String
deriving DecidableEq, Repr

/-- The delimiters that standard SQL knows. -/
def standardDelimiters : List Delimiter := [⟨"'", "'"⟩, ⟨"\"", "\""⟩]

/-- The character of a text that has just one. -/
def onlyCharacter? (text : String) : Option Char :=
  match text.toList with
  | [character] => some character
  | _ => none

/-- The span that a character opens, if it opens one: the character that ends the span, or none
where nothing does. Of several delimiters with the same opening the last one counts. -/
def closingFor? (delimiters : List Delimiter) (character : Char) : Option (Option Char) :=
  (delimiters.reverse.find? fun delimiter => onlyCharacter? delimiter.opening = some character).map
    fun delimiter => onlyCharacter? delimiter.closing

/-- What a scan looks for outside quoted spans. -/
structure Tokens where
  placeholders : Bool := true
  subqueries : Bool := true
deriving DecidableEq, Repr

/-- A piece of a clause text. -/
inductive Piece where
  /-- A quoted span with its quotes. -/
  | span (characters : List Char)
  /-- A question mark that stands for an argument. -/
  | placeholder
  /-- The number of a subquery between braces, by its digits. -/
  | subquery (digits : List Char)
  | other (character : Char)
deriving DecidableEq, Repr

/-- The text of a piece. -/
def Piece.text : Piece → List Char
  | span characters => characters
  | placeholder => ['?']
  | subquery digits => '{' :: digits ++ ['}']
  | other character => [character]

/-- Splits after the closing character of a span: first what belongs to the span after its
opening, then what follows it. -/
def splitSpan (escapes : Bool) (closing : Option Char) : List Char → List Char × List Char
  | [] => ([], [])
  | [last] => ([last], [])
  | first :: second :: rest =>
    if (escapes && first = '\\') || (some first = closing && some second = closing) then
      let (inside, after) := splitSpan escapes closing rest
      (first :: second :: inside, after)
    else if some first = closing then ([first], second :: rest)
    else
      let (inside, after) := splitSpan escapes closing (second :: rest)
      (first :: inside, after)

/-- Splits after a subquery token: first its digits, then what follows its closing brace. -/
def splitToken (characters : List Char) : Option (List Char × List Char) :=
  match characters.dropWhile Text.isDecimal with
  | '}' :: after =>
    if (characters.takeWhile Text.isDecimal).isEmpty then none
    else some (characters.takeWhile Text.isDecimal, after)
  | _ => none

/-- Splitting a span loses nothing. -/
theorem splitSpan_append (escapes : Bool) (closing : Option Char) (characters : List Char) :
    (splitSpan escapes closing characters).1 ++ (splitSpan escapes closing characters).2 =
      characters := by
  fun_induction splitSpan escapes closing characters <;> simp_all

theorem splitSpan_length (escapes : Bool) (closing : Option Char) (characters : List Char) :
    (splitSpan escapes closing characters).2.length ≤ characters.length := by
  fun_induction splitSpan escapes closing characters <;> simp_all <;> omega

/-- A token is its digits and a closing brace. -/
theorem splitToken_append {characters digits after : List Char}
    (found : splitToken characters = some (digits, after)) :
    characters = digits ++ '}' :: after := by
  unfold splitToken at found
  split at found
  · rename_i rest split
    split at found
    · simp at found
    · simp only [Option.some.injEq, Prod.mk.injEq] at found
      rw [← found.1, ← found.2, ← split, List.takeWhile_append_dropWhile]
  · simp at found

theorem splitToken_length {characters digits after : List Char}
    (found : splitToken characters = some (digits, after)) :
    after.length < characters.length := by
  unfold splitToken at found
  split at found
  · rename_i rest split
    have bound : (characters.dropWhile Text.isDecimal).length ≤ characters.length :=
      (List.dropWhile_sublist Text.isDecimal).length_le
    rw [split] at bound
    simp only [List.length_cons] at bound
    split at found
    · simp at found
    · simp only [Option.some.injEq, Prod.mk.injEq] at found
      rw [← found.2]
      omega
  · simp at found

/-- Between single and double quotes a backslash escapes the next character. -/
def escapesIn (opening : Char) : Bool := opening = '\'' || opening = '"'

/-- The pieces of a clause text. -/
def pieces (tokens : Tokens) (delimiters : List Delimiter) : List Char → List Piece
  | [] => []
  | first :: rest =>
    match closingFor? delimiters first with
    | some closing =>
      .span (first :: (splitSpan (escapesIn first) closing rest).1) ::
        pieces tokens delimiters (splitSpan (escapesIn first) closing rest).2
    | none =>
      if tokens.placeholders && first = '?' then .placeholder :: pieces tokens delimiters rest
      else if tokens.subqueries && first = '{' then
        match _found : splitToken rest with
        | some (digits, after) => .subquery digits :: pieces tokens delimiters after
        | none => .other first :: pieces tokens delimiters rest
      else .other first :: pieces tokens delimiters rest
termination_by characters => characters.length
decreasing_by
  · exact Nat.lt_succ_of_le (splitSpan_length ..)
  · exact Nat.lt_succ_self _
  · exact Nat.lt_succ_of_lt (splitToken_length _found)
  · exact Nat.lt_succ_self _
  · exact Nat.lt_succ_self _

/-- The texts of the pieces make up the clause again. -/
theorem flatMap_text_pieces (tokens : Tokens) (delimiters : List Delimiter)
    (characters : List Char) :
    (pieces tokens delimiters characters).flatMap Piece.text = characters := by
  fun_induction pieces tokens delimiters characters with
  | case1 => rfl
  | case2 first rest closing _ inductionHypothesis =>
    simp [Piece.text, inductionHypothesis, splitSpan_append]
  | case3 first rest _ isMark inductionHypothesis =>
    simp only [Bool.and_eq_true, decide_eq_true_eq] at isMark
    simp [Piece.text, inductionHypothesis, isMark.2]
  | case4 first rest _ _ isBrace digits after found inductionHypothesis =>
    simp only [Bool.and_eq_true, decide_eq_true_eq] at isBrace
    simp [Piece.text, inductionHypothesis, isBrace.2, splitToken_append found]
  | case5 first rest _ _ _ _ inductionHypothesis => simp [Piece.text, inductionHypothesis]
  | case6 first rest _ _ _ inductionHypothesis => simp [Piece.text, inductionHypothesis]

/-- Replaces pieces by texts, from left to right; other pieces keep their text. -/
def replaceM {m : Type → Type} [Monad m] (placeholder : m String)
    (subquery : List Char → m String) : List Piece → m (List Char)
  | [] => pure []
  | piece :: rest => do
    let text ← match piece with
      | .placeholder => do pure (← placeholder).toList
      | .subquery digits => do pure (← subquery digits).toList
      | other => pure other.text
    let others ← replaceM placeholder subquery rest
    pure (text ++ others)

/-- The number of a subquery token. -/
def tokenIndex (digits : List Char) : Except Text.NumeralFault Nat := Text.readDigits digits

section

variable {m : Type → Type} [Monad m] [MonadExceptOf Failure m]

/-- A callback for the number of a subquery as one for its digits, which may be too many. -/
def numbered (subquery : Nat → m String) (digits : List Char) : m String :=
  match tokenIndex digits with
  | .error fault => throw (fault.failure (Text.quoted (String.ofList digits)))
  | .ok index => subquery index

/-- The text with its tokens replaced by what the callbacks return; without a callback they are
ordinary characters. -/
def substitute (delimiters : List Delimiter) (placeholder? : Option (m String))
    (subquery? : Option (Nat → m String)) (text : String) : m String := do
  let tokens : Tokens := {
    placeholders := placeholder?.isSome
    subqueries := subquery?.isSome }
  let characters ← replaceM (placeholder?.getD (pure "?"))
    (numbered (subquery?.getD fun _ => pure "")) (pieces tokens delimiters text.toList)
  pure (String.ofList characters)

end

/-- The placeholders of a text, outside quoted spans. -/
def countPlaceholders (delimiters : List Delimiter) (text : String) : Nat :=
  ((pieces { subqueries := false } delimiters text.toList).filter (· = .placeholder)).length

end PortableSql.Sql
