import PortableSql.Dialect.Builtin
import PortableSql.Log.Message
import PortableSql.Proofs.Scan
import PortableSql.Server.Marker

/-!
# Marks and messages

A driver is handed a statement with marks of its own in the place of question marks. Drivers that
mark by percent signs treat the whole statement as a message and write the values into it, so the
other percent signs are doubled first. Doubling moves no border between pieces as long as no quote
is a percent sign, and a message gives every doubled sign back as one.

Messages are read forwards: a rule for each thing that can come first says what the whole message
becomes when it is known what the rest becomes.
-/

namespace PortableSql

/-- A step that ends is followed by the next one. -/
theorem run_bind_ok {σ α β : Type} {first : StateT σ (Except Failure) α}
    {next : α → StateT σ (Except Failure) β} {state after : σ} {value : α}
    (ended : first.run state = .ok (value, after)) :
    (first >>= next).run state = (next value).run after := by
  rw [StateT.run_bind, ended]
  rfl

@[simp] theorem doubledPercent_nil : doubledPercent [] = [] := rfl

@[simp] theorem doubledPercent_percent (rest : List Char) :
    doubledPercent ('%' :: rest) = '%' :: '%' :: doubledPercent rest := rfl

theorem doubledPercent_cons {first : Char} (other : first ≠ '%') (rest : List Char) :
    doubledPercent (first :: rest) = first :: doubledPercent rest := by
  simp [doubledPercent, other]

/-- What follows a character that is no percent sign still follows it at once. -/
theorem exists_doubledPercent (first : Char) (rest : List Char) :
    ∃ more, doubledPercent (first :: rest) = first :: more := by
  by_cases percent : first = '%'
  · subst percent
    exact ⟨_, doubledPercent_percent rest⟩
  · exact ⟨_, doubledPercent_cons percent rest⟩

namespace Sql

/-- No quote of the delimiters is a percent sign. -/
def PercentFree (delimiters : List Delimiter) : Prop :=
  ∀ delimiter ∈ delimiters, onlyCharacter? delimiter.opening ≠ some '%' ∧
    onlyCharacter? delimiter.closing ≠ some '%'

section PercentFree

variable {delimiters : List Delimiter}

theorem PercentFree.opens_nothing (free : PercentFree delimiters) :
    closingFor? delimiters '%' = none := by
  rw [closingFor?, Option.map_eq_none_iff, List.find?_eq_none]
  intro delimiter member
  simpa using (free delimiter (List.mem_reverse.mp member)).1

theorem PercentFree.closing_ne (free : PercentFree delimiters) {opening : Char}
    {closing : Option Char} (opens : closingFor? delimiters opening = some closing) :
    closing ≠ some '%' := by
  rw [closingFor?, Option.map_eq_some_iff] at opens
  obtain ⟨delimiter, found, rfl⟩ := opens
  exact (free delimiter (List.mem_reverse.mp (List.mem_of_find?_eq_some found))).2

end PercentFree

/-- Doubling the percent signs of a text doubles those of a span and those after it. -/
theorem splitSpan_doubled {escapes : Bool} {closing : Option Char} (other : closing ≠ some '%')
    (characters : List Char) :
    splitSpan escapes closing (doubledPercent characters) =
      (doubledPercent (splitSpan escapes closing characters).1,
        doubledPercent (splitSpan escapes closing characters).2) := by
  have percent : ∀ rest, splitSpan escapes closing ('%' :: rest) =
      ('%' :: (splitSpan escapes closing rest).1, (splitSpan escapes closing rest).2) :=
    splitSpan_inside (by simp) other.symm
  fun_induction splitSpan escapes closing characters with
  | case1 => rfl
  | case2 last =>
    by_cases isPercent : last = '%'
    · subst isPercent
      exact percent ['%']
    · simp only [doubledPercent_cons isPercent, doubledPercent_nil, splitSpan]
  | case3 first second rest paired inside after split inductionHypothesis =>
    have firstOther : first ≠ '%' := by
      rintro rfl
      simp [other.symm] at paired
    rw [split] at inductionHypothesis
    rw [doubledPercent_cons firstOther, doubledPercent_cons firstOther]
    by_cases isPercent : second = '%'
    · -- Only a backslash pairs with a percent sign; the second of the two stands inside.
      subst isPercent
      simp only [other.symm, decide_false, Bool.and_false, Bool.or_false] at paired
      simp [splitSpan, paired, percent, inductionHypothesis]
    · simp only [doubledPercent_cons isPercent, splitSpan, paired, if_true, inductionHypothesis]
  | case4 first second rest unpaired closes =>
    have firstOther : first ≠ '%' := by
      rintro rfl
      exact other closes.symm
    obtain ⟨more, doubled⟩ := exists_doubledPercent second rest
    change _ = (doubledPercent [first], doubledPercent (second :: rest))
    rw [doubledPercent_cons firstOther, doubledPercent_cons firstOther, doubledPercent_nil, doubled,
      splitSpan, if_neg unpaired, if_pos closes]
  | case5 first second rest unpaired unclosing inside after split inductionHypothesis =>
    simp only [Bool.or_eq_true, not_or, Bool.not_eq_true] at unpaired
    rw [split] at inductionHypothesis
    by_cases isPercent : first = '%'
    · subst isPercent
      simp [percent, inductionHypothesis]
    · simp [doubledPercent_cons isPercent, splitSpan_inside unpaired.1 unclosing,
        inductionHypothesis]

/-- A piece whose percent signs are doubled; one outside of quotes becomes two pieces. -/
def Piece.doubled : Piece → List Piece
  | span characters => [span (doubledPercent characters)]
  | other character => (doubledPercent [character]).map other
  | piece => [piece]

/-- Doubling the percent signs of a text doubles them in its pieces. -/
theorem pieces_doubled {delimiters : List Delimiter} (free : PercentFree delimiters)
    (characters : List Char) :
    pieces { subqueries := false } delimiters (doubledPercent characters) =
      (pieces { subqueries := false } delimiters characters).flatMap Piece.doubled := by
  fun_induction pieces { subqueries := false } delimiters characters with
  | case1 => simp [pieces]
  | case2 first rest closing opens inductionHypothesis =>
    have firstOther : first ≠ '%' := by
      rintro rfl
      rw [free.opens_nothing] at opens
      cases opens
    rw [doubledPercent_cons firstOther, pieces, List.flatMap_cons, ← inductionHypothesis]
    simp [opens, splitSpan_doubled (free.closing_ne opens), Piece.doubled,
      doubledPercent_cons firstOther]
  | case3 first rest closed isMark inductionHypothesis =>
    simp only [Bool.true_and, decide_eq_true_eq] at isMark
    subst isMark
    rw [doubledPercent_cons (by decide), pieces, List.flatMap_cons, ← inductionHypothesis]
    simp [closed, Piece.doubled]
  | case4 first rest _ _ isBrace => simp at isBrace
  | case5 first rest _ _ isBrace => simp at isBrace
  | case6 first rest closed notMark _ inductionHypothesis =>
    rw [List.flatMap_cons, ← inductionHypothesis]
    by_cases isPercent : first = '%'
    · subst isPercent
      simp [pieces, free.opens_nothing, Piece.doubled]
    · simp only [Bool.true_and, decide_eq_true_eq] at notMark
      rw [doubledPercent_cons isPercent, pieces]
      simp [closed, notMark, Piece.doubled, doubledPercent_cons isPercent]

/-- The text of pieces in which each placeholder, by its position, is replaced. -/
def filled (replacement : Nat → List Char) (position : Nat) : List Piece → List Char
  | [] => []
  | .placeholder :: rest => replacement position ++ filled replacement (position + 1) rest
  | piece :: rest => piece.text ++ filled replacement position rest

/-- A piece that is neither a placeholder nor the token of a subquery. -/
def Piece.IsText : Piece → Prop
  | span _ | other _ => True
  | placeholder | subquery _ => False

/-- Where no subqueries are looked for, pieces other than placeholders are texts. -/
theorem isText_of_mem_pieces {delimiters : List Delimiter} {characters : List Char} {piece : Piece}
    (member : piece ∈ pieces { subqueries := false } delimiters characters) :
    piece = .placeholder ∨ piece.IsText := by
  fun_induction pieces { subqueries := false } delimiters characters with
  | case1 => cases member
  | case2 first rest closing opens inductionHypothesis =>
    rcases List.mem_cons.mp member with rfl | later
    · exact .inr trivial
    · exact inductionHypothesis later
  | case3 first rest closed isMark inductionHypothesis =>
    rcases List.mem_cons.mp member with rfl | later
    · exact .inl rfl
    · exact inductionHypothesis later
  | case4 first rest _ _ isBrace => simp at isBrace
  | case5 first rest _ _ isBrace => simp at isBrace
  | case6 first rest closed notMark _ inductionHypothesis =>
    rcases List.mem_cons.mp member with rfl | later
    · exact .inr trivial
    · exact inductionHypothesis later

theorem filled_text {replacement : Nat → List Char} {piece : Piece} (isText : piece.IsText)
    (position : Nat) (rest : List Piece) :
    filled replacement position (piece :: rest) =
      piece.text ++ filled replacement position rest := by
  cases piece <;> first | rfl | cases isText

/-- What is outside of placeholders is doubled where it stands. -/
theorem filled_doubled {replacement : Nat → List Char} {piece : Piece} (isText : piece.IsText)
    (position : Nat) (rest : List Piece) :
    filled replacement position (piece.doubled ++ rest) =
      doubledPercent piece.text ++ filled replacement position rest := by
  cases piece with
  | span characters => rfl
  | other character =>
    by_cases percent : character = '%'
    · subst percent
      rfl
    · simp [Piece.doubled, Piece.text, doubledPercent_cons percent, filled]
  | placeholder => cases isText
  | subquery digits => cases isText

/-- The placeholders among pieces. -/
def placeholders (found : List Piece) : Nat := (found.filter (· = .placeholder)).length

@[simp] theorem placeholders_placeholder (rest : List Piece) :
    placeholders (.placeholder :: rest) = placeholders rest + 1 := by
  simp [placeholders]

theorem placeholders_text {piece : Piece} (isText : piece.IsText) (rest : List Piece) :
    placeholders (piece :: rest) = placeholders rest := by
  cases piece <;> first | rfl | cases isText

/-- Doubling adds no placeholders. -/
theorem isText_doubled {found : List Piece}
    (texts : ∀ piece ∈ found, piece = .placeholder ∨ piece.IsText) :
    ∀ piece ∈ found.flatMap Piece.doubled, piece = .placeholder ∨ piece.IsText := by
  intro piece member
  obtain ⟨whole, inside, part⟩ := List.mem_flatMap.mp member
  rcases texts whole inside with rfl | isText
  · exact .inl (List.mem_singleton.mp part)
  · cases whole with
    | span characters =>
      rw [List.mem_singleton.mp part]
      exact .inr trivial
    | other character =>
      obtain ⟨_, _, rfl⟩ := List.mem_map.mp part
      exact .inr trivial
    | placeholder => cases isText
    | subquery digits => cases isText

theorem placeholders_doubled {found : List Piece}
    (texts : ∀ piece ∈ found, piece = .placeholder ∨ piece.IsText) :
    placeholders (found.flatMap Piece.doubled) = placeholders found := by
  induction found with
  | nil => rfl
  | cons piece rest inductionHypothesis =>
    obtain ⟨head, tail⟩ := List.forall_mem_cons.mp texts
    have continued := inductionHypothesis tail
    rcases head with rfl | isText
    · rw [placeholders_placeholder, ← continued]
      exact placeholders_placeholder _
    · rw [placeholders_text isText, ← continued, List.flatMap_cons]
      cases piece with
      | span characters => rfl
      | other character =>
        by_cases percent : character = '%'
        · subst percent
          rfl
        · simp [Piece.doubled, doubledPercent_cons percent, placeholders]
      | placeholder => cases isText
      | subquery digits => cases isText

end Sql

/-- The marks of a driver take the places of the placeholders, as long as there are parameters. -/
theorem replaceM_nextMarker (style : MarkerStyle) (parameters : Nat) {found : List Sql.Piece}
    (texts : ∀ piece ∈ found, piece = .placeholder ∨ piece.IsText) {position : Nat}
    (enough : position + Sql.placeholders found ≤ parameters) :
    (Sql.replaceM (nextMarker style parameters) (fun _ => pure "") found).run position =
      .ok (Sql.filled (fun position => (style.marker position).toList) position found,
        position + Sql.placeholders found) := by
  induction found generalizing position with
  | nil => rfl
  | cons piece rest inductionHypothesis =>
    obtain ⟨head, tail⟩ := List.forall_mem_cons.mp texts
    rcases head with rfl | isText
    · rw [Sql.placeholders_placeholder] at enough
      have continued := inductionHypothesis tail
        (show position + 1 + Sql.placeholders rest ≤ parameters by omega)
      have marked : (nextMarker style parameters).run position =
          .ok (style.marker position, position + 1) := by
        have named : ¬(style.usesNames && decide (parameters ≤ position)) = true := by
          simp only [Bool.and_eq_true, decide_eq_true_eq, not_and]
          omega
        change (if _ then _ else _ : StateT Nat (Except Failure) String) position = _
        rw [if_neg named]
        rfl
      have replaced : (Sql.replaceM (nextMarker style parameters) (fun _ => pure "")
          (.placeholder :: rest)).run position =
          ((nextMarker style parameters).run position >>= fun marked =>
            (Sql.replaceM (nextMarker style parameters) (fun _ => pure "") rest).run marked.2 >>=
              fun others => .ok (marked.1.toList ++ others.1, others.2)) := rfl
      rw [replaced, marked]
      change ((Sql.replaceM (nextMarker style parameters) (fun _ => pure "") rest).run
        (position + 1) >>= fun others => .ok ((style.marker position).toList ++ others.1, _)) = _
      rw [continued, Sql.placeholders_placeholder, ← Nat.add_assoc, Nat.add_right_comm]
      rfl
    · rw [Sql.placeholders_text isText] at enough ⊢
      have continued := inductionHypothesis tail enough
      have kept : (Sql.replaceM (nextMarker style parameters) (fun _ => pure "")
          (piece :: rest)).run position =
          ((Sql.replaceM (nextMarker style parameters) (fun _ => pure "") rest).run position >>=
            fun others => .ok (piece.text ++ others.1, others.2)) := by
        cases piece <;> first | rfl | cases isText
      rw [kept, continued, Sql.filled_text isText]
      rfl
namespace Log

/-- What is written after some plain characters, from the next percent sign on. -/
def afterPlain (total steps : Nat) (plain : Text.Points) : Scanner Text.Points := do
  let state ← get
  match state.rest with
  | [] => pure plain
  | [_] => throw Scanner.incomplete
  | _ :: '%' :: rest => do
    set { state with rest }
    return plain ++ '%'.toNat :: (← writeMessage total steps)
  | _ :: rest => do
    set { state with rest }
    let directive ← Scanner.directive
    let position := total - (← get).rest.length - 1
    let written ← directive.apply position (← Scanner.argument)
    return plain ++ written ++ (← writeMessage total steps)

/-- Plain characters stand before everything that follows. -/
theorem afterPlain_eq (total steps : Nat) (plain : Text.Points) :
    afterPlain total steps plain = (plain ++ ·) <$> afterPlain total steps [] := by
  unfold afterPlain
  rw [map_bind]
  congr 1
  funext state
  split
  · simp
  · rfl
  · simp
  · simp

/-- A message begins with its characters before the first percent sign. -/
theorem run_writeMessage (total steps : Nat) (rest : List Char) (supply : Supply) :
    (writeMessage total (steps + 1)).run ⟨rest, supply⟩ =
      (afterPlain total steps ((rest.takeWhile (· ≠ '%')).map Char.toNat)).run
        ⟨rest.dropWhile (· ≠ '%'), supply⟩ := rfl

/-- A directive whose name is followed by the letter of texts has nothing else to say. -/
theorem run_directive {start rest : List Char} {supply after : Supply}
    (named : Scanner.name.run ⟨start, supply⟩ = .ok ((), ⟨'s' :: rest, after⟩)) :
    Scanner.directive.run ⟨start, supply⟩ = .ok ({ letter := 's' }, ⟨rest, after⟩) := by
  have unflagged : (Scanner.takeWhile ['#', '0', '-', ' ', '+'].contains).run ⟨'s' :: rest, after⟩ =
    .ok ([], ⟨'s' :: rest, after⟩) := rfl
  have unwide : (Scanner.number Scanner.widthCount).run ⟨'s' :: rest, after⟩ =
    .ok (none, ⟨'s' :: rest, after⟩) := rfl
  have whole : Scanner.precision.run ⟨'s' :: rest, after⟩ = .ok (none, ⟨'s' :: rest, after⟩) := rfl
  have short : Scanner.length.run ⟨'s' :: rest, after⟩ = .ok ((), ⟨'s' :: rest, after⟩) := rfl
  unfold Scanner.directive
  rw [run_bind_ok named, run_bind_ok unflagged, run_bind_ok unwide, run_bind_ok whole,
    run_bind_ok short]
  rfl

/-- Such a directive writes its argument as it is. -/
theorem apply_text (position : Nat) (value : Value) :
    ({ letter := 's' } : Directive).apply position value = .ok (Text.points value.plain) := by
  simp [Directive.apply, Directive.placed, Directive.cut]

/-- With enough steps the message is written as a text; some arguments are left. -/
def Reads (total : Nat) (before : Scanning) (written : Text.Points) (left : Supply) : Prop :=
  ∀ steps, before.rest.length < steps →
    (writeMessage total steps).run before = .ok (written, ⟨[], left⟩)

section Reads

variable {total : Nat} {supply left : Supply} {rest : List Char} {written : Text.Points}

theorem reads_nil : Reads total ⟨[], supply⟩ [] supply := by
  intro steps enough
  cases steps with
  | zero => omega
  | succ steps => rfl

/-- A character that is no percent sign stands for itself. -/
theorem Reads.plain {first : Char} (other : first ≠ '%')
    (reads : Reads total ⟨rest, supply⟩ written left) :
    Reads total ⟨first :: rest, supply⟩ (first.toNat :: written) left := by
  intro steps enough
  cases steps with
  | zero => omega
  | succ steps =>
    have continued := reads (steps + 1) (Nat.lt_of_succ_lt enough)
    rw [run_writeMessage, afterPlain_eq, StateT.run_map] at continued ⊢
    rw [List.takeWhile_cons_of_pos (by simpa using other),
      List.dropWhile_cons_of_pos (by simpa using other)]
    cases ended : (afterPlain total steps []).run ⟨rest.dropWhile (· ≠ '%'), supply⟩ with
    | error failure =>
      rw [ended] at continued
      cases continued
    | ok later =>
      obtain ⟨tail, after⟩ := later
      rw [ended] at continued
      cases continued
      rfl

/-- Two percent signs stand for one. -/
theorem Reads.percent (reads : Reads total ⟨rest, supply⟩ written left) :
    Reads total ⟨'%' :: '%' :: rest, supply⟩ ('%'.toNat :: written) left := by
  intro steps enough
  cases steps with
  | zero => omega
  | succ steps =>
    simp only [List.length_cons] at enough
    have continued := reads steps (by simp only; omega)
    have taken : (writeMessage total (steps + 1)).run ⟨'%' :: '%' :: rest, supply⟩ =
        ((writeMessage total steps).run ⟨rest, supply⟩ >>= fun later =>
          .ok ('%'.toNat :: later.1, later.2)) := rfl
    rw [taken, continued]
    rfl

/-- Doubled percent signs stand for those that were doubled. -/
theorem Reads.doubled (reads : Reads total ⟨rest, supply⟩ written left) (characters : List Char) :
    Reads total ⟨doubledPercent characters ++ rest, supply⟩ (characters.map Char.toNat ++ written)
      left := by
  induction characters with
  | nil => exact reads
  | cons first characters inductionHypothesis =>
    by_cases percent : first = '%'
    · subst percent
      exact inductionHypothesis.percent
    · rw [doubledPercent_cons percent]
      exact inductionHypothesis.plain percent

/-- A percent sign that is not followed by another begins a directive. -/
theorem run_writeMessage_directive {second : Char} (single : second ≠ '%') (total steps : Nat)
    (more : List Char) (supply : Supply) :
    (writeMessage total (steps + 1)).run ⟨'%' :: second :: more, supply⟩ =
      (do
        let directive ← Scanner.directive
        let position := total - (← get).rest.length - 1
        let written ← directive.apply position (← Scanner.argument)
        return [] ++ written ++ (← writeMessage total steps) : Scanner Text.Points).run
          ⟨second :: more, supply⟩ := by
  rw [run_writeMessage]
  change (afterPlain total steps []).run ⟨'%' :: second :: more, supply⟩ = _
  rw [afterPlain]
  change (match '%' :: second :: more with
    | [] => _
    | [_] => _
    | _ :: '%' :: rest => _
    | _ :: rest => _ : Scanner Text.Points).run _ = _
  split <;> simp_all

/-- A directive for a text writes the argument that its name chooses, or else the next one. -/
theorem Reads.directive {second : Char} {more : List Char} (next : Supply) (value : Value)
    (single : second ≠ '%') (shorter : rest.length ≤ more.length)
    (named : Scanner.name.run ⟨second :: more, supply⟩ =
      .ok ((), ⟨'s' :: rest, { next with next := value :: next.next }⟩))
    (reads : Reads total ⟨rest, next⟩ written left) :
    Reads total ⟨'%' :: second :: more, supply⟩ (Text.points value.plain ++ written) left := by
  intro steps enough
  cases steps with
  | zero => omega
  | succ steps =>
    simp only [List.length_cons] at enough
    have continued := reads steps (by simp only; omega)
    have seen : (get : Scanner Scanning).run ⟨rest, { next with next := value :: next.next }⟩ =
      .ok (⟨rest, _⟩, ⟨rest, _⟩) := rfl
    have chosen : Scanner.argument.run ⟨rest, { next with next := value :: next.next }⟩ =
      .ok (value, ⟨rest, next⟩) := rfl
    rw [run_writeMessage_directive single, run_bind_ok (run_directive named), run_bind_ok seen,
      run_bind_ok chosen, apply_text]
    change ((fun later => [] ++ Text.points value.plain ++ later) <$>
      writeMessage total steps).run _ = _
    rw [StateT.run_map, continued]
    rfl

/-- Without a name the next argument is written. -/
theorem Reads.text {named? : Option Value} (value : Value) {next : List Value}
    (reads : Reads total ⟨rest, ⟨named?, next⟩⟩ written left) :
    Reads total ⟨'%' :: 's' :: rest, ⟨named?, value :: next⟩⟩
      (Text.points value.plain ++ written) left :=
  Reads.directive ⟨named?, next⟩ value (by decide) (Nat.le_refl _) rfl reads

/-- A name that has no parentheses ends at the first one. -/
theorem nameFrom_append {name : List Char} (plain : ∀ character ∈ name, character ∉ ['(', ')'])
    (rest : List Char) : Scanner.nameFrom 0 (name ++ ')' :: rest) = some (name, rest) := by
  induction name with
  | nil => rfl
  | cons first name inductionHypothesis =>
    obtain ⟨head, tail⟩ := List.forall_mem_cons.mp plain
    simp only [List.mem_cons, List.not_mem_nil, or_false, not_or] at head
    rw [List.cons_append, Scanner.nameFrom, inductionHypothesis tail]
    · rfl
    · exact head.1
    · exact head.2

/-- A name in parentheses takes the argument of that name next. -/
theorem run_name {rest name after : List Char} {named value : Value} {next : List Value}
    (ends : Scanner.nameFrom 0 rest = some (name, after))
    (found : namedPart named (String.ofList name) = .ok value) :
    Scanner.name.run ⟨'(' :: rest, ⟨some named, next⟩⟩ =
      .ok ((), ⟨after, ⟨some named, [value]⟩⟩) := by
  have seen : (get : Scanner Scanning).run ⟨'(' :: rest, ⟨some named, next⟩⟩ =
    .ok (⟨'(' :: rest, ⟨some named, next⟩⟩, ⟨'(' :: rest, ⟨some named, next⟩⟩) := rfl
  rw [Scanner.name, run_bind_ok seen]
  simp only [ends, found]
  rfl

/-- An argument that is asked for by its name is written. -/
theorem Reads.named {name : String} {named : Value} (value : Value) {next : List Value}
    (plain : ∀ character ∈ name.toList, character ∉ ['(', ')'])
    (found : namedPart named name = .ok value)
    (reads : Reads total ⟨rest, ⟨some named, []⟩⟩ written left) :
    Reads total ⟨("%(" ++ name ++ ")s").toList ++ rest, ⟨some named, next⟩⟩
      (Text.points value.plain ++ written) left := by
  have spelled : ("%(" ++ name ++ ")s").toList ++ rest =
      '%' :: '(' :: (name.toList ++ ')' :: 's' :: rest) := by
    simp [String.toList_append]
  rw [spelled]
  refine Reads.directive ⟨some named, []⟩ value (by decide) ?_ ?_ reads
  · simp only [List.length_append, List.length_cons]
    omega
  · exact run_name (nameFrom_append plain _) (by rwa [String.ofList_toList])

/-- What is read from a statement with marks, when each mark is read as what is written for it. -/
theorem Reads.marked {parameters : Nat} {mark : Nat → List Char} {rendering : Nat → String}
    (supplyAt : Nat → Supply)
    (marks : ∀ position < parameters, ∀ {rest written},
      Reads total ⟨rest, supplyAt (position + 1)⟩ written left →
        Reads total ⟨mark position ++ rest, supplyAt position⟩
          (Text.points (rendering position) ++ written) left)
    (ends : supplyAt parameters = left) {found : List Sql.Piece}
    (texts : ∀ piece ∈ found, piece = .placeholder ∨ piece.IsText) {position : Nat}
    (counted : position + Sql.placeholders found = parameters) :
    Reads total ⟨Sql.filled mark position (found.flatMap Sql.Piece.doubled), supplyAt position⟩
      ((Sql.filled (fun position => (rendering position).toList) position found).map Char.toNat)
      left := by
  induction found generalizing position with
  | nil =>
    obtain rfl : position = parameters := counted
    rw [ends]
    exact reads_nil
  | cons piece found inductionHypothesis =>
    obtain ⟨head, tail⟩ := List.forall_mem_cons.mp texts
    rcases head with rfl | isText
    · rw [Sql.placeholders_placeholder] at counted
      have continued := inductionHypothesis tail
        (show position + 1 + Sql.placeholders found = parameters by omega)
      rw [Sql.filled, List.map_append]
      exact marks position (by omega) continued
    · rw [Sql.placeholders_text isText] at counted
      have continued := (inductionHypothesis tail counted).doubled piece.text
      rw [List.flatMap_cons, Sql.filled_doubled isText, Sql.filled_text isText, List.map_append]
      exact continued

end Reads

/-- A message that is read to its end with all arguments is what was written. -/
theorem messageText_of_reads {message : String} {args : Value} {written : Text.Points}
    (left : Supply) (holds : args.holds = true) (finished : left.named?.isSome ∨ left.next = [])
    (reads : Reads message.toList.length ⟨message.toList, .of args⟩ written left) :
    messageText message args = .ok written := by
  have ended := reads (message.toList.length + 1) (Nat.lt_succ_self _)
  have nothingLeft : ¬(left.named?.isNone && !left.next.isEmpty) = true := by
    rcases finished with named | nothing
    · cases known : left.named? <;> simp_all
    · simp [nothing]
  rw [messageText, if_neg (by simp [holds])]
  change ((writeMessage message.toList.length (message.toList.length + 1)).run
    ⟨message.toList, .of args⟩ >>= fun ended => _) = _
  rw [ended]
  change (if left.named?.isNone && !left.next.isEmpty then _ else _) = _
  rw [if_neg nothingLeft]
  rfl

end Log

/-- Different positions have different names. -/
theorem parameterName_inj {position other : Nat} :
    parameterName position = parameterName other ↔ position = other := by
  refine ⟨fun named => ?_, congrArg parameterName⟩
  have texts := congrArg String.toList named
  simp only [parameterName, String.toList_append, List.append_cancel_left_eq,
    Nat.toString_eq_repr, Nat.toList_repr] at texts
  have numbers := congrArg (Nat.ofDigitChars 10 · 0) texts
  simpa only [Nat.ofDigitChars_toDigits (by decide : 1 < 10) (by decide)] using numbers

/-- A name has no parentheses. -/
theorem plain_parameterName (position : Nat) :
    ∀ character ∈ (parameterName position).toList, character ∉ ['(', ')'] := by
  intro character member parenthesis
  simp only [parameterName, String.toList_append, Nat.toString_eq_repr, Nat.toList_repr,
    List.mem_append] at member
  rcases member with letter | digit
  · obtain rfl : character = 'p' := List.mem_singleton.mp letter
    revert parenthesis
    decide
  · have isDigit := Nat.isDigit_of_mem_toDigits (by decide) (by decide) digit
    simp only [List.mem_cons, List.not_mem_nil, or_false] at parenthesis
    rcases parenthesis with rfl | rfl
    · cases isDigit
    · cases isDigit

/-- The value at a position is found by its name. -/
theorem valueOf?_parameterName {position : Nat} (value : Nat → Value) {positions : List Nat}
    (member : position ∈ positions) :
    Payload.valueOf? (parameterName position)
      (positions.map fun position => (.text (parameterName position), value position)) =
        some (value position) := by
  induction positions with
  | nil => cases member
  | cons first positions inductionHypothesis =>
    rw [List.map_cons, Payload.valueOf?]
    by_cases same : first = position
    · rw [if_pos (parameterName_inj.mpr same), same]
    · rw [if_neg (fun named => same (parameterName_inj.mp named))]
      exact inductionHypothesis ((List.mem_cons.mp member).resolve_left (Ne.symm same))

/-- The built-in dialects have no percent signs for quotes. -/
theorem Family.percentFree (family : Family) :
    Sql.PercentFree family.dialect.table.quotedSpans := by
  unfold Sql.PercentFree
  cases family <;> decide

/-- A statement text with the placeholders replaced that are outside of the quotes of a dialect,
each by its position from zero. Everything else is as it was. -/
def Dialect.filled (dialect : Dialect) (sql : String) (replacement : Nat → String) : String :=
  String.ofList (Sql.filled (fun position => (replacement position).toList) 0
    (Sql.pieces { subqueries := false } dialect.table.quotedSpans sql.toList))

/-- A text and values as a driver is handed them say what a statement and its values say: the
values are in order, and what the driver makes of the text is the statement with something in the
place of each placeholder, which is a mark of the driver or what it writes for the value. -/
def MarkerStyle.Keeps (style : MarkerStyle) (dialect : Dialect) (sql : String)
    (values : List Value) (text : String) (bound : BoundValues) : Prop :=
  let positions := List.range values.length
  let named := BoundValues.named ((positions.map parameterName).zip values)
  match style with
  | .question => text = sql ∧ bound = .positional values
  | .colonNumber =>
    text = dialect.filled sql (fun position => ":" ++ toString (position + 1)) ∧
      bound = .positional values
  | .dollarNumber =>
    text = dialect.filled sql (fun position => "$" ++ toString (position + 1)) ∧
      bound = .positional values
  | .colonName =>
    text = dialect.filled sql (fun position => ":" ++ parameterName position) ∧ bound = named
  | .percent =>
    (∀ rendering : Nat → String,
      Log.messageText text (.tuple (positions.map fun position => .text (rendering position))) =
        .ok (Text.points (dialect.filled sql rendering))) ∧ bound = .positional values
  | .percentName =>
    (∀ rendering : Nat → String,
      Log.messageText text (.dictionary (positions.map fun position =>
        (.text (parameterName position), .text (rendering position)))) =
          .ok (Text.points (dialect.filled sql rendering))) ∧ bound = named

/-- Values by name are in the order of their names. -/
theorem named_values (values : List Value) :
    (values.zipIdx.map fun (value, position) => (parameterName position, value)) =
      ((List.range values.length).map parameterName).zip values := by
  refine List.ext_getElem (by simp) fun position _ _ => ?_
  simp

/-- The marks of a driver take the places of the placeholders, in the text or in the text with
doubled percent signs. -/
theorem replaceMarkers_ok {style : MarkerStyle} (other : style ≠ .question)
    {delimiters : List Sql.Delimiter} (free : Sql.PercentFree delimiters) {parameters : Nat}
    {sql : String} (counted : Sql.countPlaceholders delimiters sql = parameters) :
    replaceMarkers style delimiters parameters sql =
      .ok (String.ofList (Sql.filled (fun position => (style.marker position).toList) 0
        (if style.usesPercent
          then (Sql.pieces { subqueries := false } delimiters sql.toList).flatMap Sql.Piece.doubled
          else Sql.pieces { subqueries := false } delimiters sql.toList))) := by
  have texts : ∀ piece ∈ Sql.pieces { subqueries := false } delimiters sql.toList,
      piece = .placeholder ∨ piece.IsText := fun _ member => Sql.isText_of_mem_pieces member
  have enough : 0 + Sql.placeholders (Sql.pieces { subqueries := false } delimiters sql.toList) ≤
      parameters := by
    rw [Nat.zero_add, ← counted]
    exact Nat.le_refl _
  unfold replaceMarkers
  rw [if_neg other]
  cases percent : style.usesPercent
  · simp only [Bool.false_eq_true, if_false]
    rw [replaceM_nextMarker style parameters texts enough]
    rfl
  · simp only [if_true]
    rw [Sql.pieces_doubled free, replaceM_nextMarker style parameters
      (Sql.isText_doubled texts) (by rwa [Sql.placeholders_doubled texts])]
    rfl

/-- Marks that take arguments in order are read as what is written for them. -/
theorem messageText_percent {parameters : Nat} (some : parameters ≠ 0) {found : List Sql.Piece}
    (texts : ∀ piece ∈ found, piece = .placeholder ∨ piece.IsText)
    (counted : 0 + Sql.placeholders found = parameters) (rendering : Nat → String) :
    Log.messageText
        (String.ofList (Sql.filled (fun position => (MarkerStyle.percent.marker position).toList) 0
          (found.flatMap Sql.Piece.doubled)))
        (.tuple ((List.range parameters).map fun position => .text (rendering position))) =
      .ok (Text.points
        (String.ofList (Sql.filled (fun position => (rendering position).toList) 0 found))) := by
  let supplyAt (position : Nat) : Log.Supply :=
    { next := ((List.range parameters).drop position).map fun position =>
        .text (rendering position) }
  refine Log.messageText_of_reads (supplyAt parameters) (by simpa [Value.holds] using some)
    (.inr ?_) ?_
  · simp [supplyAt]
  · rw [Text.points, String.toList_ofList, String.toList_ofList]
    refine Log.Reads.marked supplyAt ?_ rfl texts counted
    intro position within rest written reads
    have next : supplyAt position =
        ⟨none, .text (rendering position) :: (supplyAt (position + 1)).next⟩ := by
      simp only [supplyAt]
      rw [List.drop_eq_getElem_cons (by simpa using within)]
      simp
    have mark : (MarkerStyle.percent.marker position).toList = ['%', 's'] := by
      simp [MarkerStyle.marker]
    rw [next, mark]
    exact Log.Reads.text (.text (rendering position)) reads

/-- Marks that take arguments by name are read as what is written for them. -/
theorem messageText_percentName {parameters : Nat} (some : parameters ≠ 0) {found : List Sql.Piece}
    (texts : ∀ piece ∈ found, piece = .placeholder ∨ piece.IsText)
    (counted : 0 + Sql.placeholders found = parameters) (rendering : Nat → String) :
    Log.messageText
        (String.ofList (Sql.filled
          (fun position => (MarkerStyle.percentName.marker position).toList) 0
          (found.flatMap Sql.Piece.doubled)))
        (.dictionary ((List.range parameters).map fun position =>
          (.text (parameterName position), .text (rendering position)))) =
      .ok (Text.points
        (String.ofList (Sql.filled (fun position => (rendering position).toList) 0 found))) := by
  let args : Value := .dictionary ((List.range parameters).map fun position =>
    (.text (parameterName position), .text (rendering position)))
  -- Only before the first mark the dictionary itself is the next argument.
  let supplyAt (position : Nat) : Log.Supply :=
    { named? := args, next := if position = 0 then [args] else [] }
  refine Log.messageText_of_reads (supplyAt parameters) (by simpa [Value.holds] using some)
    (.inl rfl) ?_
  rw [Text.points, String.toList_ofList, String.toList_ofList]
  refine Log.Reads.marked supplyAt ?_ rfl texts counted
  intro position within rest written reads
  refine Log.Reads.named (.text (rendering position)) (plain_parameterName position) ?_ reads
  have found := valueOf?_parameterName (fun position => .text (rendering position))
    (List.mem_range.mpr within)
  simp only [args, Log.namedPart, found]

/-- A statement is bound by replacing its marks and arranging its values. -/
theorem bindStatement_ok {style : MarkerStyle} {delimiters : List Sql.Delimiter} {sql text : String}
    {values : List Value}
    (replaced : replaceMarkers style delimiters values.length sql = .ok text) :
    bindStatement style delimiters sql values = .ok (text, .arrange style values) := by
  rw [bindStatement, replaced]
  rfl

/-- Binding the values of a statement loses nothing of its text, in every dialect and style. -/
theorem bindStatement_keeps (family : Family) (style : MarkerStyle) {sql : String}
    {values : List Value} (parameters : values ≠ [])
    (counted : Sql.countPlaceholders family.dialect.table.quotedSpans sql = values.length) :
    ∃ text bound,
      bindStatement style family.dialect.table.quotedSpans sql values = .ok (text, bound) ∧
        style.Keeps family.dialect sql values text bound := by
  have free := family.percentFree
  have texts : ∀ piece ∈ Sql.pieces { subqueries := false } family.dialect.table.quotedSpans
      sql.toList, piece = .placeholder ∨ piece.IsText :=
    fun _ member => Sql.isText_of_mem_pieces member
  have all : 0 + Sql.placeholders (Sql.pieces { subqueries := false }
      family.dialect.table.quotedSpans sql.toList) = values.length :=
    (Nat.zero_add _).trans counted
  have named : BoundValues.arrange .colonName values =
      .named (((List.range values.length).map parameterName).zip values) :=
    congrArg BoundValues.named (named_values values)
  have some : values.length ≠ 0 := by simpa using parameters
  cases style with
  | question => exact ⟨_, _, bindStatement_ok rfl, rfl, rfl⟩
  | colonNumber =>
    exact ⟨_, _, bindStatement_ok (replaceMarkers_ok (by decide) free counted), rfl, rfl⟩
  | dollarNumber =>
    exact ⟨_, _, bindStatement_ok (replaceMarkers_ok (by decide) free counted), rfl, rfl⟩
  | colonName =>
    exact ⟨_, _, bindStatement_ok (replaceMarkers_ok (by decide) free counted), rfl, named⟩
  | percent =>
    exact ⟨_, _, bindStatement_ok (replaceMarkers_ok (by decide) free counted),
      messageText_percent some texts all, rfl⟩
  | percentName =>
    exact ⟨_, _, bindStatement_ok (replaceMarkers_ok (by decide) free counted),
      messageText_percentName some texts all, named⟩

/-- A quoted question mark, a percent sign in quotes and one that touches a mark. -/
theorem keeps_remainder :
    [Value.int 7, .text "%s"] ≠ [] ∧
      Sql.countPlaceholders Family.mysql.dialect.table.quotedSpans
        "SELECT '?%', size %? FROM notes WHERE title = ?" = [Value.int 7, .text "%s"].length ∧
      ∃ text bound,
        bindStatement .percentName Family.mysql.dialect.table.quotedSpans
            "SELECT '?%', size %? FROM notes WHERE title = ?" [.int 7, .text "%s"] =
          .ok (text, bound) ∧
        MarkerStyle.percentName.Keeps Family.mysql.dialect
          "SELECT '?%', size %? FROM notes WHERE title = ?" [.int 7, .text "%s"] text bound := by
  have parameters : [Value.int 7, .text "%s"] ≠ [] := by simp
  have counted : Sql.countPlaceholders Family.mysql.dialect.table.quotedSpans
      "SELECT '?%', size %? FROM notes WHERE title = ?" = [Value.int 7, .text "%s"].length := by
    rw [Sql.count_flags]
    decide
  exact ⟨parameters, counted, bindStatement_keeps .mysql .percentName parameters counted⟩

end PortableSql
