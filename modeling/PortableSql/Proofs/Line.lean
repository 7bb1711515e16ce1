import Mathlib.Data.List.Forall2
import PortableSql.Compile.Clause
import PortableSql.Proofs.Quotation

/-!
# Written lines

An emission ends with a text and a list of parameters, and does not say which question mark of the
text belongs to which parameter. A line keeps them together: it is the text part by part, and a
part is a text in which nothing is bound or the mark of one parameter.

Writing makes lines from the items of a clause. It consumes arguments and fails as an emission
does; it makes no records and does not remember which subqueries were named.
-/

namespace PortableSql

/-- A part of a line. -/
inductive Part where
  /-- A text in which nothing is bound. -/
  | text (characters : List Char)
  /-- The question mark of a parameter. -/
  | marker (parameter : Parameter)

/-- The text of a part. -/
@[simp] def Part.characters : Part → List Char
  | text characters => characters
  | marker _ => ['?']

/-- The parameters of a part. -/
@[simp] def Part.parameters : Part → List Parameter
  | text _ => []
  | marker parameter => [parameter]

/-- A text part by part. -/
abbrev Line := List Part

namespace Line

/-- The text of a line. -/
def characters (line : Line) : List Char := line.flatMap Part.characters

/-- The parameters of a line, in the order of their marks. -/
def parameters (line : Line) : List Parameter := line.flatMap Part.parameters

@[simp] theorem characters_nil : characters [] = [] := rfl

@[simp] theorem parameters_nil : parameters [] = [] := rfl

@[simp] theorem characters_cons (part : Part) (line : Line) :
    characters (part :: line) = part.characters ++ characters line := rfl

@[simp] theorem parameters_cons (part : Part) (line : Line) :
    parameters (part :: line) = part.parameters ++ parameters line := rfl

@[simp] theorem characters_append (line other : Line) :
    characters (line ++ other) = characters line ++ characters other := List.flatMap_append

@[simp] theorem parameters_append (line other : Line) :
    parameters (line ++ other) = parameters line ++ parameters other := List.flatMap_append

/-- The text of a line as a string. -/
def sql (line : Line) : String := String.ofList (characters line)

@[simp] theorem sql_nil : sql [] = "" := rfl

@[simp] theorem sql_append (line other : Line) : sql (line ++ other) = sql line ++ sql other := by
  simp only [sql, characters_append, String.ofList_append]

@[simp] theorem sql_marker (parameter : Parameter) : sql [.marker parameter] = "?" := rfl

theorem toList_sql (line : Line) : (sql line).toList = characters line := String.toList_ofList

/-- The statement of a line. -/
def statement (line : Line) : Statement where
  sql := sql line
  parameters := parameters line

/-- The line of a text in which nothing is bound. -/
def ofText (text : String) : Line := [.text text.toList]

@[simp] theorem characters_ofText (text : String) : characters (ofText text) = text.toList := by
  simp [ofText, Part.characters]

@[simp] theorem sql_ofText (text : String) : sql (ofText text) = text := by
  rw [sql, characters_ofText, String.ofList_toList]

@[simp] theorem parameters_ofText (text : String) : parameters (ofText text) = [] := rfl

/-- Nothing is bound in plain texts. -/
@[simp] theorem flatMap_parameters_ofText (texts : List String) :
    (texts.map ofText).flatMap parameters = [] := by
  rw [List.flatMap_map]
  exact List.flatMap_eq_nil_iff.mpr fun _ _ => rfl

/-- What an emission that writes a line ends with, and the parameters that are added then. -/
def emitted (earlier : List Parameter) (line : Line) : String × List Parameter :=
  (sql line, earlier ++ parameters line)

end Line

/-- A plan as it is written: the lines of its statements and what a cursor does with the rows. -/
structure WrittenPlan where
  lines : List Line
  rowFilter : Option RowFilter := none
  exportRows : Bool := false
  exportHints : Bool := false

/-- The plan of a written plan. -/
def WrittenPlan.plan (written : WrittenPlan) : Plan where
  statements := written.lines.map Line.statement
  rowFilter := written.rowFilter
  exportRows := written.exportRows
  exportHints := written.exportHints

/-- Writes something from arguments, or fails. -/
abbrev Writing (α : Type) := StateT Arguments (Except Failure) α

/-- Writes from given arguments; they have to be consumed. -/
def Writing.finish {α : Type} (arguments : List Value) (command : String) (writing : Writing α) :
    Except Failure α := do
  let (written, left) ← writing.run { values := arguments, command }
  left.ensureConsumed
  pure written

namespace Writing

variable {α β : Type}

/-- The writing can end with `written`. -/
def Writes (writing : Writing α) (written : α) : Prop :=
  ∃ arguments left, writing.run arguments = .ok (written, left)

theorem writes_pure {value written : α} (writes : Writes (pure value) written) :
    written = value := by
  obtain ⟨arguments, left, ran⟩ := writes
  cases ran
  rfl

theorem not_writes_throw {failure : Failure} {written : α} :
    ¬ Writes (throw failure) written := by
  rintro ⟨arguments, left, ran⟩
  cases ran

/-- A sequence ends with what its second step ends with after some end of the first one. -/
theorem writes_bind {first : Writing α} {next : α → Writing β} {written : β}
    (writes : Writes (first >>= next) written) :
    ∃ value, Writes first value ∧ Writes (next value) written := by
  obtain ⟨arguments, left, ran⟩ := writes
  rw [StateT.run_bind] at ran
  cases begun : first.run arguments with
  | error failure =>
    rw [begun] at ran
    cases ran
  | ok stage =>
    rw [begun] at ran
    exact ⟨stage.1, ⟨arguments, stage.2, begun⟩, ⟨stage.2, left, ran⟩⟩

theorem writes_map {writing : Writing α} {change : α → β} {written : β}
    (writes : Writes (change <$> writing) written) :
    ∃ value, Writes writing value ∧ written = change value := by
  rw [map_eq_pure_bind] at writes
  obtain ⟨value, first, second⟩ := writes_bind writes
  exact ⟨value, first, writes_pure second⟩

end Writing

/-- What is written next. -/
inductive Item where
  | text (characters : List Char)
  /-- A question mark of a clause. -/
  | placeholder (clause : String) (use : PlaceholderUse)
  /-- The number of a subquery, by its digits. -/
  | subquery (digits : List Char)

/-- The item of a piece of a clause. -/
def Item.ofPiece (clause : String) (use : PlaceholderUse) : Sql.Piece → Item
  | .placeholder => .placeholder clause use
  | .subquery digits => .subquery digits
  | .span characters => .text characters
  | .other character => .text [character]

/-- The items of a clause. -/
def clauseItems (dialect : Dialect) (clause : String) (use : PlaceholderUse) (subqueries : Bool)
    (text : String) : List Item :=
  (Sql.pieces { subqueries } dialect.table.quotedSpans text.toList).map (.ofPiece clause use)

/-- The items of a clause after its keyword; a clause without text has none. -/
def optionalItems (dialect : Dialect) (clause : String) (use : PlaceholderUse)
    (subqueries : Bool) : Option String → List Item
  | none => []
  | some text =>
    if text.isEmpty then []
    else .text (" " ++ clause ++ " ").toList :: clauseItems dialect clause use subqueries text

/-- Writes the next argument, as a name or as the mark of a parameter. -/
def writePlaceholder (dialect : Dialect) (clause : String) : PlaceholderUse → Writing Line
  | .refused => throw (.validation ("? placeholders are not allowed in " ++ clause) clause .null
      .argumentMismatch)
  | .name => do
    let value ← fun arguments => arguments.take clause
    Line.ofText <$> liftM (dialect.quotedValue (clause ++ " argument") value)
  | .value => do
    let value ← fun arguments => arguments.take clause
    pure [.marker (.infer value)]

/-- Why a number names none of so many subqueries. -/
def missingSubquery (index given : Nat) : Failure :=
  .validation
    ("subquery token \x7b" ++ toString index ++ "\x7d has no matching SUBQUERIES entry (" ++
      toString given ++ " given)")
    "SUBQUERIES" .null .argumentMismatch

/-- The line of the subquery that a token names. -/
def namedLine (subqueries : List (Except Failure Line)) (digits : List Char) :
    Except Failure Line :=
  match Sql.tokenIndex digits with
  | .error fault => .error (fault.failure (Text.quoted (String.ofList digits)))
  | .ok index => match subqueries[index]? with
    | none => .error (missingSubquery index subqueries.length)
    | some line => line

/-- A token names a line by the number of a subquery that has one. -/
theorem namedLine_ok {subqueries : List (Except Failure Line)} {digits : List Char} {line : Line} :
    namedLine subqueries digits = .ok line ↔
      ∃ index, Sql.tokenIndex digits = .ok index ∧ subqueries[index]? = some (.ok line) := by
  unfold namedLine
  cases Sql.tokenIndex digits with
  | error fault => simp
  | ok index => cases found : subqueries[index]? <;> simp [found]

/-- Writes one item. -/
def writeItem (dialect : Dialect) (subqueries : List (Except Failure Line)) :
    Item → Writing Line
  | .text characters => pure [.text characters]
  | .placeholder clause use => writePlaceholder dialect clause use
  | .subquery digits => do
    let line ← namedLine subqueries digits
    pure (Line.ofText "(" ++ line ++ Line.ofText ")")

/-- Writes items one after the other. -/
def writeItems (dialect : Dialect) (subqueries : List (Except Failure Line)) :
    List Item → Writing Line
  | [] => pure []
  | item :: rest => do
    let line ← writeItem dialect subqueries item
    let others ← writeItems dialect subqueries rest
    pure (line ++ others)

/-- Items that follow each other are written one after the other. -/
theorem writeItems_append (dialect : Dialect) (subqueries : List (Except Failure Line))
    (items others : List Item) :
    writeItems dialect subqueries (items ++ others) = (do
      let line ← writeItems dialect subqueries items
      let rest ← writeItems dialect subqueries others
      pure (line ++ rest)) := by
  induction items with
  | nil => simp [writeItems]
  | cons item rest inductionHypothesis =>
    simp only [List.cons_append, writeItems, inductionHypothesis, bind_assoc, pure_bind,
      List.append_assoc]

end PortableSql
