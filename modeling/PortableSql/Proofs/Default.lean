import PortableSql.Compile.Column
import PortableSql.Proofs.Outcome
import PortableSql.Proofs.Rereading

/-!
# The default of a column

A column is written with a gap for its default, and nothing else in it depends on the default. A
column definition that was written as a payload is read again as it was, but a default of null,
which is the usual value of the field, is left out. So the column is compiled as before, unless its
default was null: then the gap stays empty.
-/

namespace PortableSql

/-- A changed value is the outcome with its value changed. -/
theorem Reporting.result_map {α β : Type} (change : α → β) (computation : Reporting α) :
    (change <$> computation).result = computation.result.map change :=
  ending_map change computation []

open Reporting

/-- A column in a dialect but for its default: the words before it and the words behind it. -/
structure ColumnGap where
  before : List String
  after : List String
  constraints : List String
  followUp : List Statement

/-- The column with some words in its gap. -/
def ColumnGap.fill (words : List String) (gap : ColumnGap) : ColumnFragment where
  sql := " ".intercalate (gap.before ++ words ++ gap.after)
  constraints := gap.constraints
  followUp := gap.followUp

/-- The words of a default. -/
def ColumnDefinition.defaultWords (dialect : Dialect) (definition : ColumnDefinition) :
    List String :=
  definition.default?.toList.map fun value => "DEFAULT " ++ dialect.quoteLiteral value

/-- The options before the default of a column. -/
def optionsBefore (dialect : Dialect) (definition : ColumnDefinition) : List String :=
  textWhen (definition.autoIncrement && dialect.table.autoIncrementStyle = .identity)
    "IDENTITY(1,1)" ++
  textWhen definition.notNull "NOT NULL"

/-- The options between the default of a column and its references. -/
def optionsAfter (dialect : Dialect) (definition : ColumnDefinition) (inlinePrimaryKey : Bool) :
    List String :=
  textWhen (definition.autoIncrement && dialect.table.autoIncrementStyle = .keyword)
    "AUTO_INCREMENT" ++
  (if definition.autoIncrement && dialect.table.autoIncrementStyle = .rowid then
    ["PRIMARY KEY AUTOINCREMENT"]
   else textWhen (definition.primaryKey && inlinePrimaryKey) "PRIMARY KEY") ++
  textWhen definition.uniqueKey "UNIQUE"

/-- Compiles a column definition but for its default. -/
def compileGap (dialect : Dialect) (table name : String) (definition : ColumnDefinition)
    (inlinePrimaryKey : Bool) : Reporting ColumnGap := do
  let quoted ← dialect.quoteIdentifier name
  let head ← columnHead dialect name definition inlinePrimaryKey
  let (references, constraints) ← columnReference dialect quoted definition.references
  let (comments, followUp) ← columnComment dialect table name quoted definition.comment
  pure {
    before := quoted :: head :: optionsBefore dialect definition
    after := optionsAfter dialect definition inlinePrimaryKey ++ references ++ comments
    constraints, followUp }

section

variable (dialect : Dialect) (table name : String) (definition : ColumnDefinition)
  (inlinePrimaryKey : Bool)

/-- The default is one of the options. -/
theorem columnOptions_eq : columnOptions dialect definition inlinePrimaryKey =
    optionsBefore dialect definition ++ definition.defaultWords dialect ++
      optionsAfter dialect definition inlinePrimaryKey := by
  have default : textWhen definition.hasDefault
      ("DEFAULT " ++ defaultLiteral dialect definition) = definition.defaultWords dialect := by
    unfold ColumnDefinition.hasDefault defaultLiteral ColumnDefinition.defaultWords
    cases definition.default? <;> rfl
  simp only [columnOptions, default, optionsBefore, optionsAfter, List.append_assoc]

/-- A column is compiled by filling its gap with its default. -/
theorem compileColumn_eq : compileColumn dialect table name definition inlinePrimaryKey =
    ColumnGap.fill (definition.defaultWords dialect) <$>
      compileGap dialect table name definition inlinePrimaryKey := by
  simp only [compileColumn, compileGap, columnOptions_eq, map_eq_pure_bind, bind_assoc, pure_bind,
    ColumnGap.fill, List.cons_append, List.append_assoc, String.intercalate_cons_cons]

/-- What surrounds the default does not depend on it. -/
theorem compileGap_settled : compileGap dialect table name definition.settled inlinePrimaryKey =
    compileGap dialect table name definition inlinePrimaryKey := by
  rfl

end

/-- Only a default of null is not kept by a payload. -/
theorem ColumnDefinition.settled_of_ne {definition : ColumnDefinition}
    (other : definition.default? ≠ some .null) : definition.settled = definition := by
  have kept : settled.settledDefault definition.default? = definition.default? := by
    unfold settled.settledDefault
    split
    case h_1 null => exact absurd null other
    case h_2 => rfl
  unfold settled
  rw [kept]

/-- One more word makes a text longer. -/
theorem length_intercalate_lt (before after : List String) {word : String} (full : word ≠ "") :
    (" ".intercalate (before ++ after)).length <
      (" ".intercalate (before ++ [word] ++ after)).length := by
  have letters : 0 < word.length := by
    rw [Nat.pos_iff_ne_zero]
    intro none
    exact full (String.length_eq_zero_iff.mp none)
  by_cases noneBefore : before = []
  · subst noneBefore
    by_cases noneAfter : after = []
    · subst noneAfter
      simpa using letters
    · rw [List.nil_append, List.nil_append,
        String.intercalate_append_of_ne_nil (List.cons_ne_nil word []) noneAfter,
        String.intercalate_singleton, String.length_append, String.length_append]
      omega
  · have shorter : before ++ [word] ≠ [] := by simp
    have spaced : (" ".intercalate (before ++ [word])).length =
        (" ".intercalate before).length + " ".length + word.length := by
      rw [String.intercalate_append_of_ne_nil noneBefore (List.cons_ne_nil word []),
        String.intercalate_singleton, String.length_append, String.length_append]
    by_cases noneAfter : after = []
    · subst noneAfter
      rw [List.append_nil, List.append_nil, spaced]
      omega
    · rw [String.intercalate_append_of_ne_nil noneBefore noneAfter,
        String.intercalate_append_of_ne_nil shorter noneAfter]
      simp only [String.length_append, spaced]
      omega

/-- A column with a word in its gap has another text than without. -/
theorem ColumnGap.fill_ne (gap : ColumnGap) {word : String} (full : word ≠ "") :
    gap.fill [] ≠ gap.fill [word] := by
  intro same
  have longer := length_intercalate_lt gap.before gap.after full
  have texts := congrArg (fun fragment => fragment.sql.length) same
  simp only [fill, List.append_nil] at texts
  omega

/-- A column definition that was read is read again from the payload that is written for it. Without
an explicit null as its default it is compiled as before, in every dialect and for every table.
With one it is compiled to the same, with the same failures and records, but for the words
`DEFAULT NULL`, which are left out; so it ends as before only if it fails.

Proof: what is read again is the definition as its payload tells it, which differs from it by a
default of null. A column is compiled by filling the gap that is left for the default, and the gap
is the same for both definitions. -/
theorem columns_recompiled {value : Value} {definition : ColumnDefinition}
    (accepted : Payload.readColumn value = .accepted definition) :
    ∃ again, Payload.readColumn (Payload.writeColumn definition) = .accepted again ∧
      ∀ dialect table name inlinePrimaryKey,
        let compiled := compileColumn dialect table name definition inlinePrimaryKey
        let recompiled := compileColumn dialect table name again inlinePrimaryKey
        (definition.default? ≠ some .null → recompiled = compiled) ∧
        (definition.default? = some .null → ∃ gap : Reporting ColumnGap,
          compiled = ColumnGap.fill ["DEFAULT NULL"] <$> gap ∧
          recompiled = ColumnGap.fill [] <$> gap) ∧
        (recompiled.result = compiled.result ↔
          definition.default? ≠ some .null ∨ ∃ failure, compiled.result = .error failure) := by
  refine ⟨definition.settled, Payload.rereads_column _ _ accepted, ?_⟩
  intro dialect table name inlinePrimaryKey compiled recompiled
  by_cases null : definition.default? = some .null
  · let gap := compileGap dialect table name definition inlinePrimaryKey
    have filled : compiled = ColumnGap.fill ["DEFAULT NULL"] <$> gap := by
      have words : definition.defaultWords dialect = ["DEFAULT NULL"] := by
        rw [ColumnDefinition.defaultWords, null]
        rfl
      rw [← words]
      exact compileColumn_eq dialect table name definition inlinePrimaryKey
    have empty : recompiled = ColumnGap.fill [] <$> gap := by
      have words : definition.settled.defaultWords dialect = [] := by
        simp only [ColumnDefinition.defaultWords, ColumnDefinition.settled, null]
        rfl
      calc recompiled
        _ = ColumnGap.fill (definition.settled.defaultWords dialect) <$>
            compileGap dialect table name definition.settled inlinePrimaryKey :=
          compileColumn_eq dialect table name definition.settled inlinePrimaryKey
        _ = ColumnGap.fill [] <$> gap := by rw [words, compileGap_settled]
    refine ⟨fun other => absurd null other, fun _ => ⟨gap, filled, empty⟩, ?_⟩
    rw [filled, empty, result_map, result_map]
    cases gap.result with
    | error failure => simp [Except.map]
    | ok gap => simpa [Except.map, null] using gap.fill_ne (by decide)
  · have kept : recompiled = compiled := by
      simp only [recompiled, ColumnDefinition.settled_of_ne null, compiled]
    refine ⟨fun _ => kept, fun wrong => absurd wrong null, ?_⟩
    rw [kept]
    simp [null]

/-- A column whose default is an explicit null. -/
def nullableOwner : ColumnDefinition where
  type := .integer
  default? := some .null
  comment := some "who"

/-- The explicit null of a column is written with it, but is lost when it is read again. -/
theorem nullableOwner_recompiled :
    Payload.readColumn (.list [.text "integer",
      .dictionary [(.text "DEFAULT", .null), (.text "COMMENT", .text "who")]]) =
        .accepted nullableOwner ∧
    ∃ again, Payload.readColumn (Payload.writeColumn nullableOwner) = .accepted again ∧
      let compiled := compileColumn Family.mysql.dialect "notes" "owner" nullableOwner
      let recompiled := compileColumn Family.mysql.dialect "notes" "owner" again
      compiled.result.toOption.map ColumnFragment.sql =
        some "\x60owner\x60 INT DEFAULT NULL COMMENT 'who'" ∧
      recompiled.result.toOption.map ColumnFragment.sql =
        some "\x60owner\x60 INT COMMENT 'who'" ∧
      recompiled.result ≠ compiled.result := by
  have accepted : Payload.readColumn (.list [.text "integer",
      .dictionary [(.text "DEFAULT", .null), (.text "COMMENT", .text "who")]]) =
        .accepted nullableOwner := rfl
  obtain ⟨again, read, compiles⟩ := columns_recompiled accepted
  obtain ⟨-, -, differ⟩ := compiles Family.mysql.dialect "notes" "owner" true
  have written : (compileColumn Family.mysql.dialect "notes" "owner"
      nullableOwner).result.toOption.map
        ColumnFragment.sql = some "\x60owner\x60 INT DEFAULT NULL COMMENT 'who'" := by
    decide +kernel
  have reread : again = { nullableOwner with default? := none } :=
    (Checked.accepted.inj read).symm
  refine ⟨accepted, again, read, written, ?_, ?_⟩
  · rw [reread]
    decide +kernel
  · intro same
    rcases differ.mp same with other | ⟨failure, failed⟩
    · exact other rfl
    · rw [failed] at written
      cases written

end PortableSql
