import PortableSql.Compile.Select
import PortableSql.Proofs.Emission
import PortableSql.Proofs.Numeral

/-!
# Selects as they are written

A select is written as one line: its clauses item by item, and its limit where the dialect has the
standard one. Subqueries are written first, each from its own arguments, and the lines that tokens
name become parts of the line.
-/

namespace PortableSql

/-- Reads the number of a part of a limit. -/
def readLimitPart (part : List Char) : Writing Int :=
  if part = ['?'] then do
    let value ← fun arguments => arguments.take "LIMIT"
    liftM (limitArgument value)
  else liftM (Text.integer (String.ofList part))

/-- The parts of a written limit. -/
def limitParts (limit : String) : List (List Char) := (Text.cut ',' limit.toList).map Text.trim

/-- What the numbers of a limit stand for. -/
def limitOf : List Int → Option (Int × Int)
  | [] => none
  | [count] => some (0, count)
  | offset :: count :: _ => some (offset, count)

/-- Reads the offset and the count of a limit. -/
def readLimit : Option Limit → Writing (Option (Int × Int))
  | none => pure none
  | some (.count rows) => pure (some (0, rows))
  | some (.written limit) => limitOf <$> (limitParts limit).mapM readLimitPart

namespace Select

/-- The clauses of a select after its columns, in their order: the keyword, what placeholders
stand for, and the text. -/
def clauses (select : Select) : List (String × PlaceholderUse × Option String) :=
  [("FROM", .name, select.source), ("WHERE", .value, select.condition),
    ("GROUP BY", .name, select.grouping), ("HAVING", .value, select.having),
    ("ORDER BY", .name, select.ordering)]

/-- The items of the clauses after the columns. -/
def clauseItems (dialect : Dialect) (select : Select) : List Item :=
  select.clauses.flatMap fun (keyword, use, text) => optionalItems dialect keyword use true text

/-- The items of a select before its limit. -/
def items (dialect : Dialect) (into : Option String) (select : Select) : List Item :=
  .text (if select.distinct then "SELECT DISTINCT " else "SELECT ").toList ::
    (PortableSql.clauseItems dialect "columns" .refused true select.columns.joined ++
      .text ((into.map (" INTO " ++ ·)).getD "").toList :: select.clauseItems dialect)

end Select

mutual

/-- What holds of a select when it holds of its subqueries holds of every select. -/
@[elab_as_elim]
theorem Select.induction {motive : Select → Prop}
    (step : ∀ select, (∀ nested ∈ select.subqueries, motive nested) → motive select) :
    (select : Select) → motive select
  | { subqueries, .. } => step _ (selects_induction step subqueries)

theorem selects_induction {motive : Select → Prop}
    (step : ∀ select, (∀ nested ∈ select.subqueries, motive nested) → motive select) :
    (selects : List Select) → ∀ nested ∈ selects, motive nested
  | [] => fun _ member => nomatch member
  | select :: rest =>
    List.forall_mem_cons.mpr ⟨Select.induction step select, selects_induction step rest⟩

end

/-- The numbers of a limit can be written, unless the limit is for the cursor. -/
def LimitWritable (dialect : Dialect) (nested : Bool) : Option (Int × Int) → Prop
  | none => True
  | some (offset, count) => dialect.table.limitSyntax = .limitOffset ∨ nested = true →
    Writable offset ∧ Writable count

/-- A written select with its limit: in the text, for the cursor, or left out of a subquery. -/
def limited (dialect : Dialect) (nested : Bool) (body : Line) :
    Option (Int × Int) → Line × Option RowFilter
  | none => (body, none)
  | some (offset, count) =>
    if dialect.table.limitSyntax = .limitOffset then
      (body ++ Line.ofText (standardLimit offset count), none)
    else if nested then (body, none)
    else (body, some { skip := offset, take := some count })

/-- Writes the limit of a written select. A limit that is left out is shown in a warning. -/
def writeLimit (dialect : Dialect) (nested : Bool) (body : Line) :
    Option (Int × Int) → Except Failure (Line × Option RowFilter)
  | none => .ok (body, none)
  | some (offset, count) =>
    if dialect.table.limitSyntax = .limitOffset then do
      let limit ← limitSql offset count
      pure (body ++ Line.ofText limit, none)
    else if nested then do
      let _ ← limitShown offset count
      pure (body, none)
    else pure (body, some { skip := offset, take := some count })

/-- A limit is written exactly when its numbers can be, or when it is for the cursor. -/
theorem writeLimit_ok {dialect : Dialect} {nested : Bool} {body : Line}
    {limit : Option (Int × Int)} {written : Line × Option RowFilter} :
    writeLimit dialect nested body limit = .ok written ↔
      LimitWritable dialect nested limit ∧ written = limited dialect nested body limit := by
  cases limit with
  | none => simp [writeLimit, LimitWritable, limited, eq_comm]
  | some numbers =>
    obtain ⟨offset, count⟩ := numbers
    unfold writeLimit LimitWritable limited
    by_cases standard : dialect.table.limitSyntax = .limitOffset
    · simp only [standard, if_true, true_or, true_implies, Reporting.bind_ok, limitSql_ok]
      constructor
      · rintro ⟨_, ⟨writable, rfl⟩, ⟨⟩⟩
        exact ⟨writable, rfl⟩
      · rintro ⟨writable, rfl⟩
        exact ⟨_, ⟨writable, rfl⟩, rfl⟩
    · cases nested with
      | false =>
        simp only [standard, if_false, Bool.false_eq_true, or_self, false_implies, true_and]
        exact ⟨fun ended => (Except.ok.inj ended).symm, fun same => congrArg _ same.symm⟩
      | true =>
        simp only [standard, if_false, if_true, or_true, true_implies, Reporting.bind_ok,
          ← limitShown_ok]
        constructor
        · rintro ⟨shown, known, ⟨⟩⟩
          exact ⟨⟨shown, known⟩, rfl⟩
        · rintro ⟨⟨shown, known⟩, rfl⟩
          exact ⟨shown, known, rfl⟩

/-- Writes a select, given the lines of its subqueries. -/
def writeSelect (dialect : Dialect) (nested : Bool) (into : Option String)
    (subqueries : List (Except Failure Line)) (select : Select) :
    Writing (Line × Option RowFilter) := do
  let body ← writeItems dialect subqueries (select.items dialect into)
  let limit ← readLimit select.limit
  writeLimit dialect nested body limit

/-- The line of a select, given the lines of its subqueries. -/
def assembledLine (dialect : Dialect) (nested : Bool) (into : Option String)
    (subqueries : List (Except Failure Line)) (select : Select) :
    Except Failure (Line × Option RowFilter) :=
  (writeSelect dialect nested into subqueries select).finish select.args "SELECT"

mutual

/-- The line of a select as a subquery. -/
def nestedLine (dialect : Dialect) : Select → Except Failure Line
  | select@{ subqueries, .. } =>
    (assembledLine dialect true none (nestedLines dialect subqueries) select).map Prod.fst

/-- The lines of subqueries, each on its own. -/
def nestedLines (dialect : Dialect) : List Select → List (Except Failure Line)
  | [] => []
  | select :: rest => nestedLine dialect select :: nestedLines dialect rest

end

/-- The line of a select, with its rows going into a table if one is named. -/
def selectLine (dialect : Dialect) (nested : Bool) (into : Option String) (select : Select) :
    Except Failure (Line × Option RowFilter) :=
  assembledLine dialect nested into (nestedLines dialect select.subqueries) select

/-- The lines of subqueries are their own lines. -/
theorem nestedLines_eq_map (dialect : Dialect) (selects : List Select) :
    nestedLines dialect selects = selects.map (nestedLine dialect) := by
  induction selects with
  | nil => rfl
  | cons select rest inductionHypothesis => rw [nestedLines, inductionHypothesis, List.map_cons]

theorem nestedLine_eq (dialect : Dialect) (select : Select) :
    nestedLine dialect select =
      (assembledLine dialect true none (nestedLines dialect select.subqueries) select).map
        Prod.fst := by
  cases select
  rfl

theorem limitPart_follows (part : List Char) (earlier : List Parameter) :
    Emitting.Follows (fun number => (number, earlier)) earlier (limitPart part)
      (readLimitPart part) := by
  unfold limitPart readLimitPart
  by_cases mark : part = ['?']
  · simp only [mark, if_true]
    refine (Emitting.follows_next earlier "LIMIT").bind fun value => ?_
    cases limitArgument value with
    | ok number => exact Emitting.follows_pure rfl
    | error failure => exact Emitting.follows_refuse earlier failure
  · simp only [mark, if_false]
    cases Text.integer (String.ofList part) with
    | ok number => exact Emitting.follows_pure rfl
    | error failure => exact Emitting.follows_refuse earlier failure

/-- A limit is resolved as it is read; it adds no parameters. -/
theorem resolveLimit_follows (limit : Option Limit) (earlier : List Parameter) :
    Emitting.Follows (fun limit => (limit, earlier)) earlier (resolveLimit limit)
      (readLimit limit) := by
  cases limit with
  | none => exact Emitting.follows_pure rfl
  | some limit => cases limit with
    | count rows => exact Emitting.follows_pure rfl
    | written limit =>
      simp only [resolveLimit, readLimit, map_eq_pure_bind]
      refine (Emitting.follows_mapM (fun part => limitPart_follows part earlier)
        (limitParts limit)).bind fun numbers => ?_
      rcases numbers with _ | ⟨first, _ | ⟨second, others⟩⟩
      · exact Emitting.follows_pure rfl
      · exact Emitting.follows_pure rfl
      · exact Emitting.follows_pure rfl

/-- A select is written clause by clause. -/
theorem writeItems_select (dialect : Dialect) (lines : List (Except Failure Line))
    (into : Option String) (select : Select) :
    writeItems dialect lines (select.items dialect into) = (do
      let write := writeItems dialect lines
      let optional := fun clause use => optionalItems dialect clause use true
      let columns ← write (clauseItems dialect "columns" .refused true select.columns.joined)
      let source ← write (optional "FROM" .name select.source)
      let condition ← write (optional "WHERE" .value select.condition)
      let grouping ← write (optional "GROUP BY" .name select.grouping)
      let having ← write (optional "HAVING" .value select.having)
      let ordering ← write (optional "ORDER BY" .name select.ordering)
      pure (Line.ofText (if select.distinct then "SELECT DISTINCT " else "SELECT ") ++ columns ++
        Line.ofText ((into.map (" INTO " ++ ·)).getD "") ++ source ++ condition ++ grouping ++
        having ++ ordering)) := by
  simp only [Select.items, Select.clauseItems, Select.clauses, List.flatMap_cons,
    List.flatMap_nil, writeItems, writeItem, writeItems_append, pure_bind, bind_assoc,
    Line.ofText, List.append_nil, List.append_assoc, List.cons_append, List.nil_append]

variable (dialect : Dialect) {subqueries : List (Reporting Statement)}
  {lines : List (Except Failure Line)}

/-- A select is emitted as it is written.

Proof: every clause is emitted as it is written and starts with the parameters of the clauses
before it. The limit adds no parameters, and what is done with it depends on its numbers only. -/
theorem emitSelect_follows (lined : List.Forall₂ Lined subqueries lines) (nested : Bool)
    (into : Option String) (select : Select) :
    Emitting.Follows
      (fun written : Line × Option RowFilter =>
        ((written.1.statement.sql, written.2), written.1.statement.parameters)) []
      (emitSelect dialect nested into subqueries select)
      (writeSelect dialect nested into lines select) := by
  unfold emitSelect writeSelect
  rw [writeItems_select]
  simp only [bind_assoc, pure_bind]
  refine (emitClause_follows dialect (some subqueries) lined _ _ _ _).bind
    fun columns => ?_
  have optional := fun clause use => emitOptional_follows dialect (some subqueries) lined clause
    use
  refine (optional _ _ _ _).bind fun source => ?_
  refine (optional _ _ _ _).bind fun condition => ?_
  refine (optional _ _ _ _).bind fun grouping => ?_
  refine (optional _ _ _ _).bind fun having => ?_
  refine (optional _ _ _ _).bind fun ordering => ?_
  refine (resolveLimit_follows _ _).bind fun limit => ?_
  cases limit with
  | none =>
    refine Emitting.follows_pure ?_
    simp [Line.statement, Line.emitted, String.append_assoc]
  | some numbers =>
    obtain ⟨offset, count⟩ := numbers
    by_cases standard : dialect.table.limitSyntax = .limitOffset
    · simp only [writeLimit, standard, if_true, liftM_bind, liftM_pure]
      refine (Emitting.follows_ofExcept _ (limitSql offset count)).bind fun limit => ?_
      refine Emitting.follows_pure ?_
      simp [Line.statement, Line.emitted, String.append_assoc]
    · cases nested with
      | false =>
        simp only [writeLimit, standard, Bool.false_eq_true, if_false, liftM_pure]
        refine Emitting.follows_pure ?_
        simp [Line.statement, Line.emitted, String.append_assoc]
      | true =>
        simp only [writeLimit, standard, if_false, if_true, liftM_bind, liftM_pure]
        refine (Emitting.follows_ofExcept _ (limitShown offset count)).bind fun shown => ?_
        refine (Emitting.follows_log _ _).andThen (Emitting.follows_pure ?_)
        simp [Line.statement, Line.emitted, String.append_assoc]

/-- A select is compiled as it is written. -/
theorem assembleSelect_gives (lined : List.Forall₂ Lined subqueries lines) (nested : Bool)
    (into : Option String) (select : Select) :
    (assembleSelect dialect nested into subqueries select).Gives
      ((assembledLine dialect nested into lines select).map fun written =>
        (written.1.statement, written.2)) := by
  have follows := emitSelect_follows dialect lined nested into select
  refine follows.finish (fun ending parameters =>
    (({ sql := ending.1, parameters } : Statement), ending.2)) select.args "SELECT"
    fun ending binding => ?_
  have consumed := Reporting.gives_ofExcept binding.arguments.ensureConsumed
  rw [Reporting.map_eq_bind]
  refine consumed.bind fun _ _ => ?_
  dsimp only
  split
  · exact Reporting.gives_pure _
  · exact (Reporting.gives_log _).bind fun _ _ => Reporting.gives_pure _

theorem compileNested_eq (select : Select) :
    compileNested dialect select =
      Prod.fst <$> assembleSelect dialect true none
        (compileSubqueries dialect select.subqueries) select := by
  cases select
  rfl

theorem nested_lined (select : Select)
    (lined : List.Forall₂ Lined (compileSubqueries dialect select.subqueries)
      (nestedLines dialect select.subqueries)) :
    Lined (compileNested dialect select) (nestedLine dialect select) := by
  rw [compileNested_eq, nestedLine_eq]
  have assembled := (assembleSelect_gives dialect lined true none select).map Prod.fst
  cases written : assembledLine dialect true none (nestedLines dialect select.subqueries) select
  all_goals
    rw [written] at assembled
    exact assembled

mutual

/-- A subquery compiles to the statement of its line, and so do the subqueries inside it. -/
theorem compileNested_lined : (select : Select) →
    Lined (compileNested dialect select) (nestedLine dialect select)
  | { subqueries, .. } => nested_lined dialect _ (compileSubqueries_lined subqueries)

theorem compileSubqueries_lined : (selects : List Select) →
    List.Forall₂ Lined (compileSubqueries dialect selects) (nestedLines dialect selects)
  | [] => .nil
  | select :: rest => .cons (compileNested_lined select) (compileSubqueries_lined rest)

end

/-- A select compiles to the statement of its line. -/
theorem compileSelect_gives (nested : Bool) (into : Option String) (select : Select) :
    (compileSelect dialect nested into select).Gives
      ((selectLine dialect nested into select).map fun written =>
        (written.1.statement, written.2)) :=
  assembleSelect_gives dialect (compileSubqueries_lined dialect select.subqueries) nested into
    select

end PortableSql
