import PortableSql.Proofs.Consuming
import PortableSql.Proofs.Neutral

/-!
# Parameters that all dialects agree on

The built-in dialects write the same command by different texts: they limit rows in the text, by
the cursor or not at all, leave out the order and the limit of a change, or split an insert into
batches. What they bind is the same. A command whose raw texts all of them read alike compiles in
each of them or in none, and the parameters of its statements, one after the other, are the same.

Proof in steps: whatever is written for one dialect is written for every other one, up to the texts
between the marks. Since this holds for every pair of dialects, it holds both ways.
-/

namespace PortableSql

/-- The parameters of a plan, statement by statement. -/
def Plan.parameters (plan : Plan) : List Parameter := plan.statements.flatMap Statement.parameters

/-- The parameters of a written plan, line by line. -/
def WrittenPlan.parameters (written : WrittenPlan) : List Parameter :=
  written.lines.flatMap Line.parameters

theorem WrittenPlan.parameters_plan (written : WrittenPlan) :
    written.plan.parameters = written.parameters := by
  unfold Plan.parameters plan parameters
  rw [List.flatMap_map]
  rfl

mutual

/-- The texts of a select that are scanned for tokens, with those of its subqueries. -/
def Select.texts : Select → List String
  | select@{ subqueries, .. } =>
    select.columns.joined :: select.clauses.filterMap (fun (_, _, text) => text) ++
      selectsTexts subqueries

/-- The texts of selects that are scanned for tokens. -/
def selectsTexts : List Select → List String
  | [] => []
  | select :: rest => select.texts ++ selectsTexts rest

end

theorem mem_selectsTexts {selects : List Select} {text : String} :
    text ∈ selectsTexts selects ↔ ∃ select ∈ selects, text ∈ select.texts := by
  induction selects with
  | nil => simp [selectsTexts]
  | cons select rest inductionHypothesis => simp [selectsTexts, inductionHypothesis]

/-- All texts of the select and of its subqueries are neutral. -/
def Select.Neutral (select : Select) : Prop := ∀ text ∈ select.texts, PortableSql.Neutral text

/-- A select is neutral when its own texts and its subqueries are. -/
theorem Select.neutral_iff {select : Select} :
    select.Neutral ↔ PortableSql.Neutral select.columns.joined ∧
      (∀ clause ∈ select.clauses, ∀ text ∈ clause.2.2, PortableSql.Neutral text) ∧
      ∀ nested ∈ select.subqueries, nested.Neutral := by
  have split : select.texts = select.columns.joined ::
      select.clauses.filterMap (fun clause => clause.2.2) ++ selectsTexts select.subqueries := by
    cases select
    rfl
  unfold Neutral
  rw [split]
  simp only [List.cons_append, List.forall_mem_cons, List.forall_mem_append, List.mem_filterMap,
    mem_selectsTexts]
  constructor
  · rintro ⟨columns, clauses, nested⟩
    exact ⟨columns, fun clause member text given => clauses text ⟨clause, member, given⟩,
      fun select member text given => nested text ⟨select, member, given⟩⟩
  · rintro ⟨columns, clauses, nested⟩
    refine ⟨columns, ?_, ?_⟩
    · rintro text ⟨clause, member, given⟩
      exact clauses clause member text given
    · rintro text ⟨select, member, given⟩
      exact nested select member text given

/-- An item without its text. -/
def Item.muted : Item → Item
  | text _ => text []
  | item => item

/-- A neutral select has the same items in every built-in dialect, up to texts. -/
theorem Select.items_neutral (family other : Family) {select : Select} (neutral : select.Neutral)
    (into intoOther : Option String) :
    (select.items family.dialect into).map Item.muted =
      (select.items other.dialect intoOther).map Item.muted := by
  obtain ⟨columns, clauses, -⟩ := neutral_iff.mp neutral
  have same : select.clauseItems family.dialect = select.clauseItems other.dialect :=
    List.flatMap_congr fun clause member =>
      family.optionalItems_neutral other _ _ _ (clauses clause member)
  unfold items
  rw [same, family.clauseItems_neutral other _ _ _ columns]
  simp [Item.muted]

section Lines

variable {dialect other : Dialect} {lines others : List (Except Failure Line)}

/-- An item binds the same in another dialect, whatever the text between the marks is. -/
theorem itemBinds_across {item twin : Item}
    (named : ∀ digits, twin = .subquery digits →
      Mirrors Line.parameters (namedLine lines digits) (namedLine others digits))
    (same : item.muted = twin.muted) {consumed : List Value} {line : Line}
    (binds : ItemBinds dialect lines item consumed line) :
    ∃ written, ItemBinds other others twin consumed written ∧
      line.parameters = written.parameters := by
  cases binds with
  | text => cases twin with
    | text characters => exact ⟨_, .text, rfl⟩
    | placeholder | subquery => cases same
  | name known =>
    cases twin with
    | placeholder =>
      cases same
      obtain ⟨_, knownOther, -⟩ := quotedValue_mirrors dialect other _ _ _ known
      exact ⟨_, .name knownOther, rfl⟩
    | text | subquery => cases same
  | value => cases twin with
    | placeholder =>
      cases same
      exact ⟨_, .value, rfl⟩
    | text | subquery => cases same
  | subquery known => cases twin with
    | subquery =>
      cases same
      obtain ⟨inner, knownOther, bound⟩ := named _ rfl _ known
      exact ⟨_, .subquery knownOther, by simp [bound]⟩
    | text | placeholder => cases same

/-- Items bind the same in another dialect, whatever the texts between the marks are. -/
theorem binds_across (other : Dialect) {items twins : List Item}
    (named : ∀ digits, .subquery digits ∈ twins →
      Mirrors Line.parameters (namedLine lines digits) (namedLine others digits))
    (same : items.map Item.muted = twins.map Item.muted)
    {consumed : List Value} {line : Line} (binds : Binds dialect lines items consumed line) :
    ∃ written, Binds other others twins consumed written ∧
      line.parameters = written.parameters := by
  induction binds generalizing twins with
  | nil =>
    cases List.map_eq_nil_iff.mp same.symm
    exact ⟨[], .nil, rfl⟩
  | cons first _ inductionHypothesis =>
    obtain ⟨twin, rest, rfl, sameTwin, sameRest⟩ := List.map_eq_cons_iff.mp same.symm
    have namedTwin : ∀ digits, twin = .subquery digits →
        Mirrors Line.parameters (namedLine lines digits) (namedLine others digits) := by
      rintro digits rfl
      exact named digits List.mem_cons_self
    obtain ⟨head, bindsHead, boundHead⟩ := itemBinds_across namedTwin sameTwin.symm first
    obtain ⟨tail, bindsTail, boundTail⟩ := inductionHypothesis
      (fun digits member => named digits (List.mem_cons_of_mem _ member)) sameRest.symm
    refine ⟨_, .cons bindsHead bindsTail, ?_⟩
    rw [Line.parameters_append, boundHead, boundTail, Line.parameters_append]

/-- Items that bind nothing are written without parameters. -/
theorem Binds.parameters_eq_nil {items : List Item} {consumed : List Value} {line : Line}
    (binds : Binds dialect lines items consumed line) (unbound : ∀ item ∈ items, item.unbound) :
    line.parameters = [] := by
  induction binds with
  | nil => rfl
  | cons first _ inductionHypothesis =>
    obtain ⟨here, later⟩ := List.forall_mem_cons.mp unbound
    rw [Line.parameters_append, inductionHypothesis later, List.append_nil]
    cases first with
    | text | name => rfl
    | value | subquery => cases here

/-- However a select is limited, its limit binds nothing. -/
theorem parameters_limited (dialect : Dialect) (nested : Bool) (body : Line)
    (numbers : Option (Int × Int)) :
    (limited dialect nested body numbers).1.parameters = body.parameters := by
  unfold limited
  cases numbers with
  | none => rfl
  | some numbers =>
    dsimp only
    split
    · rw [Line.parameters_append, Line.parameters_ofText, List.append_nil]
    · split <;> rfl

end Lines

section Selects

variable (family other : Family)

/-- A neutral select binds the same in every built-in dialect that can write its limit, with or
without a table that its rows go into, given subqueries that do. -/
theorem assembled_across {lines others : List (Except Failure Line)} {select : Select}
    (named : ∀ digits ∈ select.tokens other.dialect,
      Mirrors Line.parameters (namedLine lines digits) (namedLine others digits))
    (neutral : select.Neutral) (nested nestedOther : Bool) (into intoOther : Option String)
    (writable : LimitWritable other.dialect nestedOther (select.rowRange other.dialect)) :
    Mirrors (fun written => written.1.parameters)
      (assembledLine family.dialect nested into lines select)
      (assembledLine other.dialect nestedOther intoOther others select) := by
  intro written ended
  obtain ⟨clauses, limit, body, numbers, same, binds, limits, -, rfl⟩ := assembledLine_ok.mp ended
  obtain ⟨bodyOther, bindsOther, bound⟩ := binds_across other.dialect
    (fun digits member => named digits (Select.token_of_item other.dialect member))
    (Select.items_neutral family other neutral into intoOther) binds
  have range : select.rowRange other.dialect = numbers :=
    Select.rowRange_eq (same.trans (by rw [List.append_nil])) bindsOther limits
  refine ⟨_, assembledLine_ok.mpr
    ⟨clauses, limit, bodyOther, numbers, same, bindsOther, limits, range ▸ writable, rfl⟩, ?_⟩
  dsimp only
  rw [parameters_limited, parameters_limited, bound]

/-- A token names lines that bind the same where its subquery does. -/
theorem named_across {selects : List Select} {digits : List Char}
    (mirrors : ∀ index select, Sql.tokenIndex digits = .ok index →
      selects[index]? = some select → Mirrors Line.parameters (nestedLine family.dialect select)
        (nestedLine other.dialect select)) :
    Mirrors Line.parameters (namedLine (nestedLines family.dialect selects) digits)
      (namedLine (nestedLines other.dialect selects) digits) := by
  intro line named
  obtain ⟨index, select, known, found, ended⟩ := (namedLine_nestedLines _).mp named
  obtain ⟨written, endedOther, bound⟩ := mirrors index select known found line ended
  exact ⟨written, (namedLine_nestedLines _).mpr ⟨index, select, known, found, endedOther⟩, bound⟩

/-- A neutral subquery binds the same in every built-in dialect that can write its limits. -/
theorem nested_across (select : Select) (neutral : select.Neutral)
    (writable : select.LimitsWritable other.dialect true) :
    Mirrors Line.parameters (nestedLine family.dialect select)
      (nestedLine other.dialect select) := by
  induction select using Select.induction with
  | step select inductionHypothesis =>
    obtain ⟨own, limits⟩ := writable
    have nested := (Select.neutral_iff.mp neutral).2.2
    rw [nestedLine_eq, nestedLine_eq]
    have named : ∀ digits ∈ select.tokens other.dialect, Mirrors Line.parameters
        (namedLine (nestedLines family.dialect select.subqueries) digits)
        (namedLine (nestedLines other.dialect select.subqueries) digits) := fun digits token =>
      named_across family other fun index subquery known found =>
        have member := List.mem_of_getElem? found
        inductionHypothesis subquery member (nested subquery member)
          (limits subquery ⟨digits, index, token, known, found⟩)
    exact (assembled_across family other named neutral true true none none own).map
      fun _ _ bound => bound

/-- A neutral select binds the same in every built-in dialect that can write its limits. -/
theorem selected_across {select : Select} (neutral : select.Neutral) (nested nestedOther : Bool)
    (into intoOther : Option String)
    (writable : select.LimitsWritable other.dialect nestedOther) :
    Mirrors (fun written => written.1.parameters)
      (selectLine family.dialect nested into select)
      (selectLine other.dialect nestedOther intoOther select) := by
  obtain ⟨own, limits⟩ := writable
  have subqueries := (Select.neutral_iff.mp neutral).2.2
  refine assembled_across family other (fun digits token => ?_) neutral nested nestedOther into
    intoOther own
  refine named_across family other fun index subquery known found => ?_
  exact nested_across family other subquery (subqueries subquery (List.mem_of_getElem? found))
    (limits subquery ⟨digits, index, token, known, found⟩)

end Selects

section Changes

variable (family other : Family)

/-- What a change is restricted by binds the same in every built-in dialect that can write its
limit: the order and the limit consume arguments where they are left out, and bind none of them
where they are kept. -/
theorem restrictions_across {tag : Tag} {condition ordering : Option String} {limit : Option Limit}
    (neutralCondition : ∀ text ∈ condition, Neutral text)
    (neutralOrdering : ∀ text ∈ ordering, Neutral text) {consumed : List Value} {line : Line}
    (writable : RestrictionWritable other.dialect
      (Command.restrictionRange other.dialect condition ordering limit consumed))
    (binds : RestrictionsBind family.dialect tag condition ordering limit consumed line) :
    ∃ written, RestrictionsBind other.dialect tag condition ordering limit consumed written ∧
      line.parameters = written.parameters := by
  obtain ⟨first, second, third, selected, ordered, numbers, limitText, rfl, wheres, orders, limits,
    known, rfl⟩ := binds
  have unnamed : ∀ (items : List Item) digits, .subquery digits ∈ items →
      Mirrors Line.parameters (namedLine [] digits) (namedLine [] digits) :=
    fun _ _ _ line named => ⟨line, named, rfl⟩
  have unbound := unbound_optionalItems family.dialect "ORDER BY" ordering
  have sameWhere := congrArg (List.map Item.muted)
    (family.optionalItems_neutral other "WHERE" .value false neutralCondition)
  have sameOrder :=
    family.optionalItems_neutral other "ORDER BY" .name false neutralOrdering
  obtain ⟨selectedOther, bindsWhere, boundWhere⟩ :=
    binds_across other.dialect (unnamed _) sameWhere wheres
  obtain ⟨orderedOther, bindsOrder, -⟩ :=
    binds_across other.dialect (unnamed _) (congrArg (List.map Item.muted) sameOrder) orders
  have nothing := orders.parameters_eq_nil unbound
  have nothingOther := bindsOrder.parameters_eq_nil (sameOrder ▸ unbound)
  have range := Command.restrictionRange_eq bindsWhere bindsOrder limits []
  rw [List.append_nil] at range
  obtain ⟨textOther, knownOther⟩ := restrictionLimit_ok.mpr
    ⟨(restrictionLimit_ok.mp ⟨limitText, known⟩).1, range ▸ writable⟩
  have left : ∀ (kept : Prop) [Decidable kept] (selected ordered : Line) (limitText : String),
      ordered.parameters = [] → Line.parameters
        (if kept then selected ++ ordered ++ Line.ofText limitText else selected) =
          selected.parameters := by
    intro kept _ selected ordered limitText nothing
    split <;> simp [nothing]
  refine ⟨_, ⟨first, second, third, selectedOther, orderedOther, numbers, textOther, rfl,
    bindsWhere, bindsOrder, limits, knownOther, rfl⟩, ?_⟩
  rw [left _ _ _ _ nothing, left _ _ _ _ nothingOther, boundWhere]

/-- An assigned value other than true is bound alike in every dialect. -/
theorem assigns_across {dialect : Dialect} (other : Dialect) (column : String) {value : Value}
    (untrue : value ≠ .bool true) {line : Line} (assigns : Assigns dialect column value line) :
    ∃ written, Assigns other column value written ∧ line.parameters = written.parameters := by
  cases assigns with
  | reset => exact absurd rfl untrue
  | null known =>
    obtain ⟨_, knownOther, -⟩ := quoted_mirrors dialect other _ _ _ known
    exact ⟨_, .null knownOther, rfl⟩
  | value known free =>
    obtain ⟨_, knownOther, -⟩ := quoted_mirrors dialect other _ _ _ known
    exact ⟨_, .value knownOther free, rfl⟩

/-- Neutral fragments are assigned in every built-in dialect; they bind nothing. -/
theorem joins_across (column : String) {fragment : String} (neutral : Neutral fragment) {line : Line}
    (joins : Joins family.dialect column fragment line) :
    ∃ written, Joins other.dialect column fragment written ∧
      line.parameters = written.parameters := by
  obtain ⟨quoted, allowed, known, rfl⟩ := joins
  obtain ⟨quotedOther, knownOther, -⟩ := quoted_mirrors _ other.dialect _ _ _ known
  rw [family.fragmentAllowed_neutral other column neutral] at allowed
  exact ⟨_, ⟨quotedOther, allowed, knownOther, rfl⟩, rfl⟩

/-- Lines that are written for items one by one bind the same where each of them does. -/
theorem lines_across {α : Type} {written writtenOther : α → Line → Prop} {items : List α}
    (each : ∀ item ∈ items, ∀ line, written item line →
      ∃ twin, writtenOther item twin ∧ line.parameters = twin.parameters) {lines : List Line}
    (ended : List.Forall₂ written items lines) :
    ∃ twins, List.Forall₂ writtenOther items twins ∧
      lines.flatMap Line.parameters = twins.flatMap Line.parameters := by
  induction ended with
  | nil => exact ⟨[], .nil, rfl⟩
  | cons first _ inductionHypothesis =>
    obtain ⟨here, later⟩ := List.forall_mem_cons.mp each
    obtain ⟨twin, head, bound⟩ := here _ first
    obtain ⟨twins, tail, boundRest⟩ := inductionHypothesis later
    refine ⟨twin :: twins, .cons head tail, ?_⟩
    rw [List.flatMap_cons, List.flatMap_cons, bound, boundRest]

/-- An update without true that all built-in dialects read alike. -/
structure Update.Neutral (update : Update) : Prop where
  values : ∀ entry ∈ update.values, entry.2 ≠ .bool true
  inline : ∀ entry ∈ update.inline, PortableSql.Neutral entry.2
  condition : ∀ text ∈ update.condition, PortableSql.Neutral text
  ordering : ∀ text ∈ update.ordering, PortableSql.Neutral text

theorem update_across {update : Update} {nested : Bool} (neutral : update.Neutral)
    (writable : (Command.update update).LimitsWritable other.dialect nested) :
    Mirrors Line.parameters ((writeUpdate family.dialect update).finish update.args "UPDATE")
      ((writeUpdate other.dialect update).finish update.args "UPDATE") := by
  intro line ended
  obtain ⟨values, fragments, table, restrictions, assigned, joined, known, restricted, rfl⟩ :=
    updateLine_ok.mp ended
  obtain ⟨valuesOther, assignedOther, boundValues⟩ := lines_across (fun entry member _ =>
    assigns_across other.dialect entry.1 (neutral.values entry member)) assigned
  obtain ⟨fragmentsOther, joinedOther, boundFragments⟩ := lines_across (fun entry member _ =>
    joins_across family other entry.1 (neutral.inline entry member)) joined
  obtain ⟨tableOther, knownOther, -⟩ := quoted_mirrors _ other.dialect _ _ _ known
  obtain ⟨restrictionsOther, restrictedOther, bound⟩ :=
    restrictions_across family other neutral.condition neutral.ordering writable restricted
  refine ⟨_, updateLine_ok.mpr ⟨valuesOther, fragmentsOther, tableOther, restrictionsOther,
    assignedOther, joinedOther, knownOther, restrictedOther, rfl⟩, ?_⟩
  simp only [Line.parameters_append, Line.parameters_ofText, Line.parameters_listed,
    List.flatMap_append, boundValues, boundFragments, bound]

/-- A delete that all built-in dialects read alike. -/
structure Delete.Neutral (delete : Delete) : Prop where
  condition : ∀ text ∈ delete.condition, PortableSql.Neutral text
  ordering : ∀ text ∈ delete.ordering, PortableSql.Neutral text

theorem delete_across {delete : Delete} {nested : Bool} (neutral : delete.Neutral)
    (writable : (Command.delete delete).LimitsWritable other.dialect nested) :
    Mirrors Line.parameters ((writeDelete family.dialect delete).finish delete.args "DELETE")
      ((writeDelete other.dialect delete).finish delete.args "DELETE") := by
  intro line ended
  obtain ⟨table, restrictions, known, restricted, rfl⟩ := deleteLine_ok.mp ended
  obtain ⟨tableOther, knownOther, -⟩ := quoted_mirrors _ other.dialect _ _ _ known
  obtain ⟨restrictionsOther, restrictedOther, bound⟩ :=
    restrictions_across family other neutral.condition neutral.ordering writable restricted
  refine ⟨_, deleteLine_ok.mpr ⟨tableOther, restrictionsOther, knownOther, restrictedOther, rfl⟩,
    ?_⟩
  simp only [Line.parameters_append, Line.parameters_ofText, bound]

/-- A limit on rows that is not negative gives batches of a size that is not negative. -/
theorem Capabilities.insertBatchSize_nonneg {table : Capabilities}
    (limits : ∀ rows ∈ limitOf table.maxInsertRows, 0 ≤ rows) (columns : Int) :
    0 ≤ table.insertBatchSize columns := by
  have byRows : 0 ≤ (limitOf table.maxInsertRows).getD 0 := by
    cases known : limitOf table.maxInsertRows with
    | none => exact Int.le_refl 0
    | some rows => exact limits rows known
  unfold insertBatchSize
  split
  · decide
  · dsimp only
    split
    · split
      · exact byRows
      · split
        · rename_i rows known
          have enough := limits rows known
          omega
        · omega
    · exact byRows

/-- Every built-in dialect inserts all rows in their order, whatever its batches are. -/
theorem flatten_insertBatches (insert : Insert) :
    (insertBatches family.dialect insert).flatten = insert.rows := by
  have enough : 0 ≤ family.dialect.table.insertBatchSize insert.valueColumns.length := by
    apply Capabilities.insertBatchSize_nonneg
    cases family <;> decide
  unfold insertBatches
  dsimp only
  rw [if_neg (Int.not_lt.mpr enough), flatten_batches]

/-- The lines of an insert bind the values of its rows, row by row. -/
theorem parameters_insertLines (table : String) (names : List String) (insert : Insert) :
    ((insertBatches family.dialect insert).map (insertLine table names insert)).flatMap
      Line.parameters = insert.rows.flatMap (rowParameters insert.kinds) := by
  have each : ∀ rows, (insertLine table names insert rows).parameters =
      rows.flatMap (rowParameters insert.kinds) := fun rows =>
    congrArg Statement.parameters (statement_insertLine table names insert rows)
  rw [List.flatMap_map, ← flatten_insertBatches family insert, List.flatMap, List.flatMap,
    List.map_flatten, List.flatten_flatten, List.map_map]
  exact congrArg List.flatten (List.map_congr_left fun rows _ => each rows)

/-- An insert that all built-in dialects read alike. -/
structure Insert.Neutral (insert : Insert) : Prop where
  inline : ∀ entry ∈ insert.inline, PortableSql.Neutral entry.2
  select : ∀ select ∈ insert.select, select.Neutral

/-- The columns before a select can be written for every dialect, and bind nothing. -/
theorem columns_mirrors (dialect other : Dialect) (columns : Option (List String)) :
    Mirrors Line.parameters (columnsLine dialect columns) (columnsLine other columns) := by
  unfold columnsLine
  split
  · exact Mirrors.of_ok rfl
  · exact Mirrors.of_ok rfl
  · refine (quotedAll_mirrors dialect other _).bindViewed fun names namesOther _ =>
      Mirrors.of_ok ?_
    simp

theorem insert_across {insert : Insert} {nested : Bool} (neutral : insert.Neutral)
    (writable : (Command.insert insert).LimitsWritable other.dialect nested) :
    Mirrors WrittenPlan.parameters (writtenInsert family.dialect insert)
      (writtenInsert other.dialect insert) := by
  unfold writtenInsert
  refine Mirrors.bind fun _ => ?_
  refine (quoted_mirrors _ other.dialect _ _).bindViewed fun table tableOther _ => ?_
  cases given : insert.select with
  | some select =>
    refine (nested_across family other select (neutral.select select given)
      (writable select given)).bindViewed fun line lineOther bound => ?_
    refine (columns_mirrors _ other.dialect _).bindViewed fun columns columnsOther boundColumns =>
      Mirrors.of_ok ?_
    simp [WrittenPlan.parameters, bound, boundColumns]
  | none =>
    have checks : Mirrors (fun _ => ())
        (insert.inline.forM fun entry => fragmentAllowed family.dialect entry.1 entry.2)
        (insert.inline.forM fun entry => fragmentAllowed other.dialect entry.1 entry.2) := by
      intro _ ended
      refine ⟨(), Reporting.forM_eq_ok.mpr ?_, rfl⟩
      intro entry member
      rw [← family.fragmentAllowed_neutral other entry.1 (neutral.inline entry member)]
      exact Reporting.forM_eq_ok.mp ended entry member
    refine checks.bindViewed fun _ _ _ => ?_
    refine (quotedAll_mirrors _ other.dialect _).bindViewed fun names namesOther _ =>
      Mirrors.of_ok ?_
    unfold WrittenPlan.parameters
    rw [parameters_insertLines, parameters_insertLines]

/-- A dialect creates a lasting table by one statement, which binds what the select binds. -/
theorem created_from_select (creation : CreateTable) (table : String) (select : Select) :
    ∃ (into : Option String) (create : Line × Option RowFilter → WrittenPlan),
      (if family.dialect.table.createTableAs then do
        let line ← nestedLine family.dialect select
        pure { lines := [Line.ofText (createTableWords family.dialect creation.temporary) ++
          Line.ofText " " ++ Line.ofText table ++
          Line.ofText (optionText family.dialect creation) ++ Line.ofText " AS " ++ line] }
      else do
        let (line, _) ← selectLine family.dialect true (some table) select
        pure { lines := [line] }) = (selectLine family.dialect true into select).map create ∧
      ∀ written, (create written).parameters = written.1.parameters := by
  split
  · refine ⟨none, fun written => { lines := [Line.ofText (createTableWords family.dialect
      creation.temporary) ++ Line.ofText " " ++ Line.ofText table ++
      Line.ofText (optionText family.dialect creation) ++ Line.ofText " AS " ++ written.1] }, ?_, ?_⟩
    · rw [nestedLine_eq, Reporting.map_eq_bind, Reporting.map_eq_bind, bind_assoc]
      rfl
    · intro written
      simp [WrittenPlan.parameters]
  · refine ⟨some table, fun written => { lines := [written.1] }, ?_, ?_⟩
    · rw [Reporting.map_eq_bind]
      rfl
    · intro written
      simp [WrittenPlan.parameters]

theorem table_across {creation : CreateTable} {select : Select}
    (lasting : creation.temporary = false) (neutral : select.Neutral)
    (writable : select.LimitsWritable other.dialect true) :
    Mirrors WrittenPlan.parameters (writtenTableFrom family.dialect creation select)
      (writtenTableFrom other.dialect creation select) := by
  have name : ∀ dialect, tableName dialect creation.temporary creation.name = creation.name := by
    intro dialect
    simp [tableName, lasting]
  unfold writtenTableFrom
  rw [name, name]
  refine Mirrors.bind fun _ => ?_
  refine (quoted_mirrors _ other.dialect _ _).bindViewed fun table tableOther _ => ?_
  obtain ⟨into, create, same, bound⟩ := created_from_select family creation table select
  obtain ⟨intoOther, createOther, sameOther, boundOther⟩ :=
    created_from_select other creation tableOther select
  dsimp only
  rw [same, sameOther, Reporting.map_eq_bind, Reporting.map_eq_bind]
  refine (selected_across family other neutral true true into intoOther writable).bindViewed
    fun written writtenOther alike => Mirrors.of_ok ?_
  rw [bound, boundOther, alike]

/-- The command reads or changes rows or creates a lasting table from a select, and all built-in
dialects read its texts alike. -/
def Command.Neutral : Command → Prop
  | .select command => command.Neutral
  | .insert command => command.Neutral
  | .update command => command.Neutral
  | .delete command => command.Neutral
  | .createTable command =>
    command.temporary = false ∧ ∃ select, command.select = some select ∧ select.Neutral
  | _ => False

/-- Neutral commands are among those that are written. -/
theorem Command.written_of_neutral {command : Command} (neutral : command.Neutral)
    (dialect : Dialect) (nested : Bool) :
    ∃ outcome, command.written? dialect nested = some outcome := by
  cases command with
  | select | insert | update | delete => exact ⟨_, rfl⟩
  | createTable creation =>
    obtain ⟨-, select, given, -⟩ := neutral
    exact ⟨_, Option.map_eq_some_iff.mpr ⟨select, given, rfl⟩⟩
  | _ => exact neutral.elim

/-- Neutral commands whose limits can be written are written by plans that bind the same. -/
theorem written_across (nested : Bool) {command : Command} (neutral : command.Neutral)
    (writable : command.LimitsWritable other.dialect nested) :
    ∃ first second, command.written? family.dialect nested = some first ∧
      command.written? other.dialect nested = some second ∧
      Mirrors WrittenPlan.parameters first second := by
  have single : ∀ {first second : Except Failure Line}, Mirrors Line.parameters first second →
      Mirrors WrittenPlan.parameters (first.map fun line => { lines := [line] })
        (second.map fun line => { lines := [line] }) := fun mirrors =>
    mirrors.map fun line lineOther bound => by simp [WrittenPlan.parameters, bound]
  cases command with
  | select select =>
    refine ⟨_, _, rfl, rfl, ?_⟩
    exact (selected_across family other neutral nested nested none none writable).map
      fun written writtenOther bound => by simp [WrittenPlan.parameters, bound]
  | insert insert => exact ⟨_, _, rfl, rfl, insert_across family other neutral writable⟩
  | update update => exact ⟨_, _, rfl, rfl, single (update_across family other neutral writable)⟩
  | delete delete => exact ⟨_, _, rfl, rfl, single (delete_across family other neutral writable)⟩
  | createTable creation =>
    obtain ⟨lasting, select, given, neutral⟩ := neutral
    exact ⟨_, _, Option.map_eq_some_iff.mpr ⟨select, given, rfl⟩,
      Option.map_eq_some_iff.mpr ⟨select, given, rfl⟩,
      table_across family other lasting neutral (writable select given)⟩
  | _ => exact neutral.elim

/-- Where a neutral command compiles in one built-in dialect, it compiles in every other one that
can write its limits, to a plan with the same parameters. -/
theorem compiled_across (context : Context) {command : Command} (neutral : command.Neutral)
    (writable : command.LimitsWritable other.dialect context.nested) :
    Mirrors Plan.parameters (compilePlan family.dialect command context).result
      (compilePlan other.dialect command context).result := by
  obtain ⟨first, second, given, givenOther, mirrors⟩ :=
    written_across family other context.nested neutral writable
  rw [(compilePlan_gives family.dialect context command given).result_eq,
    (compilePlan_gives other.dialect context command givenOther).result_eq]
  refine mirrors.map fun written writtenOther bound => ?_
  change written.plan.parameters = writtenOther.plan.parameters
  rw [written.parameters_plan, writtenOther.parameters_plan, bound]

/-- A neutral command that compiles is one whose limits can be written. -/
theorem limitsWritable_compiled (context : Context) {command : Command} (neutral : command.Neutral)
    {plan : Plan} (compiled : (compilePlan family.dialect command context).result = .ok plan) :
    command.LimitsWritable family.dialect context.nested := by
  obtain ⟨outcome, given⟩ := Command.written_of_neutral neutral family.dialect context.nested
  rw [(compilePlan_gives family.dialect context command given).result_eq,
    Reporting.map_ok] at compiled
  obtain ⟨written, rfl, -⟩ := compiled
  exact Command.limitsWritable_written given

end Changes

/-- A neutral command whose limits can be written compiles in all built-in dialects or in none;
where it compiles, the parameters of the statements, one after the other, are the same values of the
same kinds. In general, where it compiles in one dialect, it compiles exactly in those that can
write its limits, again with the same parameters.

Proof: what compiles in one dialect compiles in every other one that can write its limits and binds
the same there, and what compiles can be written. So it is enough to look at one of them. -/
theorem parameters_agree (context : Context) {command : Command} (neutral : command.Neutral) :
    ((∀ family : Family, command.LimitsWritable family.dialect context.nested) →
      (∀ family : Family, ∃ failure,
        (compilePlan family.dialect command context).result = .error failure) ∨
      ∃ parameters, ∀ family : Family, ∃ plan,
        (compilePlan family.dialect command context).result = .ok plan ∧
          plan.parameters = parameters) ∧
    ∀ (family other : Family) plan,
      (compilePlan family.dialect command context).result = .ok plan →
        ((∃ planOther, (compilePlan other.dialect command context).result = .ok planOther) ↔
          command.LimitsWritable other.dialect context.nested) ∧
        ∀ planOther, (compilePlan other.dialect command context).result = .ok planOther →
          planOther.parameters = plan.parameters := by
  constructor
  · intro writable
    cases ended : (compilePlan Family.mysql.dialect command context).result with
    | ok plan =>
      right
      refine ⟨plan.parameters, fun family => ?_⟩
      obtain ⟨planOther, endedOther, bound⟩ :=
        compiled_across .mysql family context neutral (writable family) plan ended
      exact ⟨planOther, endedOther, bound.symm⟩
    | error failure =>
      left
      intro family
      cases endedOther : (compilePlan family.dialect command context).result with
      | error failureOther => exact ⟨failureOther, rfl⟩
      | ok plan =>
        obtain ⟨planFirst, wrong, -⟩ :=
          compiled_across family .mysql context neutral (writable .mysql) plan endedOther
        cases ended.symm.trans wrong
  · intro family other plan ended
    have across := fun writable =>
      compiled_across family other context neutral writable plan ended
    refine ⟨⟨fun ⟨planOther, endedOther⟩ => ?_, fun writable => ?_⟩, fun planOther endedOther => ?_⟩
    · exact limitsWritable_compiled other context neutral endedOther
    · obtain ⟨planOther, endedOther, -⟩ := across writable
      exact ⟨planOther, endedOther⟩
    · obtain ⟨planAcross, endedAcross, bound⟩ :=
        across (limitsWritable_compiled other context neutral endedOther)
      cases endedOther.symm.trans endedAcross
      exact bound.symm

/-- The removal of the first of some notes, whose order is given by name. -/
def removalOfFirst : Delete where
  table := "notes"
  condition := some "owner = ?"
  ordering := some "?"
  limit := some (.written "?")
  args := [.text "ann", .text "age", .int 1]

theorem removalOfFirst_agrees :
    (Command.delete removalOfFirst).Neutral ∧
      (∀ family : Family, (Command.delete removalOfFirst).LimitsWritable family.dialect false) ∧
      ∀ family : Family, ∃ plan,
        (compilePlan family.dialect (.delete removalOfFirst) {}).result = .ok plan ∧
          plan.parameters.map (fun parameter => (parameter.value.plain, parameter.kind)) =
            [("ann", .string)] := by
  have neutral : (Command.delete removalOfFirst).Neutral := by
    constructor
    · rintro _ ⟨⟩
      decide
    · rintro _ ⟨⟩
      decide
  have bound : ∀ family : Family,
      (compilePlan family.dialect (.delete removalOfFirst) {}).result.toOption.map
        (fun plan => plan.parameters.map fun parameter => (parameter.value.plain, parameter.kind)) =
          some [("ann", .string)] := by
    intro family
    cases family <;> decide +kernel
  have writable : ∀ family : Family,
      (Command.delete removalOfFirst).LimitsWritable family.dialect false := by
    intro family
    obtain ⟨plan, ended, -⟩ := Option.map_eq_some_iff.mp (bound family)
    exact limitsWritable_compiled family {} neutral (Reporting.toOption_eq_some.mp ended)
  obtain ⟨first, ended, known⟩ := Option.map_eq_some_iff.mp (bound .sqlite)
  have compiled := Reporting.toOption_eq_some.mp ended
  obtain ⟨together, pairwise⟩ := parameters_agree {} neutral
  refine ⟨neutral, writable, fun family => ?_⟩
  rcases together writable with refused | ⟨parameters, agreed⟩
  · obtain ⟨failure, wrong⟩ := refused .sqlite
    cases compiled.symm.trans wrong
  · obtain ⟨other, endedOther, -⟩ := agreed family
    refine ⟨other, endedOther, ?_⟩
    rw [(pairwise .sqlite family first compiled).2 other endedOther, known]

/-- A select of as many notes as an argument says: a number with one digit more than can be
written. -/
def countlessNotes : Select where
  source := some "notes"
  limit := some (.written "?")
  args := [.int (Nat.pow 10 Text.longestNumeral : Nat)]

/-- What the cursor counts need not be written: countless notes are read from the one server whose
dialect does not limit rows, and from no other one. -/
theorem countlessNotes_divide :
    (Command.select countlessNotes).Neutral ∧
      (∃ plan, (compilePlan Family.mssql.dialect (.select countlessNotes) {}).result = .ok plan) ∧
      ∀ family : Family, family ≠ .mssql → ∃ failure,
        (compilePlan family.dialect (.select countlessNotes) {}).result = .error failure := by
  have compiles : (compilePlan Family.mssql.dialect (.select countlessNotes)
      {}).result.toOption.isSome = true := by
    decide +kernel
  obtain ⟨plan, ended⟩ := Option.isSome_iff_exists.mp compiles
  refine ⟨?_, ⟨plan, Reporting.toOption_eq_some.mp ended⟩, fun family other => ?_⟩
  · unfold Command.Neutral Select.Neutral
    decide +kernel
  · have refused : (compilePlan family.dialect (.select countlessNotes) {}).result.toOption.isNone =
        true := by
      cases family with
      | mssql => exact absurd rfl other
      | _ => decide +kernel
    cases failed : (compilePlan family.dialect (.select countlessNotes) {}).result with
    | ok plan =>
      rw [failed] at refused
      cases refused
    | error failure => exact ⟨failure, rfl⟩

end PortableSql
