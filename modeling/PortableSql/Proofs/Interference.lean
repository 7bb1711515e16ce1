import PortableSql.Proofs.Erasure

/-!
# Values and texts

Bound values do not reach the texts of statements. Commands with the same erasure compile alike:
either none of them compiles, or their plans are the same but for the parameters of their
statements, of which there are equally many.

Proof in steps: whatever is written for the one command is written for the other, up to the
parameters of its marks. Since this holds for every pair of such commands, it holds both ways.
-/

namespace PortableSql

/-- A part that does not say which parameter it is the mark of. -/
def Part.blank : Part → Part
  | text characters => text characters
  | marker _ => marker (.infer .null)

/-- A statement that does not say which parameters it has. -/
def Statement.blank (statement : Statement) : Statement := { statement with
  parameters := statement.parameters.map fun _ => .infer .null }

/-- A plan that does not say which parameters its statements have. -/
def Plan.blank (plan : Plan) : Plan := { plan with
  statements := plan.statements.map Statement.blank }

namespace Line

/-- A line that does not say which parameters it has. -/
def blank (line : Line) : Line := line.map Part.blank

@[simp] theorem blank_append (line other : Line) :
    blank (line ++ other) = blank line ++ blank other := List.map_append

@[simp] theorem blank_ofText (text : String) : blank (ofText text) = ofText text := rfl

@[simp] theorem blank_marker (parameter : Parameter) :
    blank [.marker parameter] = [.marker (.infer .null)] := rfl

@[simp] theorem blank_listed (lines : List Line) :
    blank (listed lines) = listed (lines.map blank) := by
  unfold listed
  induction lines with
  | nil => rfl
  | cons first rest inductionHypothesis =>
    cases rest with
    | nil => simp
    | cons second others =>
      rw [List.intercalate_cons_cons, List.map_cons, List.map_cons, List.intercalate_cons_cons,
        blank_append, blank_append, inductionHypothesis, List.map_cons, blank_ofText]

theorem sql_blank (line : Line) : (blank line).sql = line.sql := by
  rw [sql, sql, characters, characters, blank, List.flatMap_map]
  exact congrArg String.ofList (List.flatMap_congr fun part _ => by cases part <;> rfl)

theorem parameters_blank (line : Line) :
    (blank line).parameters = line.parameters.map fun _ => .infer .null := by
  rw [parameters, parameters, blank, List.flatMap_map, List.map_flatMap]
  exact List.flatMap_congr fun part _ => by cases part <;> rfl

theorem statement_blank (line : Line) : (blank line).statement = line.statement.blank := by
  rw [statement, sql_blank, parameters_blank]
  rfl

end Line

/-- A written plan that does not say which parameters its lines have. -/
def WrittenPlan.blank (written : WrittenPlan) : WrittenPlan := { written with
  lines := written.lines.map Line.blank }

theorem WrittenPlan.plan_blank (written : WrittenPlan) :
    written.blank.plan = written.plan.blank := by
  simp [WrittenPlan.plan, WrittenPlan.blank, Plan.blank, Line.statement_blank]

/-- Whenever the first outcome is good, so is the second, and both look the same. -/
def Mirrors {α β : Type} (view : α → β) (first second : Except Failure α) : Prop :=
  ∀ value, first = .ok value → ∃ other, second = .ok other ∧ view value = view other

namespace Mirrors

variable {α β γ δ : Type}

/-- Good outcomes that look the same. -/
theorem of_ok {view : α → β} {value other : α} (same : view value = view other) :
    Mirrors view (.ok value) (.ok other) := by
  rintro _ ⟨⟩
  exact ⟨other, rfl, same⟩

/-- Steps that begin alike. -/
theorem bind {view : γ → β} {first : Except Failure α} {next following : α → Except Failure γ}
    (continued : ∀ value, Mirrors view (next value) (following value)) :
    Mirrors view (first >>= next) (first >>= following) := by
  intro value ended
  obtain ⟨begun, head, rest⟩ := Reporting.bind_ok.mp ended
  obtain ⟨other, known, same⟩ := continued begun value rest
  exact ⟨other, Reporting.bind_ok.mpr ⟨begun, head, known⟩, same⟩

/-- Steps that begin with outcomes that look the same. -/
theorem bindViewed {view : α → β} {further : γ → δ} {first second : Except Failure α}
    {next following : α → Except Failure γ} (mirrors : Mirrors view first second)
    (continued : ∀ value other, view value = view other →
      Mirrors further (next value) (following other)) :
    Mirrors further (first >>= next) (second >>= following) := by
  intro value ended
  obtain ⟨begun, head, rest⟩ := Reporting.bind_ok.mp ended
  obtain ⟨other, known, same⟩ := mirrors begun head
  obtain ⟨last, ends, alike⟩ := continued begun other same value rest
  exact ⟨last, Reporting.bind_ok.mpr ⟨other, known, ends⟩, alike⟩

theorem map {view : α → β} {further : γ → δ} {first second : Except Failure α} {change : α → γ}
    (mirrors : Mirrors view first second)
    (changed : ∀ value other, view value = view other →
      further (change value) = further (change other)) :
    Mirrors further (first.map change) (second.map change) := by
  intro value ended
  obtain ⟨begun, head, rfl⟩ := Reporting.map_ok.mp ended
  obtain ⟨other, known, same⟩ := mirrors begun head
  exact ⟨_, Reporting.map_ok.mpr ⟨other, known, rfl⟩, changed begun other same⟩

end Mirrors

section Lines

variable {dialect : Dialect} {lines others : List (Except Failure Line)}

/-- An item that consumes arguments with the same erasure is written alike. -/
theorem itemBinds_alike
    (named : ∀ digits, Mirrors Line.blank (namedLine lines digits) (namedLine others digits))
    {item : Item} {consumed arguments : List Value} {line : Line}
    (binds : ItemBinds dialect lines item consumed line)
    (alike : erasedArguments item.landings consumed = erasedArguments item.landings arguments) :
    ∃ other, ItemBinds dialect others item arguments other ∧ line.blank = other.blank := by
  have counted := congrArg List.length alike
  rw [length_erasedArguments, length_erasedArguments] at counted
  cases binds with
  | text =>
    cases alike
    exact ⟨_, .text, rfl⟩
  | name known =>
    obtain ⟨argument, rfl⟩ := List.length_eq_one_iff.mp counted.symm
    cases alike
    exact ⟨_, .name known, rfl⟩
  | value =>
    obtain ⟨argument, rfl⟩ := List.length_eq_one_iff.mp counted.symm
    exact ⟨_, .value, rfl⟩
  | subquery known =>
    cases alike
    obtain ⟨inner, knownOther, same⟩ := named _ _ known
    exact ⟨_, .subquery knownOther, by simp [same]⟩

/-- Items that consume arguments with the same erasure are written alike. -/
theorem binds_alike
    (named : ∀ digits, Mirrors Line.blank (namedLine lines digits) (namedLine others digits))
    {items : List Item} {consumed arguments : List Value} {line : Line}
    (binds : Binds dialect lines items consumed line)
    (alike : erasedArguments (landings items) consumed =
      erasedArguments (landings items) arguments) :
    ∃ other, Binds dialect others items arguments other ∧ line.blank = other.blank := by
  induction binds generalizing arguments with
  | nil =>
    cases alike
    exact ⟨[], .nil, rfl⟩
  | cons first rest inductionHypothesis =>
    obtain ⟨begun, following, rfl, left, right⟩ := erased_append_inv first.length_eq alike
    obtain ⟨head, bindsHead, sameHead⟩ := itemBinds_alike named first left
    obtain ⟨tail, bindsTail, sameTail⟩ := inductionHypothesis right
    exact ⟨_, .cons bindsHead bindsTail, by rw [Line.blank_append, sameHead, sameTail,
      Line.blank_append]⟩

/-- A limit binds arguments as they are. -/
theorem not_value_mem_limitLandings (limit : Option Limit) : .value ∉ limitLandings limit := by
  intro member
  match limit, member with
  | some (.written limit), member =>
    obtain ⟨part, -, inside⟩ := List.mem_flatMap.mp member
    split at inside <;> simp at inside

theorem blank_limited {nested : Bool} {body other : Line} (same : body.blank = other.blank)
    (numbers : Option (Int × Int)) :
    ((limited dialect nested body numbers).1.blank, (limited dialect nested body numbers).2) =
      ((limited dialect nested other numbers).1.blank,
        (limited dialect nested other numbers).2) := by
  unfold limited
  split
  · rw [same]
  · split
    · rw [Line.blank_append, Line.blank_append, same]
    · split <;> rw [same]

/-- A written select that does not say which parameters it has. -/
def blankSelected (written : Line × Option RowFilter) : Line × Option RowFilter :=
  (written.1.blank, written.2)

theorem assembled_mirrors {nested : Bool} {into : Option String} {select other : Select}
    (named : ∀ digits, Mirrors Line.blank (namedLine lines digits) (namedLine others digits))
    (alike : select.Alike dialect other) :
    Mirrors blankSelected (assembledLine dialect nested into lines select)
      (assembledLine dialect nested into others other) := by
  intro written ended
  obtain ⟨first, second, body, numbers, same, binds, limits, writable, rfl⟩ :=
    assembledLine_ok.mp ended
  have arguments := alike.arguments
  have counted := binds.length_eq
  rw [landings_items] at counted
  rw [same, Select.landings] at arguments
  obtain ⟨begun, following, sameOther, left, right⟩ := erased_append_inv counted arguments
  rw [erasedArguments_eq_self (not_value_mem_limitLandings _),
    erasedArguments_eq_self (not_value_mem_limitLandings _)] at right
  rw [← landings_items dialect into] at left
  obtain ⟨line, bindsOther, blank⟩ := binds_alike named binds left
  rw [alike.items] at bindsOther
  rw [right, alike.limit] at limits
  exact ⟨_, assembledLine_ok.mpr ⟨begun, following, line, numbers, sameOther, bindsOther, limits,
    writable, rfl⟩, blank_limited blank numbers⟩

end Lines

section Selects

variable (dialect : Dialect)

/-- Tokens name lines that are alike where all subqueries are. -/
theorem named_mirrors {selects others : List Select}
    (same : selects.map (Select.erased dialect) = others.map (Select.erased dialect))
    (mirrors : ∀ select ∈ selects, ∀ other, select.erased dialect = other.erased dialect →
      Mirrors Line.blank (nestedLine dialect select) (nestedLine dialect other))
    (digits : List Char) :
    Mirrors Line.blank (namedLine (nestedLines dialect selects) digits)
      (namedLine (nestedLines dialect others) digits) := by
  intro line named
  obtain ⟨index, known, found⟩ := namedLine_ok.mp named
  rw [nestedLines_eq_map, List.getElem?_map, Option.map_eq_some_iff] at found
  obtain ⟨select, within, ended⟩ := found
  have erased := congrArg (·[index]?) same
  simp only [List.getElem?_map, within, Option.map_some] at erased
  obtain ⟨other, withinOther, sameOther⟩ := Option.map_eq_some_iff.mp erased.symm
  obtain ⟨lineOther, endedOther, blank⟩ :=
    mirrors select (List.mem_of_getElem? within) other sameOther.symm line ended
  refine ⟨lineOther, namedLine_ok.mpr ⟨index, known, ?_⟩, blank⟩
  rw [nestedLines_eq_map, List.getElem?_map, withinOther, Option.map_some, endedOther]

/-- Subqueries with the same erasure are written alike. -/
theorem nested_mirrors (select other : Select)
    (same : select.erased dialect = other.erased dialect) :
    Mirrors Line.blank (nestedLine dialect select) (nestedLine dialect other) := by
  induction select using Select.induction generalizing other with
  | step select inductionHypothesis =>
    have alike := Select.alike_of_erased same
    rw [nestedLine_eq, nestedLine_eq]
    refine (assembled_mirrors (named_mirrors dialect alike.subqueries inductionHypothesis)
      alike).map fun written otherWritten sameWritten => ?_
    exact congrArg Prod.fst sameWritten

/-- Selects with the same erasure are written alike. -/
theorem selected_mirrors {nested : Bool} {into : Option String} {select other : Select}
    (same : select.erased dialect = other.erased dialect) :
    Mirrors blankSelected (selectLine dialect nested into select)
      (selectLine dialect nested into other) := by
  have alike := Select.alike_of_erased same
  exact assembled_mirrors (named_mirrors dialect alike.subqueries fun nested _ other =>
    nested_mirrors dialect nested other) alike

end Selects

section Changes

variable {dialect : Dialect}

theorem restrictions_alike {tag : Tag} {condition ordering : Option String}
    {limit : Option Limit} {consumed arguments : List Value} {line : Line}
    (binds : RestrictionsBind dialect tag condition ordering limit consumed line)
    (alike : erasedArguments (restrictionLandings dialect condition ordering limit) consumed =
      erasedArguments (restrictionLandings dialect condition ordering limit) arguments) :
    ∃ other, RestrictionsBind dialect tag condition ordering limit arguments other ∧
      line.blank = other.blank := by
  obtain ⟨first, second, third, selected, ordered, numbers, limitText, rfl, wheres, orders, limits,
    known, rfl⟩ := binds
  have unnamed : ∀ digits, Mirrors Line.blank (namedLine [] digits) (namedLine [] digits) :=
    fun _ line named => ⟨line, named, rfl⟩
  have countedFirst := wheres.length_eq
  have countedSecond := orders.length_eq
  rw [landings_optionalItems] at countedFirst countedSecond
  obtain ⟨begun, _, rfl, left, others⟩ := erased_append_inv countedFirst alike
  obtain ⟨middle, last, rfl, between, right⟩ := erased_append_inv countedSecond others
  rw [erasedArguments_eq_self (not_value_mem_limitLandings _),
    erasedArguments_eq_self (not_value_mem_limitLandings _)] at right
  rw [← landings_optionalItems dialect "WHERE"] at left
  rw [← landings_optionalItems dialect "ORDER BY"] at between
  obtain ⟨lineSelected, bindsSelected, sameSelected⟩ := binds_alike unnamed wheres left
  obtain ⟨lineOrdered, bindsOrdered, sameOrdered⟩ := binds_alike unnamed orders between
  refine ⟨_, ⟨begun, middle, last, lineSelected, lineOrdered, numbers, limitText, rfl,
    bindsSelected, bindsOrdered, right ▸ limits, known, rfl⟩, ?_⟩
  split
  · simp only [Line.blank_append, sameSelected, sameOrdered]
  · exact sameSelected

/-- A value is assigned like any other with the same erasure. -/
theorem assigns_alike {column : String} {value other : Value} {line : Line}
    (assigns : Assigns dialect column value line)
    (same : value.assignedErased = other.assignedErased) :
    ∃ otherLine, Assigns dialect column other otherLine ∧ line.blank = otherLine.blank := by
  cases assigns with
  | reset known keyword => cases other with
    | bool truth =>
      cases same
      exact ⟨_, .reset known keyword, rfl⟩
    | _ => cases same
  | null known => cases other with
    | bool truth =>
      cases same
      exact ⟨_, .null known, rfl⟩
    | _ => cases same
  | value known free =>
    have freeOther : ∀ truth, other ≠ .bool truth := by
      rintro truth rfl
      cases value with
      | bool wrong => exact free wrong rfl
      | _ => cases same
    exact ⟨_, .value known freeOther, by simp⟩

/-- Assignments with the same erasure are written alike. -/
theorem assignments_alike {values others : Row} {lines : List Line}
    (assigned : List.Forall₂ (fun entry => Assigns dialect entry.1 entry.2) values lines)
    (same : values.map (fun entry => (entry.1, entry.2.assignedErased)) =
      others.map fun entry => (entry.1, entry.2.assignedErased)) :
    ∃ otherLines, List.Forall₂ (fun entry => Assigns dialect entry.1 entry.2) others otherLines ∧
      lines.map Line.blank = otherLines.map Line.blank := by
  induction assigned generalizing others with
  | nil =>
    cases List.map_eq_nil_iff.mp same.symm
    exact ⟨[], .nil, rfl⟩
  | cons first _ inductionHypothesis =>
    obtain ⟨entry, rest, rfl, sameEntry, sameRest⟩ := List.map_eq_cons_iff.mp same.symm
    obtain ⟨column, value⟩ := entry
    obtain ⟨rfl, sameValue⟩ := Prod.mk.inj sameEntry
    obtain ⟨line, assigns, blank⟩ := assigns_alike first sameValue.symm
    obtain ⟨otherLines, assignedRest, blankRest⟩ := inductionHypothesis sameRest.symm
    exact ⟨_, .cons assigns assignedRest, by rw [List.map_cons, blank, blankRest, List.map_cons]⟩

theorem update_mirrors {update other : Update}
    (same : update.erased dialect = other.erased dialect) :
    Mirrors Line.blank ((writeUpdate dialect update).finish update.args "UPDATE")
      ((writeUpdate dialect other).finish other.args "UPDATE") := by
  intro line ended
  obtain ⟨args, table, values, inline, condition, ordering, limit⟩ := update
  obtain ⟨otherArgs, _, otherValues, _, _, _, _⟩ := other
  simp only [Update.erased, Update.mk.injEq] at same
  obtain ⟨arguments, rfl, valuesSame, rfl, rfl, rfl, rfl⟩ := same
  obtain ⟨lines, fragments, table, restrictions, assigned, joined, known, restricted, rfl⟩ :=
    updateLine_ok.mp ended
  obtain ⟨otherLines, assignedOther, blankLines⟩ := assignments_alike assigned valuesSame
  obtain ⟨otherRestrictions, restrictedOther, blank⟩ := restrictions_alike restricted arguments
  refine ⟨_, updateLine_ok.mpr ⟨otherLines, fragments, table, otherRestrictions, assignedOther,
    joined, known, restrictedOther, rfl⟩, ?_⟩
  simp only [Line.blank_append, Line.blank_listed, List.map_append, blankLines, blank]

theorem delete_mirrors {delete other : Delete}
    (same : delete.erased dialect = other.erased dialect) :
    Mirrors Line.blank ((writeDelete dialect delete).finish delete.args "DELETE")
      ((writeDelete dialect other).finish other.args "DELETE") := by
  intro line ended
  obtain ⟨args, table, condition, ordering, limit⟩ := delete
  obtain ⟨otherArgs, _, _, _, _⟩ := other
  simp only [Delete.erased, Delete.mk.injEq] at same
  obtain ⟨arguments, rfl, rfl, rfl, rfl⟩ := same
  obtain ⟨table, restrictions, known, restricted, rfl⟩ := deleteLine_ok.mp ended
  obtain ⟨otherRestrictions, restrictedOther, blank⟩ := restrictions_alike restricted arguments
  refine ⟨_, deleteLine_ok.mpr ⟨table, otherRestrictions, known, restrictedOther, rfl⟩, ?_⟩
  simp only [Line.blank_append, blank]

theorem set_mirrors {setting other : SetVariable}
    (same : setting.erased dialect = other.erased dialect) :
    Mirrors Line.blank ((writeSet dialect setting).finish setting.args "SET")
      ((writeSet dialect other).finish other.args "SET") := by
  intro line ended
  obtain ⟨args, statement⟩ := setting
  obtain ⟨otherArgs, _⟩ := other
  simp only [SetVariable.erased, SetVariable.mk.injEq] at same
  obtain ⟨arguments, rfl⟩ := same
  obtain ⟨body, binds, rfl⟩ := setLine_ok.mp ended
  rw [← landings_clauseItems dialect "SET"] at arguments
  have unnamed : ∀ digits, Mirrors Line.blank (namedLine [] digits) (namedLine [] digits) :=
    fun _ line named => ⟨line, named, rfl⟩
  obtain ⟨otherBody, bindsOther, blank⟩ := binds_alike unnamed binds arguments
  refine ⟨_, setLine_ok.mpr ⟨otherBody, bindsOther, rfl⟩, ?_⟩
  simp only [Line.blank_append, blank]

theorem rows_erased (insert : Insert) :
    (insert.erased dialect).rows = insert.rows.map Row.erased := by
  unfold Insert.rows Insert.erased
  rcases insert.values with _ | _ | _ <;> rfl

theorem valueColumns_erased (dialect : Dialect) (insert : Insert) :
    (insert.erased dialect).valueColumns = insert.valueColumns := by
  unfold Insert.valueColumns
  rw [rows_erased]
  cases insert.rows with
  | nil => rfl
  | cons first rest => simp [Row.erased, Function.comp_def]

/-- Changing the items of a list changes the items of its batches. -/
theorem batches_map {α β : Type} (change : α → β) (size : Nat) (items : List α) :
    batches size (items.map change) = (batches size items).map (List.map change) := by
  fun_induction batches size items with
  | case1 => simp [batches]
  | case2 item rest inductionHypothesis =>
    rw [List.map_cons, batches, ← List.map_take, ← List.map_drop, inductionHypothesis]
    rfl

theorem insertBatches_erased (insert : Insert) :
    insertBatches dialect (insert.erased dialect) =
      (insertBatches dialect insert).map (List.map Row.erased) := by
  unfold insertBatches
  rw [valueColumns_erased, rows_erased]
  dsimp only
  split
  · rfl
  · rw [batches_map, List.length_map]

/-- The line of a row does not depend on its values, but for the parameters. -/
theorem blank_rowLine (kinds : List (String × ValueKind)) (fragments : List String) (row : Row) :
    (rowLine kinds fragments row).blank = (rowLine kinds fragments (Row.erased row)).blank := by
  unfold rowLine Row.erased
  simp [Function.comp_def]

/-- The lines of an insert do not depend on its values, but for the parameters. -/
theorem blank_insertLines (table : String) (names : List String) (insert : Insert) :
    ((insertBatches dialect insert).map (insertLine table names insert)).map Line.blank =
      ((insertBatches dialect (insert.erased dialect)).map
        (insertLine table names (insert.erased dialect))).map Line.blank := by
  rw [insertBatches_erased, List.map_map, List.map_map, List.map_map]
  have each : Line.blank ∘ rowLine insert.kinds (insert.inline.map Prod.snd) =
      Line.blank ∘ rowLine insert.kinds (insert.inline.map Prod.snd) ∘ Row.erased :=
    funext (blank_rowLine insert.kinds _)
  refine List.map_congr_left fun rows _ => ?_
  simp only [Function.comp_apply, insertLine, Line.blank_append, Line.blank_listed, List.map_map]
  rw [each]
  rfl

theorem insert_mirrors {insert other : Insert}
    (same : insert.erased dialect = other.erased dialect) :
    Mirrors WrittenPlan.blank (writtenInsert dialect insert) (writtenInsert dialect other) := by
  have shared : ∀ {α : Type} (part : Insert → α),
      part (insert.erased dialect) = part (other.erased dialect) := fun part => congrArg part same
  have args : insert.args = other.args := shared Insert.args
  have table : insert.table = other.table := shared Insert.table
  have inline : insert.inline = other.inline := shared Insert.inline
  have columns : insert.columns = other.columns := shared Insert.columns
  have selects : insert.select.map (Select.erased dialect) =
      other.select.map (Select.erased dialect) := shared Insert.select
  have valueColumns : insert.valueColumns = other.valueColumns := by
    rw [← valueColumns_erased dialect insert, same, valueColumns_erased]
  unfold writtenInsert
  rw [args, table, inline, columns, valueColumns]
  refine Mirrors.bind fun _ => Mirrors.bind fun table => ?_
  cases source : insert.select with
  | none =>
    rw [source] at selects
    rw [Option.map_eq_none_iff.mp selects.symm]
    refine Mirrors.bind fun _ => Mirrors.bind fun names => Mirrors.of_ok ?_
    simp only [WrittenPlan.blank, WrittenPlan.mk.injEq, and_true]
    rw [blank_insertLines, same, ← blank_insertLines]
  | some select =>
    rw [source, Option.map_some] at selects
    obtain ⟨otherSelect, given, sameSelect⟩ := Option.map_eq_some_iff.mp selects.symm
    rw [given]
    refine (nested_mirrors dialect select otherSelect sameSelect.symm).bindViewed
      fun line otherLine blank => Mirrors.bind fun columns => Mirrors.of_ok ?_
    simp [WrittenPlan.blank, blank]

theorem table_mirrors {creation other : CreateTable} {select otherSelect : Select}
    (same : { creation with select := none } = { other with select := none })
    (sameSelect : select.erased dialect = otherSelect.erased dialect) :
    Mirrors WrittenPlan.blank (writtenTableFrom dialect creation select)
      (writtenTableFrom dialect other otherSelect) := by
  obtain ⟨args, name, columns, keys, _, temporary, characterSet, collate⟩ := creation
  obtain ⟨_, _, _, _, _, _, _, _⟩ := other
  simp only [CreateTable.mk.injEq, true_and] at same
  obtain ⟨rfl, rfl, rfl, rfl, rfl, rfl, rfl⟩ := same
  unfold writtenTableFrom
  refine Mirrors.bind fun _ => Mirrors.bind fun table => ?_
  split
  · refine (nested_mirrors dialect select otherSelect sameSelect).bindViewed
      fun line otherLine blank => Mirrors.of_ok ?_
    simp [WrittenPlan.blank, blank, optionText]
  · refine (selected_mirrors dialect sameSelect).bindViewed
      fun written otherWritten blank => Mirrors.of_ok ?_
    simp only [WrittenPlan.blank, List.map_cons, List.map_nil, WrittenPlan.mk.injEq, and_true]
    exact congrArg (fun line => [line]) (congrArg Prod.fst blank)

/-- Queries with the same erasure are written alike. -/
theorem query_mirrors {nested : Bool} {select other : Select}
    (same : select.erased dialect = other.erased dialect) :
    Mirrors WrittenPlan.blank (writtenQuery dialect nested select)
      (writtenQuery dialect nested other) := by
  have exports := (Select.alike_of_erased same).exports
  unfold writtenQuery
  rw [exports.1, exports.2]
  refine (selected_mirrors dialect same).map fun written otherWritten blank => ?_
  obtain ⟨line, rowFilter⟩ := Prod.mk.inj blank
  simp [WrittenPlan.blank, line, rowFilter]

theorem line_mirrors {first second : Except Failure Line}
    (mirrors : Mirrors Line.blank first second) :
    Mirrors WrittenPlan.blank (first.map fun line => { lines := [line] })
      (second.map fun line => { lines := [line] }) :=
  mirrors.map fun line other blank => by simp [WrittenPlan.blank, blank]

/-- Commands with the same erasure are written alike. -/
theorem written_mirrors (nested : Bool) {command other : Command}
    (same : command.erased dialect = other.erased dialect) :
    command = other ∨ ∃ first second, command.written? dialect nested = some first ∧
      other.written? dialect nested = some second ∧ Mirrors WrittenPlan.blank first second := by
  cases command with
  | select select => cases other with
    | select otherSelect =>
      exact .inr ⟨_, _, rfl, rfl, query_mirrors (Command.select.inj same)⟩
    | _ => cases same
  | insert insert => cases other with
    | insert otherInsert =>
      exact .inr ⟨_, _, rfl, rfl, insert_mirrors (Command.insert.inj same)⟩
    | _ => cases same
  | update update => cases other with
    | update otherUpdate =>
      exact .inr ⟨_, _, rfl, rfl, line_mirrors (update_mirrors (Command.update.inj same))⟩
    | _ => cases same
  | delete delete => cases other with
    | delete otherDelete =>
      exact .inr ⟨_, _, rfl, rfl, line_mirrors (delete_mirrors (Command.delete.inj same))⟩
    | _ => cases same
  | set setting => cases other with
    | set otherSetting =>
      exact .inr ⟨_, _, rfl, rfl, line_mirrors (set_mirrors (Command.set.inj same))⟩
    | _ => cases same
  | createTable creation => cases other with
    | createTable otherCreation =>
      have inner := Command.createTable.inj same
      have selects : creation.select.map (Select.erased dialect) =
          otherCreation.select.map (Select.erased dialect) :=
        congrArg (fun table : CreateTable => table.select) inner
      have rest : { creation with select := none } = { otherCreation with select := none } :=
        congrArg (fun table : CreateTable => { table with select := none }) inner
      cases given : creation.select with
      | none =>
        rw [given] at selects
        have missing := Option.map_eq_none_iff.mp selects.symm
        have itself : creation = { creation with select := none } := by rw [← given]
        have otherItself : { otherCreation with select := none } = otherCreation := by
          rw [← missing]
        exact .inl (congrArg Command.createTable (itself.trans (rest.trans otherItself)))
      | some select =>
        rw [given, Option.map_some] at selects
        obtain ⟨otherSelect, otherGiven, sameSelect⟩ := Option.map_eq_some_iff.mp selects.symm
        exact .inr ⟨_, _, Option.map_eq_some_iff.mpr ⟨select, given, rfl⟩,
          Option.map_eq_some_iff.mpr ⟨otherSelect, otherGiven, rfl⟩,
          table_mirrors rest sameSelect.symm⟩
    | _ => cases same
  | _ =>
    left
    cases other
    all_goals first | exact same | cases same

end Changes

theorem tag_erased (dialect : Dialect) (command : Command) :
    (command.erased dialect).tag = command.tag := by
  cases command <;> rfl

/-- Where one of two commands with the same erasure compiles, so does the other, and alike. -/
theorem compiled_alike (dialect : Dialect) (context : Context) {command other : Command}
    (same : command.erased dialect = other.erased dialect) :
    Mirrors Plan.blank (compilePlan dialect command context).result
      (compilePlan dialect other context).result := by
  have written := written_mirrors context.nested same
  rcases written with rfl | ⟨first, second, given, otherGiven, mirrors⟩
  · exact fun plan ended => ⟨plan, ended, rfl⟩
  · have tags : command.tag = other.tag := by
      rw [← tag_erased dialect command, same, tag_erased]
    rw [(compilePlan_gives dialect context command given).result_eq,
      (compilePlan_gives dialect context other otherGiven).result_eq, tags]
    refine mirrors.map fun written otherWritten blank => ?_
    have plans : written.plan.blank = otherWritten.plan.blank := by
      rw [← written.plan_blank, blank, otherWritten.plan_blank]
    exact congrArg (fun plan : Plan =>
      { plan with tag := some other.tag, master := context.master }) plans

/-- Two commands that differ only in their values compile to plans that differ only in the
parameters of their statements, or none of them compiles. -/
theorem values_leave_texts (dialect : Dialect) (context : Context) {command other : Command}
    (same : command.erased dialect = other.erased dialect) :
    (∃ failure otherFailure, (compilePlan dialect command context).result = .error failure ∧
      (compilePlan dialect other context).result = .error otherFailure) ∨
    ∃ plan otherPlan, (compilePlan dialect command context).result = .ok plan ∧
      (compilePlan dialect other context).result = .ok otherPlan ∧
      plan.blank = otherPlan.blank ∧ plan.texts = otherPlan.texts ∧
      plan.statements.map (·.parameters.length) = otherPlan.statements.map (·.parameters.length) ∧
      plan.rowFilter = otherPlan.rowFilter := by
  have forwards := compiled_alike dialect context same
  have backwards := compiled_alike dialect context same.symm
  cases ended : (compilePlan dialect command context).result with
  | ok plan =>
    obtain ⟨otherPlan, otherEnded, blank⟩ := forwards plan ended
    have statements : plan.statements.map Statement.blank =
        otherPlan.statements.map Statement.blank := congrArg Plan.statements blank
    refine .inr ⟨plan, otherPlan, rfl, otherEnded, blank, ?_, ?_, ?_⟩
    · have texts := congrArg (List.map Statement.sql) statements
      rwa [List.map_map, List.map_map] at texts
    · have counts := congrArg (List.map fun statement => statement.parameters.length) statements
      simpa [Function.comp_def, Statement.blank] using counts
    · change plan.blank.rowFilter = otherPlan.blank.rowFilter
      rw [blank]
  | error failure =>
    cases otherEnded : (compilePlan dialect other context).result with
    | error otherFailure => exact .inl ⟨failure, otherFailure, rfl, rfl⟩
    | ok otherPlan =>
      obtain ⟨plan, wrong, -⟩ := backwards otherPlan otherEnded
      rw [ended] at wrong
      cases wrong

/-- The removal of one row of a table, found by a value. -/
def removalOf (value : Value) : Delete where
  table := "notes"
  condition := some "id = ?"
  ordering := some "?"
  args := [value, .text "age"]

theorem texts_of_removals :
    (Command.delete (removalOf (.int 1))).erased Family.mysql.dialect =
        (Command.delete (removalOf (.text "' OR 1 = 1"))).erased Family.mysql.dialect ∧
      ∃ plan otherPlan,
        (compilePlan Family.mysql.dialect (.delete (removalOf (.int 1))) {}).result = .ok plan ∧
        (compilePlan Family.mysql.dialect (.delete (removalOf (.text "' OR 1 = 1"))) {}).result =
          .ok otherPlan ∧
        plan.texts = otherPlan.texts ∧
        otherPlan.texts =
          ["DELETE FROM \x60notes\x60 WHERE id = ? ORDER BY \x60age\x60"] := by
  have landings : restrictionLandings Family.mysql.dialect (some "id = ?") (some "?") none =
      [.value, .name] := by
    decide +kernel
  have same : (Command.delete (removalOf (.int 1))).erased Family.mysql.dialect =
      (Command.delete (removalOf (.text "' OR 1 = 1"))).erased Family.mysql.dialect := by
    simp only [Command.erased, Delete.erased, removalOf, landings]
    rfl
  have texts : ((compilePlan Family.mysql.dialect (.delete (removalOf (.text "' OR 1 = 1")))
      {}).result.toOption.map Plan.texts) =
        some ["DELETE FROM \x60notes\x60 WHERE id = ? ORDER BY \x60age\x60"] := by
    decide +kernel
  obtain ⟨found, ended, known⟩ := Option.map_eq_some_iff.mp texts
  have compiled := Reporting.toOption_eq_some.mp ended
  rcases values_leave_texts Family.mysql.dialect {} same with
    ⟨_, failure, _, wrong⟩ | ⟨plan, otherPlan, first, second, -, equal, -⟩
  · cases wrong.symm.trans compiled
  · cases second.symm.trans compiled
    exact ⟨same, plan, found, first, second, equal, known⟩

end PortableSql
