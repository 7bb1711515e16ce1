import PortableSql.Proofs.Scan
import PortableSql.Compile.Change
import PortableSql.Proofs.Selection

/-!
# Changes of rows as they are written

An update and a delete are written as one line each, an insert as one line for every batch. In an
update the assignments come first and the name of the table, which stands before them in the text,
is quoted after them; it binds nothing.
-/

namespace PortableSql

namespace Line

/-- Lines with commas between them. -/
def listed (lines : List Line) : Line := (ofText ", ").intercalate lines

@[simp] theorem sql_listed (lines : List Line) :
    sql (listed lines) = Text.listed (lines.map sql) := by
  unfold listed Text.listed
  induction lines with
  | nil => rfl
  | cons first rest inductionHypothesis =>
    cases rest with
    | nil => simp
    | cons second others =>
      rw [List.intercalate_cons_cons, sql_append, sql_append, inductionHypothesis]
      simp

@[simp] theorem parameters_listed (lines : List Line) :
    parameters (listed lines) = lines.flatMap parameters := by
  unfold listed
  induction lines with
  | nil => rfl
  | cons first rest inductionHypothesis =>
    cases rest with
    | nil => simp
    | cons second others =>
      rw [List.intercalate_cons_cons, parameters_append, parameters_append, inductionHypothesis]
      simp

end Line

/-- Whether an item can add parameters. -/
def Item.unbound : Item → Bool
  | text _ | placeholder _ .name | placeholder _ .refused => true
  | placeholder _ .value | subquery _ => false

/-- Items that add no parameters are written without any. -/
theorem parameters_of_unbound {dialect : Dialect} {items : List Item}
    (unbound : ∀ item ∈ items, item.unbound) {line : Line}
    (writes : (writeItems dialect [] items).Writes line) : line.parameters = [] := by
  induction items generalizing line with
  | nil => rw [Writing.writes_pure writes]; rfl
  | cons item rest inductionHypothesis =>
    obtain ⟨first, begun, others⟩ := Writing.writes_bind writes
    obtain ⟨following, continued, ended⟩ := Writing.writes_bind others
    have last := inductionHypothesis
      (fun later member => unbound later (List.mem_cons_of_mem item member)) continued
    have plain : first.parameters = [] := by
      have allowed := unbound item List.mem_cons_self
      cases item with
      | text characters => rw [Writing.writes_pure begun]; rfl
      | subquery digits => cases allowed
      | placeholder clause use => cases use with
        | refused => exact absurd begun Writing.not_writes_throw
        | value => cases allowed
        | name =>
          obtain ⟨value, _, quoting⟩ := Writing.writes_bind begun
          obtain ⟨name, _, same⟩ := Writing.writes_map quoting
          rw [same]; rfl
    rw [Writing.writes_pure ended, Line.parameters_append, plain, last]
    rfl

/-- A clause of names adds no parameters. -/
theorem unbound_optionalItems (dialect : Dialect) (clause : String) (text : Option String) :
    ∀ item ∈ optionalItems dialect clause .name false text, item.unbound := by
  intro item member
  cases text with
  | none => cases member
  | some text =>
    by_cases blank : text.isEmpty
    · simp [optionalItems, blank] at member
    · simp only [optionalItems, blank, Bool.false_eq_true, if_false] at member
      rcases List.mem_cons.mp member with rfl | inside
      · rfl
      · obtain ⟨piece, found, rfl⟩ := List.mem_map.mp inside
        cases piece with
        | subquery digits => exact absurd found Sql.not_subquery_mem_pieces
        | span _ | placeholder | other _ => rfl

/-- The text that limits the rows of a change, where the dialect can limit them. -/
def restrictionLimit (dialect : Dialect) (tag : Tag) (limit : Option Limit) :
    Option (Int × Int) → Except Failure String
  | none => .ok ""
  | some (offset, count) =>
    if offset = 0 then if dialect.table.updateLimit then limitSql 0 count else .ok ""
    else .error (offsetRefusal tag limit)

/-- The count of rows to change can be written, where the dialect writes it. -/
def RestrictionWritable (dialect : Dialect) : Option (Int × Int) → Prop
  | none => True
  | some (offset, count) => offset = 0 → dialect.table.updateLimit = true → Writable count

/-- The rows of a change can be limited exactly when the limit has no offset and its count can be
written. -/
theorem restrictionLimit_ok {dialect : Dialect} {tag : Tag} {limit : Option Limit}
    {numbers : Option (Int × Int)} :
    (∃ text, restrictionLimit dialect tag limit numbers = .ok text) ↔
      (∀ range ∈ numbers, range.1 = 0) ∧ RestrictionWritable dialect numbers := by
  cases numbers with
  | none => exact iff_of_true ⟨"", rfl⟩ ⟨(fun _ wrong => nomatch wrong), trivial⟩
  | some range =>
    obtain ⟨offset, count⟩ := range
    unfold restrictionLimit RestrictionWritable
    by_cases first : offset = 0
    · by_cases supported : dialect.table.updateLimit
      · simp [first, supported, limitSql_ok, writable_zero]
      · simp [first, supported]
    · simp [first]

theorem restrictionLimit_text {dialect : Dialect} {tag : Tag} {limit : Option Limit}
    {numbers : Option (Int × Int)} {text : String}
    (ended : restrictionLimit dialect tag limit numbers = .ok text) :
    text = "" ∨ ∃ count : Int, text = " LIMIT " ++ toString count := by
  unfold restrictionLimit at ended
  split at ended
  · exact .inl (Except.ok.inj ended).symm
  · split at ended
    · split at ended
      · exact .inr ⟨_, (limitSql_ok.mp ended).2⟩
      · exact .inl (Except.ok.inj ended).symm
    · cases ended

/-- Writes the condition, order and limit of an update or a delete. -/
def writeRestrictions (dialect : Dialect) (tag : Tag) (condition ordering : Option String)
    (limit : Option Limit) : Writing Line := do
  let selected ← writeItems dialect [] (optionalItems dialect "WHERE" .value false condition)
  let ordered ← writeItems dialect [] (optionalItems dialect "ORDER BY" .name false ordering)
  let limited ← readLimit limit
  let limitText ← restrictionLimit dialect tag limit limited
  pure (if dialect.table.updateLimit then selected ++ ordered ++ Line.ofText limitText
    else selected)

/-- Writes the assignment of a value. -/
def writeAssignment (dialect : Dialect) (column : String) (value : Value) : Writing Line := do
  let quoted ← dialect.quoted "identifier" column
  match value with
  | .bool true =>
    if dialect.table.updateDefaultKeyword then
      pure (Line.ofText quoted ++ Line.ofText " = DEFAULT")
    else throw (.validation (dialect.name ++ " cannot reset " ++ Text.quoted column ++
      " to DEFAULT in an UPDATE") column)
  | .bool false => pure (Line.ofText quoted ++ Line.ofText " = NULL")
  | value => pure (Line.ofText quoted ++ Line.ofText " = " ++ [.marker (.infer value)])

/-- Whether a fragment that is written as it is has no placeholders. -/
def fragmentAllowed (dialect : Dialect) (column fragment : String) : Except Failure Unit :=
  (refusePlaceholders dialect column fragment).result

/-- Writes the assignment of a fragment. -/
def writeFragment (dialect : Dialect) (column fragment : String) : Writing Line := do
  fragmentAllowed dialect column fragment
  let quoted ← dialect.quoted "identifier" column
  pure (Line.ofText quoted ++ Line.ofText " = " ++ Line.ofText fragment)

/-- Writes an update. -/
def writeUpdate (dialect : Dialect) (update : Update) : Writing Line := do
  let values ← update.values.mapM fun entry => writeAssignment dialect entry.1 entry.2
  let fragments ← update.inline.mapM fun entry => writeFragment dialect entry.1 entry.2
  let table ← dialect.quoted "table" update.table
  let restrictions ←
    writeRestrictions dialect .update update.condition update.ordering update.limit
  pure (Line.ofText "UPDATE " ++ Line.ofText table ++ Line.ofText " SET " ++
    Line.listed (values ++ fragments) ++ restrictions)

/-- Writes a delete. -/
def writeDelete (dialect : Dialect) (delete : Delete) : Writing Line := do
  let table ← dialect.quoted "table" delete.table
  let restrictions ←
    writeRestrictions dialect .delete delete.condition delete.ordering delete.limit
  pure (Line.ofText "DELETE FROM " ++ Line.ofText table ++ restrictions)

section Emission

variable (dialect : Dialect)

theorem emitRestrictions_follows (tag : Tag) (condition ordering : Option String)
    (limit : Option Limit) (earlier : List Parameter) :
    Emitting.Follows (Line.emitted earlier) earlier
      (emitRestrictions dialect tag condition ordering limit)
      (writeRestrictions dialect tag condition ordering limit) := by
  unfold emitRestrictions writeRestrictions
  refine (emitOptional_follows dialect none .nil _ _ _ _).bind fun selected => ?_
  refine (emitOptional_follows dialect none .nil _ _ _ _).bindOf fun ordered named => ?_
  have unbound := parameters_of_unbound (unbound_optionalItems dialect "ORDER BY" ordering) named
  refine (resolveLimit_follows limit _).bind fun limited => ?_
  change Emitting.Follows _ (earlier ++ selected.parameters ++ ordered.parameters) _ _
  rw [unbound, List.append_nil]
  have ignored : ∀ (unlimited : Bool) (warning : Log.Record),
      Emitting.Follows (Line.emitted earlier) (earlier ++ selected.parameters)
        (if ordered.sql.isEmpty && unlimited then
          pure selected.sql
        else do
          liftM (Reporting.log warning)
          pure selected.sql)
        (pure selected) := by
    intro unlimited warning
    split
    · exact Emitting.follows_pure rfl
    · exact (Emitting.follows_log _ warning).andThen (Emitting.follows_pure rfl)
  have kept : ∀ limitText : String, Emitting.Follows (Line.emitted earlier)
      (earlier ++ selected.parameters) (pure (selected.sql ++ ordered.sql ++ limitText))
      (pure (selected ++ ordered ++ Line.ofText limitText)) := fun limitText =>
    Emitting.follows_pure (by simp [Line.emitted, unbound, String.append_assoc])
  cases limited with
  | none =>
    by_cases supported : dialect.table.updateLimit
    · simp only [restrictionLimit, supported, if_true, pure_bind]
      exact kept ""
    · simp only [restrictionLimit, supported, Bool.false_eq_true, if_false, pure_bind]
      exact ignored _ _
  | some numbers =>
    obtain ⟨offset, count⟩ := numbers
    by_cases first : offset = 0
    · by_cases supported : dialect.table.updateLimit
      · simp only [restrictionLimit, first, supported, if_true, pure_bind]
        exact (Emitting.follows_ofExcept _ (limitSql 0 count)).bind kept
      · simp only [restrictionLimit, first, supported, Bool.false_eq_true, if_false, if_true,
          pure_bind]
        exact ignored _ _
    · simp only [restrictionLimit, first, if_false]
      have refused : Emitting.Follows
          (fun _ : String => ((none : Option Int), earlier ++ selected.parameters))
          (earlier ++ selected.parameters) (Emitting.refuse (offsetRefusal tag limit))
          (throw (offsetRefusal tag limit)) := Emitting.follows_refuse _ _
      exact refused.bindOf fun _ writes => absurd writes Writing.not_writes_throw

theorem emitAssignment_follows (column : String) (value : Value) (earlier : List Parameter) :
    Emitting.Follows (Line.emitted earlier) earlier (emitAssignment dialect column value)
      (writeAssignment dialect column value) := by
  unfold emitAssignment writeAssignment
  refine (quoted_follows dialect "identifier" column earlier).bind fun quoted => ?_
  have bound : ∀ parameter : Parameter, Emitting.Follows (Line.emitted earlier) earlier
      (do Emitting.bind parameter; pure (quoted ++ " = ?"))
      (pure (Line.ofText quoted ++ Line.ofText " = " ++ [.marker parameter])) := by
    intro parameter
    refine (Emitting.follows_modify earlier [parameter] id).andThen (Emitting.follows_pure ?_)
    simp [Line.emitted]
  cases value with
  | bool truth => cases truth with
    | false => exact Emitting.follows_pure (by simp [Line.emitted])
    | true =>
      by_cases keyword : dialect.table.updateDefaultKeyword
      · simp only [keyword, if_true]
        exact Emitting.follows_pure (by simp [Line.emitted])
      · simp only [keyword, Bool.false_eq_true, if_false]
        exact Emitting.follows_refuse earlier _
  | _ => exact bound _

theorem gives_refusePlaceholders (column fragment : String) :
    (refusePlaceholders dialect column fragment).Gives
      (fragmentAllowed dialect column fragment) := by
  unfold fragmentAllowed refusePlaceholders
  split
  · exact (Reporting.gives_pure ()).self
  · exact (Reporting.gives_raise _).self

theorem emitFragment_follows (column fragment : String) (earlier : List Parameter) :
    Emitting.Follows (Line.emitted earlier) earlier (emitFragment dialect column fragment)
      (writeFragment dialect column fragment) := by
  unfold emitFragment writeFragment
  have gives : (refusePlaceholders dialect column fragment).Gives
      ((fragmentAllowed dialect column fragment).map id) := by
    rw [Except.map_id]
    exact gives_refusePlaceholders dialect column fragment
  have allowed := Emitting.follows_lift earlier id gives
  refine allowed.bind fun _ => ?_
  refine (quoted_follows dialect "identifier" column earlier).bind fun quoted => ?_
  exact Emitting.follows_pure (by simp [Line.emitted, String.append_assoc])

/-- A computed statement becomes a plan with this statement only. -/
theorem single_gives {computation : Reporting Statement} {outcome : Except Failure Line}
    (gives : computation.Gives (outcome.map Line.statement)) :
    (do
      let statement ← computation
      pure ({ statements := [statement] } : Plan)).Gives
      (outcome.map fun line => WrittenPlan.plan { lines := [line] }) := by
  have planned := gives.bind fun statement _ =>
    Reporting.gives_pure ({ statements := [statement] } : Plan)
  cases outcome <;> exact planned

/-- Lines that are written one after the other are emitted one after the other. -/
theorem follows_mapM_lines {α : Type} (emission : α → Emitting String) (writing : α → Writing Line)
    (each : ∀ item earlier,
      Emitting.Follows (Line.emitted earlier) earlier (emission item) (writing item))
    (items : List α) (earlier : List Parameter) :
    Emitting.Follows
      (fun lines => (lines.map Line.sql, earlier ++ lines.flatMap Line.parameters)) earlier
      (items.mapM emission) (items.mapM writing) := by
  induction items generalizing earlier with
  | nil => exact Emitting.follows_pure (by simp)
  | cons first rest inductionHypothesis =>
    rw [List.mapM_cons, List.mapM_cons]
    refine (each first earlier).bind fun line => ?_
    refine (inductionHypothesis _).bind fun lines => Emitting.follows_pure ?_
    simp [Line.emitted]

/-- An update compiles to the statement of its line.

Proof: the assignments are emitted before the name of the table, which adds no parameters, so the
parameters of the assignments come before those of the condition in both. -/
theorem compileUpdate_gives (update : Update) :
    (compileUpdate dialect update).Gives
      (((writeUpdate dialect update).finish update.args "UPDATE").map fun line =>
        WrittenPlan.plan { lines := [line] }) := by
  refine single_gives (Emitting.Follows.run ?_ update.args "UPDATE")
  unfold writeUpdate
  have assigned := follows_mapM_lines
    (fun (column, value) => emitAssignment dialect column value)
    (fun entry => writeAssignment dialect entry.1 entry.2)
    (fun (column, value) => emitAssignment_follows dialect column value)
  have joined := follows_mapM_lines
    (fun (column, fragment) => emitFragment dialect column fragment)
    (fun entry => writeFragment dialect entry.1 entry.2)
    (fun (column, fragment) => emitFragment_follows dialect column fragment)
  refine (assigned update.values []).bind fun values => ?_
  refine (joined update.inline _).bind fun fragments => ?_
  refine (quoted_follows dialect "table" update.table _).bind fun table => ?_
  refine (emitRestrictions_follows dialect .update _ _ _ _).bind fun restrictions => ?_
  refine Emitting.follows_pure ?_
  simp [Line.emitted, String.append_assoc]

theorem compileDelete_gives (delete : Delete) :
    (compileDelete dialect delete).Gives
      (((writeDelete dialect delete).finish delete.args "DELETE").map fun line =>
        WrittenPlan.plan { lines := [line] }) := by
  refine single_gives (Emitting.Follows.run ?_ delete.args "DELETE")
  unfold writeDelete
  refine (quoted_follows dialect "table" delete.table []).bind fun table => ?_
  refine (emitRestrictions_follows dialect .delete _ _ _ _).bind fun restrictions => ?_
  exact Emitting.follows_pure (by simp [Line.emitted, String.append_assoc])

end Emission

end PortableSql
