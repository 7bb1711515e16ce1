import PortableSql.Proofs.Concord
import PortableSql.Proofs.Window

/-!
# Exported rows that are inserted again

A cursor that exports rows hands out buffers as fixed bytes. If it exports hints as well, it notes
of each column how its values are to be bound. The rows and these hints make an insert, and each of
its values is bound by the hint of its column.

The first value of a column that is not null decides about its hint. So the values are bound as they
were exported unless a column begins with a buffer and holds something else later: then a driver is
to make bytes of what are none.
-/

namespace PortableSql

namespace Parameter

@[simp] theorem settled_settled (value : Value) : settled (settled value) = settled value := by
  cases value <;> rfl

@[simp] theorem usualKind_settled (value : Value) : usualKind (settled value) = usualKind value := by
  cases value <;> rfl

theorem usualKind_eq_null {value : Value} : usualKind value = .null ↔ value = .null := by
  cases value <;> simp [usualKind]

end Parameter

open Parameter

/-! ## Hints -/

/-- The kind of the first value that is not null. -/
def firstKind : List Value → ValueKind
  | [] => .null
  | value :: rest =>
    match usualKind value with
    | .null => firstKind rest
    | kind => kind

/-- The values of a column, row by row. -/
def valuesOf (column : String) (rows : List Row) : List Value :=
  rows.filterMap fun row => row.lookup column

/-- What is known of the hint of a column after one more value. -/
def noted (known? : Option ValueKind) (value : Value) : Option ValueKind :=
  match known? with
  | none | some .null => some (usualKind value)
  | some kind => some kind

/-- The hints after one more row. -/
def noteRow (hints : List (String × ValueKind)) (row : Row) : List (String × ValueKind) :=
  row.foldl (fun hints (column, value) => noteHint hints column value) hints

section Hints

variable (hints : List (String × ValueKind)) (column : String)

theorem lookup_noteHint (value : Value) :
    (noteHint hints column value).lookup column = noted (hints.lookup column) value := by
  unfold noteHint noted
  cases known : hints.lookup column with
  | none => exact lookup_putEntry hints column _
  | some kind =>
    cases kind with
    | null => exact lookup_putEntry hints column _
    | string | binary => exact known

theorem lookup_noteHint_of_ne {other : String} (value : Value) (different : column ≠ other) :
    (noteHint hints other value).lookup column = hints.lookup column := by
  unfold noteHint
  split
  · exact lookup_putEntry_of_ne hints _ different
  · exact lookup_putEntry_of_ne hints _ different
  · rfl

/-- A row without a column leaves the hint of the column. -/
theorem lookup_noteRow_of_notMem {row : Row} (absent : column ∉ row.map Prod.fst) :
    (noteRow hints row).lookup column = hints.lookup column := by
  induction row generalizing hints with
  | nil => rfl
  | cons entry rest inductionHypothesis =>
    rw [List.map_cons, List.mem_cons, not_or] at absent
    obtain ⟨different, later⟩ := absent
    change (noteRow (noteHint hints entry.1 entry.2) rest).lookup column = _
    rw [inductionHypothesis _ later, lookup_noteHint_of_ne hints column _ different]

/-- A row notes one value for each of its columns. -/
theorem lookup_noteRow {row : Row} (unique : (row.map Prod.fst).Nodup) {value : Value}
    (held : row.lookup column = some value) :
    (noteRow hints row).lookup column = noted (hints.lookup column) value := by
  induction row generalizing hints with
  | nil => cases held
  | cons entry rest inductionHypothesis =>
    obtain ⟨name, first⟩ := entry
    rw [List.map_cons, List.nodup_cons] at unique
    obtain ⟨fresh, others⟩ := unique
    change (noteRow (noteHint hints name first) rest).lookup column = _
    by_cases same : column = name
    · subst same
      rw [List.lookup_cons_self] at held
      obtain rfl := Option.some.inj held
      rw [lookup_noteRow_of_notMem _ _ fresh, lookup_noteHint]
    · rw [List.lookup_cons, beq_false_of_ne same] at held
      rw [inductionHypothesis _ others held, lookup_noteHint_of_ne hints column _ same]

/-- A row has a value for each of its columns. -/
theorem exists_lookup {row : Row} {column : String} (within : column ∈ row.map Prod.fst) :
    ∃ value, row.lookup column = some value := by
  obtain ⟨entry, member, rfl⟩ := List.mem_map.mp within
  exact Option.isSome_iff_exists.mp
    (List.lookup_isSome_iff.mpr ⟨entry, member, beq_self_eq_true entry.1⟩)

/-- A column goes on with its value in the next row. -/
theorem valuesOf_cons {column : String} {row : Row} {value : Value}
    (held : row.lookup column = some value) (rest : List Row) :
    valuesOf column (row :: rest) = value :: valuesOf column rest := List.filterMap_cons_some held

/-- Rows note the values of a column one after the other. -/
theorem lookup_noteRows {rows : List Row}
    (tabular : ∀ row ∈ rows, (row.map Prod.fst).Nodup ∧ column ∈ row.map Prod.fst) :
    (rows.foldl noteRow hints).lookup column =
      (valuesOf column rows).foldl noted (hints.lookup column) := by
  induction rows generalizing hints with
  | nil => rfl
  | cons row rest inductionHypothesis =>
    obtain ⟨⟨unique, within⟩, others⟩ := List.forall_mem_cons.mp tabular
    obtain ⟨value, held⟩ := exists_lookup within
    rw [List.foldl_cons, inductionHypothesis _ others, lookup_noteRow hints column unique held,
      valuesOf_cons held, List.foldl_cons]

end Hints

/-- A hint that is not null stays. -/
theorem foldl_noted_some {kind : ValueKind} (decided : kind ≠ .null) (values : List Value) :
    values.foldl noted (some kind) = some kind := by
  have stays : ∀ value, noted (some kind) value = some kind := by
    intro value
    cases kind with
    | null => exact absurd rfl decided
    | string | binary => rfl
  induction values with
  | nil => rfl
  | cons value rest inductionHypothesis => rw [List.foldl_cons, stays, inductionHypothesis]

/-- A hint that is null is decided by the first value that is not. -/
theorem foldl_noted_null (values : List Value) :
    values.foldl noted (some .null) = some (firstKind values) := by
  induction values with
  | nil => rfl
  | cons value rest inductionHypothesis =>
    rw [List.foldl_cons, firstKind]
    change rest.foldl noted (some (usualKind value)) = _
    cases usualKind value with
    | null => exact inductionHypothesis
    | string => exact foldl_noted_some (by decide) rest
    | binary => exact foldl_noted_some (by decide) rest

/-- The values of a column decide about its hint. -/
theorem foldl_noted {values : List Value} (filled : values ≠ []) :
    values.foldl noted none = some (firstKind values) := by
  cases values with
  | nil => exact absurd rfl filled
  | cons value rest => exact foldl_noted_null (value :: rest)

/-! ## Binding by hints -/

/-- A value that is exported is bound unchanged by the kind: nothing but null by the null kind, and
no value that is no buffer by the binary one. -/
def ValueKind.Suits (kind : ValueKind) (value : Value) : Prop :=
  match kind with
  | .null => usualKind value = .null
  | .binary => usualKind value ≠ .string
  | .string => True

/-- What is bound as binary data is null or a buffer. -/
theorem usualKind_boundValue {value bound : Value}
    (ended : boundValue { value, kind := .binary } = .ok bound) : usualKind bound ≠ .string := by
  unfold boundValue at ended
  split at ended
  · cases ended
    exact nofun
  · cases ended
    exact nofun
  · obtain ⟨bytes, -, rfl⟩ := Reporting.map_ok.mp ended
    exact nofun
  · contradiction

theorem boundValue_infer (kind : ValueKind) (value : Value) :
    boundValue (.infer (settled value) (some kind)) = .ok (settled value) ↔ kind.Suits value := by
  unfold infer
  rw [settled_settled, Option.getD_some]
  cases kind with
  | string => exact iff_of_true rfl trivial
  | null =>
    refine Iff.trans ?_ usualKind_eq_null.symm
    cases value <;> simp [boundValue, settled]
  | binary =>
    constructor
    · intro ended
      have kind := usualKind_boundValue ended
      rwa [usualKind_settled] at kind
    · intro suits
      cases value with
      | null | binary => rfl
      | _ => exact absurd rfl suits

/-- The values begin with a buffer, apart from nulls, and hold something else later. -/
def Mixed (values : List Value) : Prop :=
  firstKind values = .binary ∧ ∃ value ∈ values, usualKind value = .string

/-- Values have the null kind only where all of them are null. -/
theorem null_of_firstKind {values : List Value} (known : firstKind values = .null) :
    ∀ value ∈ values, usualKind value = .null := by
  induction values with
  | nil => exact fun _ member => nomatch member
  | cons value rest inductionHypothesis =>
    rw [firstKind] at known
    cases kind : usualKind value with
    | null =>
      rw [kind] at known
      exact List.forall_mem_cons.mpr ⟨kind, inductionHypothesis known⟩
    | string | binary =>
      rw [kind] at known
      cases known

/-- The hint of a column suits all of its values exactly when they are not mixed. -/
theorem firstKind_suits (values : List Value) :
    (∀ value ∈ values, (firstKind values).Suits value) ↔ ¬Mixed values := by
  unfold Mixed
  cases known : firstKind values with
  | null => exact iff_of_true (null_of_firstKind known) fun mixed => nomatch mixed.1
  | string => exact iff_of_true (fun _ _ => trivial) fun mixed => nomatch mixed.1
  | binary =>
    simp [ValueKind.Suits]

/-! ## Reading to the end -/

namespace Reading

variable {α β : Type} {Holds : Cursor → Prop}

/-- However it ends, the reading keeps what holds of the cursor. -/
def Keeps (Holds : Cursor → Prop) (action : Reading α) : Prop :=
  ∀ cursor, Holds cursor → Holds (action cursor).2

theorem keeps_pure (value : α) : (pure value : Reading α).Keeps Holds := fun _ holds => holds

theorem Keeps.bind {action : Reading α} {next : α → Reading β} (first : action.Keeps Holds)
    (second : ∀ value, (next value).Keeps Holds) : (action >>= next).Keeps Holds := by
  intro cursor holds
  have kept := first cursor holds
  rw [bind_apply]
  generalize action cursor = out at kept ⊢
  rcases out with ⟨_ | value, later⟩
  · exact kept
  · exact second value later kept

/-- A reading leaves the hints. -/
def KeepsHints (action : Reading α) : Prop :=
  ∀ cursor, (action cursor).2.hints = cursor.hints

theorem keepsHints_iff {action : Reading α} :
    action.KeepsHints ↔ ∀ hints, action.Keeps fun cursor => cursor.hints = hints := by
  refine ⟨fun keeps hints cursor noted => (keeps cursor).trans noted, fun keeps cursor => ?_⟩
  exact keeps cursor.hints cursor rfl

end Reading

namespace Cursor

open Reading

variable {cursor : Cursor} {rows : List Row} {Holds : Cursor → Prop}

/-- Collecting rows keeps what each step keeps. -/
theorem collected_keeps {step : Reading (Option Row)} (keeps : step.Keeps Holds) (count : Nat) :
    (collected step count).Keeps Holds := by
  induction count with
  | zero => exact keeps_pure []
  | succ count inductionHypothesis =>
    refine keeps.bind fun row? => ?_
    cases row? with
    | none => exact keeps_pure []
    | some row => exact inductionHypothesis.bind fun _ => keeps_pure _

/-- Leaving out rows keeps what pulling keeps. -/
theorem discard_keeps (pulls : pull.Keeps Holds) (skip : Nat) : (discard skip).Keeps Holds := by
  induction skip with
  | zero => exact keeps_pure true
  | succ skip inductionHypothesis =>
    refine pulls.bind fun row? => ?_
    cases row? with
    | none => exact keeps_pure false
    | some row => exact inductionHypothesis

/-- Passing rows on keeps what pulling and finishing keep, when the window does not matter. -/
theorem passed_keeps (pulls : pull.Keeps Holds) (finishes : finish.Keeps Holds)
    (windowed : ∀ cursor window?, Holds cursor → Holds { cursor with window? }) :
    passed.Keeps Holds := by
  intro cursor holds
  unfold passed
  rw [get_bind_apply]
  cases cursor.window? with
  | none => exact pulls cursor holds
  | some window =>
    refine (discard_keeps pulls window.skip).bind (fun enough => ?_) cursor holds
    cases enough with
    | false => exact keeps_pure none
    | true =>
      rcases window.left with _ | _ | left
      · exact fun later holds => pulls _ (windowed later _ holds)
      · exact finishes.bind fun _ => keeps_pure none
      · exact fun later holds => pulls _ (windowed later _ holds)

theorem free_keepsHints : free.KeepsHints := by
  intro cursor
  unfold free
  rw [Reading.get_bind_apply]
  split
  · rfl
  · cases cursor.result? with
    | none => rfl
    | some result =>
      obtain ⟨_, _, _, _, fault⟩ := result
      cases fault <;> rfl

theorem pull_keepsHints : pull.KeepsHints := by
  intro cursor
  unfold pull
  rw [Reading.get_bind_apply]
  cases cursor.source with
  | exhausted => rfl
  | given rows => cases rows <;> rfl
  | result => cases cursor.result? with
    | none => rfl
    | some result =>
      dsimp only
      split
      · cases result.rows with
        | nil =>
          refine (keepsHints_iff.mp free_keepsHints cursor.hints).bind ?_ cursor rfl
          exact fun _ => keeps_pure none
        | cons row rest => cases row <;> rfl
      · rfl

theorem passed_keepsHints : passed.KeepsHints :=
  keepsHints_iff.mpr fun hints => passed_keeps (keepsHints_iff.mp pull_keepsHints hints)
    (fun _ noted => noted) fun _ _ noted => noted

theorem exported_hints (exports : cursor.plan.exportHints = true) (row : Row) :
    (exported row cursor).2.hints = noteRow cursor.hints row := by
  unfold exported
  rw [Reading.get_bind_apply]
  simp only [exports, if_true]
  rfl

/-- Fetching a row notes its values. -/
theorem fetch_cons_hints (exports : cursor.plan.exportHints = true) {row : Row} {rest : List Row}
    (holds : cursor.Holds (row :: rest)) :
    (fetch cursor).2.hints = noteRow cursor.hints row := by
  obtain ⟨between, passes, -, follows⟩ := passed_cons holds
  have kept := passed_keepsHints cursor
  have noted := exported_hints (follows.plan ▸ exports : between.plan.exportHints = true) row
  rw [passes] at kept
  unfold fetch
  rw [Reading.bind_apply, passes, ← kept, ← noted]
  change ((exported row >>= fun row => pure (some row) : Reading (Option Row)) between).2.hints = _
  rw [Reading.bind_apply]
  cases exported row between with
  | mk outcome after => cases outcome <;> rfl

/-- Fetching from a cursor without rows notes nothing. -/
theorem fetch_nil_hints (holds : cursor.Holds []) (closes : cursor.Closes) :
    (fetch cursor).2.hints = cursor.hints := by
  obtain ⟨after, passes, -⟩ := passed_nil holds closes
  have kept := passed_keepsHints cursor
  rw [passes] at kept
  unfold fetch
  rw [Reading.bind_apply, passes]
  exact kept

/-- Fetching rows notes the values of these rows, one row after the other. -/
theorem fetchMany_hints (exports : cursor.plan.exportHints = true) (holds : cursor.Holds rows)
    (closes : cursor.Closes) (count : Nat) :
    (fetchMany count cursor).2.hints = (rows.take count).foldl noteRow cursor.hints := by
  induction count generalizing cursor rows with
  | zero => rfl
  | succ count inductionHypothesis =>
    unfold fetchMany at inductionHypothesis ⊢
    rw [collected, Reading.bind_apply]
    cases rows with
    | nil =>
      obtain ⟨after, fetched, -⟩ := fetch_nil holds closes
      have kept := fetch_nil_hints holds closes
      rw [fetched] at kept ⊢
      exact kept
    | cons row rest =>
      obtain ⟨after, fetched, holdsRest, follows⟩ := fetch_cons holds
      have noted := fetch_cons_hints exports holds
      have others := inductionHypothesis (follows.plan ▸ exports : after.plan.exportHints = true)
        holdsRest (follows.closes closes)
      rw [fetched] at noted ⊢
      rw [List.take_succ_cons, List.foldl_cons, ← noted, ← others]
      dsimp only
      rw [Reading.bind_apply]
      cases collected fetch count after with
      | mk outcome last => cases outcome <;> rfl

/-- Fetching all rows notes the values of all of them. -/
theorem fetchAll_hints (exports : cursor.plan.exportHints = true) (holds : cursor.Holds rows)
    (closes : cursor.Closes) :
    (fetchAll cursor).2.hints = rows.foldl noteRow cursor.hints := by
  have known := fetchMany_hints exports holds closes (cursor.remaining + 1)
  rw [List.take_of_length_le (Nat.le_succ_of_le holds.length_le)] at known
  exact known

end Cursor

/-! ## Inserting what was exported -/

/-- The values that a driver binds for a plan, statement by statement. -/
def Plan.bound (plan : Plan) : Except Failure (List Value) :=
  (plan.statements.mapM fun (statement : Statement) =>
    statement.parameters.mapM boundValue).map List.flatten

/-- Lists that end well one by one end well together. -/
theorem mapM_flatten {α β : Type} (outcome : α → Except Failure β) (lists : List (List α)) :
    (lists.mapM (List.mapM outcome)).map List.flatten = lists.flatten.mapM outcome := by
  induction lists with
  | nil => rfl
  | cons first rest inductionHypothesis =>
    rw [List.mapM_cons, List.flatten_cons, List.mapM_append, ← inductionHypothesis]
    cases first.mapM outcome with
    | error failure => rfl
    | ok values => cases rest.mapM (List.mapM outcome) <;> rfl

/-- The values of a plan are bound one after the other. -/
theorem Plan.bound_eq (plan : Plan) : plan.bound = plan.parameters.mapM boundValue := by
  unfold bound parameters
  rw [List.flatMap_def, ← mapM_flatten, List.mapM_map]
  rfl

/-- A row as it is exported: buffers are fixed bytes. -/
def settledRow (row : Row) : Row := row.map fun (column, value) => (column, settled value)

/-- The entries of exported rows are the entries of the rows, with settled values. -/
theorem flatMap_settledRow {α : Type} (item : String × Value → α) (rows : List Row) :
    (rows.map settledRow).flatMap (List.map item) =
      rows.flatten.map fun entry => item (entry.1, settled entry.2) := by
  rw [List.map_flatten, List.flatMap_def, List.map_map]
  refine congrArg List.flatten (List.map_congr_left fun row _ => ?_)
  exact List.map_map

theorem lookup_of_mem {row : Row} (unique : (row.map Prod.fst).Nodup) {column : String}
    {value : Value} (member : (column, value) ∈ row) : row.lookup column = some value := by
  induction row with
  | nil => cases member
  | cons entry rest inductionHypothesis =>
    rw [List.map_cons, List.nodup_cons] at unique
    rcases List.mem_cons.mp member with rfl | later
    · exact List.lookup_cons_self
    · have within : column ∈ rest.map Prod.fst := List.mem_map_of_mem later
      have different : column ≠ entry.1 := fun same => unique.1 (same ▸ within)
      rw [List.lookup_cons, beq_false_of_ne different]
      exact inductionHypothesis unique.2 later

/-- Rows as a server answers them: there is one, and all of them have the same columns, at least one
and each of them once. -/
structure Tabular (columns : List String) (rows : List Row) : Prop where
  filled : rows ≠ []
  named : columns ≠ []
  unique : columns.Nodup
  same : ∀ row ∈ rows, row.map Prod.fst = columns

namespace Tabular

variable {columns : List String} {rows : List Row}

/-- Exporting rows leaves their columns. -/
theorem exported (tabular : Tabular columns rows) : Tabular columns (rows.map settledRow) where
  filled := fun nothing => tabular.filled (List.map_eq_nil_iff.mp nothing)
  named := tabular.named
  unique := tabular.unique
  same := by
    intro row member
    obtain ⟨before, within, rfl⟩ := List.mem_map.mp member
    rw [settledRow, List.map_map]
    exact tabular.same before within

/-- The hint of a column is the kind of its first value that is not null. -/
theorem lookup_hints (tabular : Tabular columns rows) {column : String} (within : column ∈ columns) :
    (rows.foldl noteRow []).lookup column = some (firstKind (valuesOf column rows)) := by
  have each : ∀ row ∈ rows, (row.map Prod.fst).Nodup ∧ column ∈ row.map Prod.fst := by
    intro row member
    rw [tabular.same row member]
    exact ⟨tabular.unique, within⟩
  have filled : valuesOf column rows ≠ [] := by
    obtain ⟨first, rest, rfl⟩ := List.exists_cons_of_ne_nil tabular.filled
    obtain ⟨value, held⟩ := exists_lookup (each first List.mem_cons_self).2
    rw [valuesOf_cons held]
    exact List.cons_ne_nil _ _
  rw [lookup_noteRows [] column each]
  exact foldl_noted filled

/-- Every entry of the rows stands in its column. -/
theorem mem_valuesOf (tabular : Tabular columns rows) {column : String} {value : Value} :
    value ∈ valuesOf column rows ↔ ∃ row ∈ rows, (column, value) ∈ row := by
  rw [valuesOf, List.mem_filterMap]
  refine exists_congr fun row => and_congr_right fun member => ?_
  constructor
  · intro held
    obtain ⟨before, after, rfl, -⟩ := List.lookup_eq_some_iff.mp held
    exact List.mem_append_right before List.mem_cons_self
  · refine lookup_of_mem ?_
    rw [tabular.same row member]
    exact tabular.unique

/-- Exported rows can be inserted with any kinds. -/
theorem unrefused (tabular : Tabular columns rows) (table : String)
    (kinds : List (String × ValueKind)) :
    Insert.refusal? { table, values := some (.rows rows), kinds } = none := by
  obtain ⟨first, rest, rfl⟩ := List.exists_cons_of_ne_nil tabular.filled
  obtain ⟨here, others⟩ := List.forall_mem_cons.mp tabular.same
  have alike : rest.all (fun row => row.map Prod.fst = first.map Prod.fst) = true := by
    rw [List.all_eq_true]
    intro row member
    exact decide_eq_true ((others row member).trans here.symm)
  have filled : (first.map Prod.fst).isEmpty = false := by
    rw [here]
    exact List.isEmpty_eq_false_iff.mpr tabular.named
  simp [Insert.refusal?, Insert.refusal?.manyFault?, Insert.valueColumns, Insert.rows, alike,
    filled, sharedNames]

/-- Exported rows compile to a plan that binds their values by the kinds. -/
theorem compiles (tabular : Tabular columns rows) (family : Family) (context : Context)
    {table : String} (quotable : ∃ quoted, family.dialect.quoted "table" table = .ok quoted)
    (quotableColumns : ∃ quoted, family.dialect.quotedAll columns = .ok quoted)
    (kinds : List (String × ValueKind)) :
    ∃ plan, (compilePlan family.dialect
        (.insert { table, values := some (.rows rows), kinds }) context).result = .ok plan ∧
      plan.parameters = rows.flatMap (rowParameters kinds) := by
  obtain ⟨name, named⟩ := quotable
  obtain ⟨names, namedAll⟩ := quotableColumns
  let insert : Insert := { table, values := some (.rows rows), kinds }
  have given : insert.valueColumns ++ insert.inline.map Prod.fst = columns := by
    obtain ⟨first, rest, rfl⟩ := List.exists_cons_of_ne_nil tabular.filled
    exact (List.append_nil _).trans (tabular.same first List.mem_cons_self)
  let written : WrittenPlan :=
    { lines := (insertBatches family.dialect insert).map (insertLine name names insert) }
  have writes : writtenInsert family.dialect insert = .ok written := by
    have allowed : argumentsAllowed .insert insert.args = .ok () := rfl
    have unchecked : (insert.inline.forM fun entry =>
        fragmentAllowed family.dialect entry.1 entry.2) = .ok () := rfl
    have none : insert.select = none := rfl
    unfold writtenInsert
    rw [allowed, named, none, unchecked, given, namedAll]
    rfl
  have ended := compilePlan_gives family.dialect context (.insert insert)
    (congrArg some writes : (Command.insert insert).written? family.dialect context.nested = _)
  refine ⟨_, ended.result_eq, ?_⟩
  change written.plan.parameters = _
  rw [written.parameters_plan]
  exact parameters_insertLines family name names insert

/-- The values of exported rows are bound as they are by the hints of their columns exactly when no
column is mixed. -/
theorem bound_iff (tabular : Tabular columns rows) {kinds : List (String × ValueKind)}
    (hinted : ∀ column ∈ columns, kinds.lookup column = some (firstKind (valuesOf column rows))) :
    ((rows.map settledRow).flatMap (rowParameters kinds)).mapM boundValue =
        .ok ((rows.map settledRow).flatMap (List.map Prod.snd)) ↔
      ∀ column ∈ columns, ¬Mixed (valuesOf column rows) := by
  have parameters : (rows.map settledRow).flatMap (rowParameters kinds) =
      rows.flatten.map fun entry => .infer (settled entry.2) (kinds.lookup entry.1) :=
    flatMap_settledRow _ rows
  have values : (rows.map settledRow).flatMap (List.map Prod.snd) =
      rows.flatten.map fun entry => settled entry.2 := flatMap_settledRow _ rows
  rw [parameters, values, Reporting.mapM_eq_ok, List.forall₂_map_left_iff,
    List.forall₂_map_right_iff, List.forall₂_same]
  constructor
  · intro each column within
    rw [← firstKind_suits]
    intro value member
    obtain ⟨row, belongs, held⟩ := tabular.mem_valuesOf.mp member
    have bound := each _ (List.mem_flatten_of_mem belongs held)
    rw [hinted column within] at bound
    exact (boundValue_infer _ value).mp bound
  · rintro unmixed ⟨column, value⟩ member
    obtain ⟨row, belongs, held⟩ := List.mem_flatten.mp member
    have within : column ∈ columns := tabular.same row belongs ▸ List.mem_map_of_mem held
    rw [hinted column within]
    exact (boundValue_infer _ value).mpr
      ((firstKind_suits _).mpr (unmixed column within) value
        (tabular.mem_valuesOf.mpr ⟨row, belongs, held⟩))

end Tabular

/-- Rows that were read to the end and exported with hints can be inserted again in every built-in
dialect. All their values are bound as they were exported exactly when no column begins with a
buffer and holds something else than buffers and nulls later.

Proof: reading the rows notes their values column by column, so the hint of a column is the kind of
its first value that is not null. The batches of the insert bind the entries of the rows one after
the other, each by the hint of its column. The null hint is noted where all values are null, and
the hint of a text leaves every value; only the hint of a buffer does not suit all values. -/
theorem exports_replayed (family : Family) (context : Context) {cursor : Cursor}
    {columns : List String} {rows : List Row} {table : String}
    (exportsRows : cursor.plan.exportRows = true) (exportsHints : cursor.plan.exportHints = true)
    (fresh : cursor.hints = []) (holds : cursor.Holds rows) (closes : cursor.Closes)
    (tabular : Tabular columns rows)
    (quotable : ∃ quoted, family.dialect.quoted "table" table = .ok quoted)
    (quotableColumns : ∃ quoted, family.dialect.quotedAll columns = .ok quoted) :
    ∃ after plan, Cursor.fetchAll cursor = (.ok (rows.map settledRow), after) ∧
      let insert : Insert :=
        { table, values := some (.rows (rows.map settledRow)), kinds := after.hints }
      insert.refusal? = none ∧
      (compilePlan family.dialect (.insert insert) context).result = .ok plan ∧
      (plan.bound = .ok ((rows.map settledRow).flatMap (List.map Prod.snd)) ↔
        ∀ column ∈ columns, ¬Mixed (valuesOf column rows)) := by
  have handed := Cursor.fetchAll_eq holds closes
  have hints := Cursor.fetchAll_hints exportsHints holds closes
  have exported : cursor.plan.exportedRow = settledRow := by
    funext row
    exact if_pos exportsRows
  rw [exported] at handed
  rw [fresh] at hints
  generalize Cursor.fetchAll cursor = read at handed hints
  obtain ⟨outcome, after⟩ := read
  obtain rfl : outcome = .ok (rows.map settledRow) := handed
  change after.hints = _ at hints
  obtain ⟨plan, compiled, parameters⟩ :=
    tabular.exported.compiles family context quotable quotableColumns after.hints
  refine ⟨after, plan, rfl, tabular.exported.unrefused table after.hints, compiled, ?_⟩
  rw [plan.bound_eq, parameters]
  refine tabular.bound_iff fun column within => ?_
  rw [hints]
  exact tabular.lookup_hints within

/-- A column that begins with a buffer and goes on with a number. -/
def mixedRows : List Row := [[("data", .binary .fixed [7])], [("data", .int 3)]]

/-- A cursor that exports a mixed column. -/
def mixedCursor : Cursor where
  plan := { exportRows := true, exportHints := true }
  result? := some { rows := mixedRows.map .ok, returnsRows := true }

/-- A number behind a buffer is bound as other bytes than it was exported. -/
theorem mixedRows_replayed : mixedCursor.Holds mixedRows ∧ Tabular ["data"] mixedRows ∧
    ∃ after plan, Cursor.fetchAll mixedCursor = (.ok mixedRows, after) ∧
    (compilePlan Family.sqlite.dialect (.insert
      { table := "notes", values := some (.rows mixedRows), kinds := after.hints })).result =
        .ok plan ∧
    plan.bound ≠ .ok [.binary .fixed [7], .int 3] := by
  have quotes : ∀ what name, (Family.sqlite.dialect.quoted what name).toOption.isSome = true →
      ∃ quoted, Family.sqlite.dialect.quoted what name = .ok quoted := by
    intro what name known
    obtain ⟨quoted, ended⟩ := Option.isSome_iff_exists.mp known
    exact ⟨quoted, Reporting.toOption_eq_some.mp ended⟩
  obtain ⟨name, named⟩ := quotes "table" "notes" (by decide +kernel)
  obtain ⟨column, columnNamed⟩ := quotes "identifier" "data" (by decide +kernel)
  have tabular : Tabular ["data"] mixedRows :=
    ⟨by decide, by decide, by decide, by simp [mixedRows]⟩
  have columns : Family.sqlite.dialect.quotedAll ["data"] = .ok [column] := by
    rw [Dialect.quotedAll, List.mapM_cons, columnNamed]
    rfl
  have holds : mixedCursor.Holds mixedRows := ⟨mixedRows, rfl, rfl⟩
  have closes : mixedCursor.Closes := by
    rintro _ ⟨⟩
    rfl
  obtain ⟨after, plan, fetched, -, compiled, bound⟩ := exports_replayed .sqlite {} rfl rfl rfl
    holds closes tabular ⟨name, named⟩ ⟨[column], columns⟩
  refine ⟨holds, tabular, after, plan, fetched, compiled, fun same => ?_⟩
  exact bound.mp same "data" List.mem_cons_self ⟨rfl, .int 3, .tail _ (.head _), rfl⟩

end PortableSql
