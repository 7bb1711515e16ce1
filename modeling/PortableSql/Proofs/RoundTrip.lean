import PortableSql.Proofs.Rereading
import PortableSql.Proofs.Restriction
import PortableSql.Proofs.Selection

/-!
# Commands survive being written

A command that was read and is written as a payload is read again with the same fields, however
loosely it was given at first. Only a select that lists no columns is not: it can be read from an
empty view of bytes, but is written with an empty list of columns, which is refused.
-/

namespace PortableSql

/-- Every select of a select lists some columns. -/
inductive Select.Listed : Select → Prop
  | of {select : Select} (columns : select.columns ≠ .names [])
      (nested : ∀ subquery ∈ select.subqueries, subquery.Listed) : Listed select

namespace Command

/-- Every select of a command lists some columns. -/
def Listed : Command → Prop
  | select command => command.Listed
  | insert command => ∀ select, command.select = some select → select.Listed
  | createTable command => ∀ select, command.select = some select → select.Listed
  | _ => True

/-- The command with other definitions of its columns. -/
def mapDefinitions (change : ColumnDefinition → ColumnDefinition) : Command → Command
  | addColumn command => .addColumn { command with definition := change command.definition }
  | createTable command => .createTable { command with
      columns := command.columns.map
        (List.map fun (name, definition) => (name, change definition)) }
  | command => command

/-- A command by the values of its fields. -/
def declared : Command → Command := mapDefinitions ColumnDefinition.declared

/-- A command as its payload tells it. -/
def settled : Command → Command := mapDefinitions ColumnDefinition.settled

theorem tag_settled (command : Command) : command.settled.tag = command.tag := by
  cases command <;> rfl

/-- What settles is not declared. -/
theorem declared_settled (command : Command) (args : List Value) :
    (command.settled.withArgs args).declared = (command.withArgs args).declared := by
  cases command with
  | addColumn command =>
    simp only [settled, declared, mapDefinitions, withArgs, ColumnDefinition.declared_settled]
  | createTable command =>
    simp [settled, declared, mapDefinitions, withArgs, Function.comp_def,
      ColumnDefinition.declared_settled]
  | _ => rfl

theorem withArgs_args (command : Command) : command.withArgs command.args = command := by
  cases command with
  | select command =>
    cases command
    rfl
  | _ => rfl

theorem withArgs_withArgs (command : Command) (first second : List Value) :
    (command.withArgs first).withArgs second = command.withArgs second := by
  cases command <;> rfl

/-- Whether selects list columns does not depend on arguments. -/
theorem listed_withArgs {command : Command} {args : List Value} :
    (command.withArgs args).Listed ↔ command.Listed := by
  cases command with
  | select command =>
    constructor
    · rintro ⟨columns, nested⟩
      exact .of columns nested
    · rintro ⟨columns, nested⟩
      exact .of columns nested
  | _ => exact Iff.rfl

end Command

namespace Payload

/-! ## Selects -/

theorem writeSelectClauses_eq (select : Select) : writeSelectClauses select =
    unlessUsual (select.columns = .text "*") "columns" (writeColumnList select.columns) ++
    switched "DISTINCT" select.distinct ++
    given "FROM" select.source .text ++
    given "WHERE" select.condition .text ++
    given "GROUP BY" select.grouping .text ++
    given "HAVING" select.having .text ++
    given "ORDER BY" select.ordering .text ++
    given "LIMIT" select.limit Limit.value ++
    unlessUsual select.subqueries.isEmpty "SUBQUERIES" (.list (writeSelects select.subqueries)) ++
    switched "EXPORT ROWS" select.exportRows ++
    switched "EXPORT HINTS" select.exportHints := by
  cases select
  rw [writeSelectClauses]

theorem writeSelects_eq (selects : List Select) :
    writeSelects selects = selects.map writeSelect := by
  induction selects with
  | nil => rw [writeSelects]; rfl
  | cons select rest inductionHypothesis =>
    rw [writeSelects, inductionHypothesis]
    rfl

@[simp] theorem nestedIn_append (entries others : Entries) :
    nestedIn (entries ++ others) = nestedIn entries ++ nestedIn others := by
  induction entries with
  | nil => simp [nestedIn]
  | cons entry rest inductionHypothesis =>
    obtain ⟨key, value⟩ := entry
    cases key with
    | text spelling =>
      simp only [List.cons_append, nestedIn, inductionHypothesis]
      split <;> rfl
    | _ => simp only [List.cons_append, nestedIn, inductionHypothesis]

/-- Keys of other fields give no subqueries. -/
theorem nestedIn_keyed {names : List String} {entries : Entries} (keyed : KeyedBy names entries)
    (others : ∀ name ∈ names, name ≠ "SUBQUERIES" ∧ name ≠ "subqueries") :
    nestedIn entries = [] := by
  induction entries with
  | nil => rw [nestedIn]
  | cons entry rest inductionHypothesis =>
    obtain ⟨⟨name, belongs, key⟩, tail⟩ := List.forall_mem_cons.mp keyed
    obtain ⟨_, value⟩ := entry
    cases key
    obtain ⟨keyword, field⟩ := others name belongs
    simp only [nestedIn, keyword, field, inductionHypothesis tail]
    rfl

section

variable {name : String} (keyword : name ≠ "SUBQUERIES") (field : name ≠ "subqueries")

include keyword field

theorem others_singleton : ∀ other ∈ [name], other ≠ "SUBQUERIES" ∧ other ≠ "subqueries" := by
  simp [keyword, field]

theorem nestedIn_given {α : Type} (value? : Option α) (write : α → Value) :
    nestedIn (given name value? write) = [] :=
  nestedIn_keyed (keyedBy_given (List.mem_singleton_self name) value? write)
    (others_singleton keyword field)

theorem nestedIn_unlessUsual (usual : Bool) (value : Value) :
    nestedIn (unlessUsual usual name value) = [] :=
  nestedIn_keyed (keyedBy_unlessUsual (List.mem_singleton_self name) usual value)
    (others_singleton keyword field)

theorem nestedIn_switched (on : Bool) : nestedIn (switched name on) = [] :=
  nestedIn_unlessUsual keyword field _ _

end

/-- A select as it is written with some arguments. -/
abbrev writtenSelect (args : List Value) (select : Select) : Entries :=
  argsEntry args ++ writeSelectClauses select

/-- The subqueries of a written select are its own. -/
theorem nestedIn_written (args : List Value) (select : Select) :
    nestedIn (writtenSelect args select) = if select.subqueries.isEmpty then []
      else [("SUBQUERIES", readSubqueries (.list (select.subqueries.map writeSelect)))] := by
  have own : nestedIn (unlessUsual select.subqueries.isEmpty "SUBQUERIES"
      (.list (writeSelects select.subqueries))) = if select.subqueries.isEmpty then []
      else [("SUBQUERIES", readSubqueries (.list (select.subqueries.map writeSelect)))] := by
    rw [writeSelects_eq]
    cases select.subqueries.isEmpty <;> simp [unlessUsual, entry, nestedIn]
  rw [writtenSelect, writeSelectClauses_eq, argsEntry]
  simp [own, nestedIn_given, nestedIn_unlessUsual, nestedIn_switched]

/-- The keys that selects are written with. -/
def selectKeywords : List String :=
  ["args", "columns", "DISTINCT", "FROM", "WHERE", "GROUP BY", "HAVING", "ORDER BY", "LIMIT",
    "SUBQUERIES", "EXPORT ROWS", "EXPORT HINTS"]

theorem keyedBy_writtenSelect (args : List Value) (select : Select) :
    KeyedBy selectKeywords (writtenSelect args select) := by
  rw [writtenSelect, writeSelectClauses_eq]
  simp [selectKeywords]

/-- Keys that merge nothing are not refused. -/
theorem collapsedIn?_keyed {names : List String} {entries : Entries} (keyed : KeyedBy names entries)
    (apart : ∀ name ∈ names, collapsedKeyword? name = none) (command : String) :
    collapsedIn? command entries = none := by
  induction entries with
  | nil => rfl
  | cons entry rest inductionHypothesis =>
    obtain ⟨⟨name, belongs, key⟩, tail⟩ := List.forall_mem_cons.mp keyed
    obtain ⟨_, value⟩ := entry
    cases key
    rw [collapsedIn?, apart name belongs]
    exact inductionHypothesis tail

theorem subqueryFault?_written (selects : List Select) :
    subqueryFault? (selects.map writeSelect) = none := by
  induction selects with
  | nil => rfl
  | cons select rest inductionHypothesis =>
    have apart : ∀ name ∈ selectKeywords, collapsedKeyword? name = none := by decide
    have free := collapsedIn?_keyed (keyedBy_writtenSelect select.args select) apart "subquery"
    rw [List.map_cons, writeSelect, subqueryFault?, free]
    exact inductionHypothesis

/-- A select that was read from some payload. -/
def ReadSelect (select : Select) : Prop :=
  ∃ entries args, readSelectFields entries args (nestedIn entries) = .accepted select

theorem readEntry_accepted {value : Value} {select : Select}
    (accepted : readEntry value = .accepted select) : ReadSelect select := by
  unfold readEntry at accepted
  split at accepted
  case h_4 => cases accepted
  all_goals exact ⟨_, _, accepted⟩

theorem readSelects_accepted {position : Nat} {values : List Value} {selects : List Select}
    (accepted : readSelects position values = .accepted selects) :
    ∀ select ∈ selects, ReadSelect select := by
  induction values generalizing position selects with
  | nil =>
    rw [readSelects] at accepted
    cases accepted
    exact List.forall_mem_nil _
  | cons value rest inductionHypothesis =>
    rw [readSelects] at accepted
    obtain ⟨⟨first, others⟩, both, rfl⟩ := Checked.map_accepted.mp accepted
    obtain ⟨head, tail⟩ := Checked.both_accepted.mp both
    exact List.forall_mem_cons.mpr
      ⟨readEntry_accepted (Checked.inside_accepted.mp head), inductionHypothesis tail⟩

/-- Subqueries that cannot be read at all are not accepted. -/
theorem subqueryFault?_rejected {values : List Value} {fault : Checked (List Select)}
    (found : subqueryFault? values = some fault) (selects : List Select) :
    fault ≠ .accepted selects := by
  induction values with
  | nil => cases found
  | cons value rest inductionHypothesis =>
    unfold subqueryFault? at found
    split at found
    case h_1 | h_2 | h_3 =>
      split at found
      · cases found
        exact fun wrong => nomatch wrong
      · exact inductionHypothesis found
    case h_4 | h_5 =>
      cases found
      exact fun wrong => nomatch wrong
    case h_6 => exact inductionHypothesis found

theorem readSubqueries_accepted {value : Value} {selects : List Select}
    (accepted : readSubqueries value = .accepted selects) :
    ∀ select ∈ selects, ReadSelect select := by
  have faultless : ∀ {values : List Value} {reads : Checked (List Select)},
      (subqueryFault? values).getD reads = .accepted selects → reads = .accepted selects := by
    intro values reads accepted
    cases found : subqueryFault? values with
    | none =>
      rw [found] at accepted
      exact accepted
    | some fault =>
      rw [found] at accepted
      exact absurd accepted (subqueryFault?_rejected found selects)
  unfold readSubqueries at accepted
  split at accepted
  case h_1 => exact readSelects_accepted (faultless accepted)
  case h_2 => exact readSelects_accepted (faultless accepted)
  case h_3 =>
    split at accepted
    case h_1 => cases accepted
    case h_2 =>
      intro select member
      obtain ⟨value, wrong⟩ := Checked.items_accepted (faultless accepted) select member
      cases wrong

theorem lookup_nestedIn {key : String} {entries : Entries} {found : Checked (List Select)}
    (known : (nestedIn entries).lookup key = some found) :
    ∃ value, found = readSubqueries value := by
  induction entries with
  | nil =>
    rw [nestedIn] at known
    cases known
  | cons entry rest inductionHypothesis =>
    obtain ⟨name, value⟩ := entry
    unfold nestedIn at known
    split at known
    case h_1 =>
      split at known
      · rw [List.lookup_cons] at known
        split at known
        · exact ⟨value, (Option.some.inj known).symm⟩
        · exact inductionHypothesis known
      · exact inductionHypothesis known
    case h_2 => exact inductionHypothesis known

theorem nestedOf_accepted {entries : Entries} {selects : List Select}
    (accepted : nestedOf (nestedIn entries) = .accepted selects) :
    ∀ select ∈ selects, ReadSelect select := by
  unfold nestedOf at accepted
  split at accepted
  case h_1 found _ known =>
    obtain ⟨value, rfl⟩ := lookup_nestedIn known
    exact readSubqueries_accepted (Checked.inside_accepted.mp accepted)
  case h_2 found _ known =>
    obtain ⟨value, rfl⟩ := lookup_nestedIn known
    exact readSubqueries_accepted (Checked.inside_accepted.mp accepted)
  case h_3 =>
    cases accepted
    exact List.forall_mem_nil _

/-- Subqueries that are read again one by one are read again. -/
theorem readSelects_written {selects : List Select} (position : Nat)
    (each : ∀ select ∈ selects, readEntry (writeSelect select) = .accepted select) :
    readSelects position (selects.map writeSelect) = .accepted selects := by
  induction selects generalizing position with
  | nil => rw [List.map_nil, readSelects]
  | cons select rest inductionHypothesis =>
    obtain ⟨head, tail⟩ := List.forall_mem_cons.mp each
    rw [List.map_cons, readSelects]
    exact Checked.map_accepted.mpr ⟨(_, _), Checked.both_accepted.mpr
      ⟨Checked.inside_accepted.mpr head, inductionHypothesis (position + 1) tail⟩, rfl⟩

/-- The subqueries of a written select are read again when each of them is. -/
theorem nestedOf_written {selects : List Select}
    (each : ∀ select ∈ selects, readEntry (writeSelect select) = .accepted select) :
    nestedOf (if selects.isEmpty then []
      else [("SUBQUERIES", readSubqueries (.list (selects.map writeSelect)))]) =
        .accepted selects := by
  cases selects with
  | nil => rfl
  | cons select rest =>
    have reads : readSubqueries (.list ((select :: rest).map writeSelect)) =
        .accepted (select :: rest) := by
      rw [readSubqueries, subqueryFault?_written]
      exact readSelects_written 0 each
    exact Checked.inside_accepted.mpr reads

/-- The tag and the arguments of a command that is written. -/
theorem heading_written {α : Type} {tag : Tag} {args : List Value} {make : List Value → α}
    {clauses : Entries} (untagged : valueOf? "command_type" clauses = none)
    (bare : valueOf? "args" clauses = none) :
    ((fun (_ : Unit) => make) <$> repeatedTag tag (argsEntry args ++ clauses) <*>
      readArgs (argsEntry args ++ clauses) none) = .accepted (make args) := by
  have missing : Key.Found { name := "command_type" } (argsEntry args ++ clauses) none :=
    (by simp [untagged])
  have found : Key.Found { name := "args" } (argsEntry args ++ clauses)
      (if args.isEmpty then none else some (.list args)) := (by simp [bare])
  refine Checked.seq_of (Checked.map_of (optional_missing missing)) ?_
  refine optional_unlessUsual found (fun empty => ?_) fun _ => readValues_written args
  exact (List.isEmpty_iff.mp empty).symm

/-- A select that was read is read again, with any arguments. -/
theorem readSelectFields_written {select : Select} (read : ReadSelect select)
    (listed : select.Listed) (args : List Value) :
    readSelectFields (writtenSelect args select) none (nestedIn (writtenSelect args select)) =
      .accepted { select with args } := by
  -- On the select: its subqueries were read, so they are read again by the hypothesis.
  induction select using Select.induction generalizing args with
  | step select inductionHypothesis =>
  obtain ⟨listedColumns, nested⟩ := listed
  obtain ⟨entries, given, accepted⟩ := read
  obtain ⟨fields, -⟩ := modelOf_accepted accepted
  simp only [Checked.seq_accepted] at fields
  obtain ⟨_, _, ⟨_, _, ⟨_, _, ⟨_, _, ⟨_, _, ⟨_, _, ⟨_, _, ⟨_, _, ⟨_, _, ⟨_, _, ⟨_, _, ⟨_, _, toTag,
    _, rfl⟩, columns, rfl⟩, distinct, rfl⟩, source, rfl⟩, condition, rfl⟩, grouping, rfl⟩, having_,
    rfl⟩, ordering, rfl⟩, limit, rfl⟩, subqueries, rfl⟩, exportRows, rfl⟩, exportHints, rfl⟩ :=
    fields
  obtain ⟨_, -, rfl⟩ := Checked.map_accepted.mp toTag
  have sources := rereads_nullable rereads_fullText fun _ => nofun
  have clauses := rereads_nullable rereads_text fun _ => nofun
  rw [nestedIn_written]
  rw [writtenSelect, writeSelectClauses_eq, readSelectFields]
  refine modelOf_of (Checked.seq_of (Checked.seq_of (Checked.seq_of (Checked.seq_of (Checked.seq_of
    (Checked.seq_of (Checked.seq_of (Checked.seq_of (Checked.seq_of (Checked.seq_of (Checked.seq_of
    (heading_written (by simp) (by simp)) ?columns) ?distinct) ?source) ?condition) ?grouping)
    ?having) ?ordering) ?limit) ?subqueries) ?exportRows) ?exportHints)
    (by simp [selectKeys, commonKeys]) rfl
  case columns =>
    exact optional_unlessUsual (by simp) (fun same => Eq.symm (of_decide_eq_true same))
      fun _ => readColumnList_written listedColumns
  case source => exact optional_rereads sources source (by simp)
  case condition => exact optional_rereads clauses condition (by simp)
  case grouping => exact optional_joined (by simp)
  case having => exact optional_rereads clauses having_ (by simp)
  case ordering => exact optional_joined (by simp)
  case limit => exact optional_rereads rereads_limit limit (by simp)
  case subqueries =>
    refine nestedOf_written fun subquery member => ?_
    have again := inductionHypothesis subquery member
      (nestedOf_accepted subqueries subquery member) (nested subquery member) subquery.args
    rw [writeSelect, readEntry, again]
    cases subquery
    rfl
  all_goals exact optional_switched (by simp)

/-- Subqueries that are read again are read one by one. -/
theorem readSelects_each {selects others : List Select} {position : Nat}
    (accepted : readSelects position (selects.map writeSelect) = .accepted others) :
    ∀ select ∈ selects, ∃ other, readEntry (writeSelect select) = .accepted other := by
  induction selects generalizing position others with
  | nil => exact List.forall_mem_nil _
  | cons select rest inductionHypothesis =>
    rw [List.map_cons, readSelects] at accepted
    obtain ⟨⟨first, _⟩, both, rfl⟩ := Checked.map_accepted.mp accepted
    obtain ⟨head, tail⟩ := Checked.both_accepted.mp both
    exact List.forall_mem_cons.mpr
      ⟨⟨first, Checked.inside_accepted.mp head⟩, inductionHypothesis tail⟩

/-- Only a select that lists columns everywhere is read again. -/
theorem listed_of_readSelectFields {select other : Select} {args : List Value}
    (accepted : readSelectFields (writtenSelect args select) none
      (nestedIn (writtenSelect args select)) = .accepted other) : select.Listed := by
  induction select using Select.induction generalizing args other with
  | step select inductionHypothesis =>
  obtain ⟨fields, -⟩ := modelOf_accepted accepted
  simp only [Checked.seq_accepted] at fields
  obtain ⟨_, _, ⟨_, _, ⟨_, _, ⟨_, _, ⟨_, _, ⟨_, _, ⟨_, _, ⟨_, _, ⟨_, _, ⟨_, _, ⟨_, _, -, columns,
    -⟩, -⟩, -⟩, -⟩, -⟩, -⟩, -⟩, -⟩, subqueries, -⟩, -⟩, -⟩ := fields
  refine .of ?_ fun subquery member => ?_
  · intro unlisted
    have found : Key.Found { name := "columns" } (writtenSelect args select) (some (texts [])) := by
      rw [writtenSelect, writeSelectClauses_eq, unlisted]
      exact (by simp [writeColumnList])
    rw [optional, found.locate] at columns
    cases columns
  · rw [nestedIn_written, if_neg] at subqueries
    · have known := Checked.inside_accepted.mp subqueries
      rw [readSubqueries, subqueryFault?_written] at known
      obtain ⟨_, again⟩ := readSelects_each known subquery member
      rw [writeSelect, readEntry] at again
      exact inductionHypothesis subquery member again
    · intro empty
      rw [List.isEmpty_iff.mp empty] at member
      cases member

theorem readSelect_written {value : Value} {select : Select}
    (accepted : readSelect value = .accepted select) (listed : select.Listed) :
    readSelect (writeSelect select) = .accepted select := by
  unfold readSelect at accepted
  split at accepted
  case h_1 entries =>
    have again := readSelectFields_written ⟨entries, none, accepted⟩ listed select.args
    rw [writeSelect, readSelect, again]
    cases select
    rfl
  case h_2 => cases accepted

/-- A select in a command, if there is one, is read again. -/
theorem select_reads {entries : Entries} {key : Key} {select? : Option Select}
    (accepted : optional entries key none (nullable readSelect) = .accepted select?)
    (listed : ∀ select, select? = some select → select.Listed) :
    ∀ select, select? = some select →
      nullable readSelect (writeSelect select) = .accepted (some select) := by
  rintro select rfl
  obtain ⟨value, read⟩ := optional_nullable accepted
  exact Checked.map_accepted.mpr ⟨select, readSelect_written read (listed select rfl), rfl⟩

/-! ## Commands -/

@[simp] theorem nameKey_name (name : String) : (nameKey name).name = name := rfl

@[simp] theorem nameKey_keyword (name : String) : (nameKey name).keyword = name := rfl

theorem rereads_insertValues : Rereads readInsertValues writeInsertValues := by
  have rows := rereads_columns rereads_any
  intro value values accepted
  unfold readInsertValues at accepted
  split at accepted
  case h_1 row _ known =>
    cases accepted
    have again := rows _ _ known
    rw [writeInsertValues, readInsertValues, writeRow, again]
    rfl
  case h_2 many known _ =>
    cases accepted
    have again : readList (readDictionary readAny) (.list (many.map writeRow)) = .accepted many :=
      rereads_list rows _ _ known
    rw [writeInsertValues, readInsertValues, again]
    rfl
  case h_3 noRow _ =>
    split at accepted
    case h_1 => cases accepted
    case h_2 => cases accepted
    case h_3 both =>
      exact absurd (Checked.inside_accepted.mp (Checked.both_accepted.mp both).1) (noRow _)

theorem readInsert_written {entries : Entries} {insert : Insert}
    (accepted : readInsert entries = .accepted insert)
    (listed : ∀ select, insert.select = some select → select.Listed) (args : List Value) :
    readInsert (argsEntry args ++ writeClauses (.insert insert)) =
      .accepted { insert with args } := by
  have unrefused := modelOf_unrefused accepted
  obtain ⟨fields, -⟩ := modelOf_accepted accepted
  simp only [Checked.seq_accepted] at fields
  obtain ⟨_, _, ⟨_, _, ⟨_, _, ⟨_, _, ⟨_, _, ⟨_, _, ⟨_, _, ⟨_, _, toTag, _, rfl⟩, table, rfl⟩,
    values, rfl⟩, inline, rfl⟩, autoIncrement, rfl⟩, kinds, rfl⟩, columns, rfl⟩, select, rfl⟩ :=
    fields
  obtain ⟨_, -, rfl⟩ := Checked.map_accepted.mp toTag
  have rows := rereads_nullable rereads_insertValues fun values => by cases values <;> nofun
  have names := rereads_nullable rereads_text fun _ => nofun
  have lists := rereads_nullable rereads_texts fun _ => nofun
  rw [writeClauses, readInsert]
  refine modelOf_of (Checked.seq_of (Checked.seq_of (Checked.seq_of (Checked.seq_of (Checked.seq_of
    (Checked.seq_of (Checked.seq_of (heading_written (by simp) (by simp)) ?table) ?values) ?inline)
    ?autoIncrement) ?kinds) ?columns) ?select) (by simp [commonKeys]) unrefused
  case table => exact required_rereads rereads_fullText table (by simp)
  case values =>
    exact optional_rereads rows values (by simp)
  case inline =>
    exact optional_unlessEmpty (rereads_columns rereads_text) inline
      (by simp)
  case autoIncrement => exact optional_rereads names autoIncrement (by simp)
  case kinds =>
    exact optional_unlessEmpty (rereads_columns rereads_kind) kinds
      (by simp)
  case columns =>
    exact optional_rereads lists columns (by simp)
  case select =>
    exact optional_given (by simp) (select_reads select listed)

section Restrictions

variable {entries written : Entries}

theorem readCondition_written {condition : Option String}
    (accepted : readCondition entries = .accepted condition)
    (found : Key.Found { name := "where_clause", keyword := "WHERE" } written
      (condition.map .text)) : readCondition written = .accepted condition :=
  optional_rereads (rereads_nullable rereads_text fun _ => nofun) accepted found

theorem readOrdering_written {ordering : Option String}
    (found : Key.Found { name := "order_by", keyword := "ORDER BY" } written
      (ordering.map .text)) : readOrdering written = .accepted ordering :=
  optional_joined found

theorem readRowLimit_written {limit : Option Limit}
    (accepted : readRowLimit entries = .accepted limit)
    (found : Key.Found { name := "limit", keyword := "LIMIT" } written
      (limit.map Limit.value)) : readRowLimit written = .accepted limit :=
  optional_rereads rereads_limit accepted found

end Restrictions

section

variable {entries : Entries}

theorem readUpdate_written {update : Update} (accepted : readUpdate entries = .accepted update)
    (args : List Value) :
    readUpdate (argsEntry args ++ writeClauses (.update update)) =
      .accepted { update with args } := by
  have unrefused := modelOf_unrefused accepted
  obtain ⟨fields, -⟩ := modelOf_accepted accepted
  simp only [Checked.seq_accepted] at fields
  obtain ⟨_, _, ⟨_, _, ⟨_, _, ⟨_, _, ⟨_, _, ⟨_, _, ⟨_, _, toTag, _, rfl⟩, table, rfl⟩, values, rfl⟩,
    inline, rfl⟩, condition, rfl⟩, ordering, rfl⟩, limit, rfl⟩ := fields
  obtain ⟨_, -, rfl⟩ := Checked.map_accepted.mp toTag
  rw [writeClauses, readUpdate]
  refine modelOf_of (Checked.seq_of (Checked.seq_of (Checked.seq_of (Checked.seq_of (Checked.seq_of
    (Checked.seq_of (heading_written (by simp) (by simp)) ?table) ?values) ?inline) ?condition)
    ?ordering) ?limit) (by simp [commonKeys, restrictionKeys]) unrefused
  case table => exact required_rereads rereads_fullText table (by simp)
  case values =>
    exact optional_unlessEmpty (rereads_columns rereads_any) values
      (by simp [writeRow])
  case inline =>
    exact optional_unlessEmpty (rereads_columns rereads_text) inline
      (by simp)
  case condition => exact readCondition_written condition (by simp)
  case ordering => exact readOrdering_written (by simp)
  case limit => exact readRowLimit_written limit (by simp)

theorem readDelete_written {delete : Delete} (accepted : readDelete entries = .accepted delete)
    (args : List Value) :
    readDelete (argsEntry args ++ writeClauses (.delete delete)) =
      .accepted { delete with args } := by
  obtain ⟨fields, -⟩ := modelOf_accepted accepted
  simp only [Checked.seq_accepted] at fields
  obtain ⟨_, _, ⟨_, _, ⟨_, _, ⟨_, _, ⟨_, _, toTag, _, rfl⟩, table, rfl⟩, condition, rfl⟩, ordering,
    rfl⟩, limit, rfl⟩ := fields
  obtain ⟨_, -, rfl⟩ := Checked.map_accepted.mp toTag
  rw [writeClauses, readDelete]
  refine modelOf_of (Checked.seq_of (Checked.seq_of (Checked.seq_of (Checked.seq_of
    (heading_written (by simp) (by simp)) ?table) ?condition) ?ordering) ?limit)
    (by simp [commonKeys, restrictionKeys]) rfl
  case table => exact required_rereads rereads_fullText table (by simp)
  case condition => exact readCondition_written condition (by simp)
  case ordering => exact readOrdering_written (by simp)
  case limit => exact readRowLimit_written limit (by simp)

theorem readTables_accepted {tables : List String}
    (accepted : readTables entries = .accepted tables) {written : Entries}
    (found : (nameKey "tables").Found written (some (texts tables))) :
    readTables written = .accepted tables :=
  required_rereads rereads_fullTexts accepted found

theorem readTruncateTable_written {command : TruncateTable}
    (accepted : readTruncateTable entries = .accepted command) (args : List Value) :
    readTruncateTable (argsEntry args ++ writeClauses (.truncateTable command)) =
      .accepted { command with args } := by
  obtain ⟨fields, -⟩ := modelOf_accepted accepted
  simp only [Checked.seq_accepted] at fields
  obtain ⟨_, _, ⟨_, _, toTag, _, rfl⟩, tables, rfl⟩ := fields
  obtain ⟨_, -, rfl⟩ := Checked.map_accepted.mp toTag
  rw [writeClauses, readTruncateTable]
  refine modelOf_of (Checked.seq_of (heading_written (by simp) (by simp)) ?tables)
    (by simp [commonKeys]) rfl
  case tables => exact readTables_accepted tables (by simp)

theorem readDropTable_written {command : DropTable}
    (accepted : readDropTable entries = .accepted command) (args : List Value) :
    readDropTable (argsEntry args ++ writeClauses (.dropTable command)) =
      .accepted { command with args } := by
  obtain ⟨fields, -⟩ := modelOf_accepted accepted
  simp only [Checked.seq_accepted] at fields
  obtain ⟨_, _, ⟨_, _, ⟨_, _, ⟨_, _, toTag, _, rfl⟩, tables, rfl⟩, ifExists, rfl⟩, temporary, rfl⟩
    := fields
  obtain ⟨_, -, rfl⟩ := Checked.map_accepted.mp toTag
  rw [writeClauses, readDropTable]
  refine modelOf_of (Checked.seq_of (Checked.seq_of (Checked.seq_of
    (heading_written (by simp) (by simp)) ?tables) ?ifExists) ?temporary)
    (by simp [commonKeys]) rfl
  case tables => exact readTables_accepted tables (by simp)
  case ifExists => exact optional_switched (by simp)
  case temporary => exact optional_switched (by simp)

theorem readCreateDatabase_written {command : CreateDatabase}
    (accepted : readCreateDatabase entries = .accepted command) (args : List Value) :
    readCreateDatabase (argsEntry args ++ writeClauses (.createDatabase command)) =
      .accepted { command with args } := by
  obtain ⟨fields, -⟩ := modelOf_accepted accepted
  simp only [Checked.seq_accepted] at fields
  obtain ⟨_, _, ⟨_, _, ⟨_, _, ⟨_, _, toTag, _, rfl⟩, name, rfl⟩, characterSet, rfl⟩, collate, rfl⟩
    := fields
  obtain ⟨_, -, rfl⟩ := Checked.map_accepted.mp toTag
  rw [writeClauses, readCreateDatabase]
  refine modelOf_of (Checked.seq_of (Checked.seq_of (Checked.seq_of
    (heading_written (by simp) (by simp)) ?name) ?characterSet) ?collate)
    (by simp [commonKeys, charsetKeys]) rfl
  case name => exact required_rereads rereads_fullText name (by simp)
  case characterSet => exact readCharset_written characterSet (by simp)
  case collate => exact readCharset_written collate (by simp)

theorem readDropDatabase_written {command : DropDatabase}
    (accepted : readDropDatabase entries = .accepted command) (args : List Value) :
    readDropDatabase (argsEntry args ++ writeClauses (.dropDatabase command)) =
      .accepted { command with args } := by
  obtain ⟨fields, -⟩ := modelOf_accepted accepted
  simp only [Checked.seq_accepted] at fields
  obtain ⟨_, _, ⟨_, _, ⟨_, _, toTag, _, rfl⟩, name, rfl⟩, ifExists, rfl⟩ := fields
  obtain ⟨_, -, rfl⟩ := Checked.map_accepted.mp toTag
  rw [writeClauses, readDropDatabase]
  refine modelOf_of (Checked.seq_of (Checked.seq_of (heading_written (by simp) (by simp)) ?name)
    ?ifExists) (by simp [commonKeys]) rfl
  case name => exact required_rereads rereads_fullText name (by simp)
  case ifExists => exact optional_switched (by simp)

/-- Commands of one name are read again. -/
theorem readNamed_written {α : Type} {tag : Tag} {name : String} {make : List Value → String → α}
    {command : α} (apart : name ≠ "command_type" ∧ name ≠ "args")
    (accepted : modelOf (commonKeys ++ [nameKey name]) entries
      ((fun (_ : Unit) => make) <$> repeatedTag tag entries <*> readArgs entries none <*>
        required entries (nameKey name) readFullText) = .accepted command) :
    ∃ given text, make given text = command ∧ ∀ args,
      let written := argsEntry args ++ entry name (.text text)
      modelOf (commonKeys ++ [nameKey name]) written
        ((fun (_ : Unit) => make) <$> repeatedTag tag written <*> readArgs written none <*>
          required written (nameKey name) readFullText) = .accepted (make args text) := by
  obtain ⟨fields, -⟩ := modelOf_accepted accepted
  simp only [Checked.seq_accepted] at fields
  obtain ⟨_, _, ⟨_, _, toTag, _, rfl⟩, text, rfl⟩ := fields
  obtain ⟨_, -, rfl⟩ := Checked.map_accepted.mp toTag
  refine ⟨_, _, rfl, fun args => ?_⟩
  refine modelOf_of (Checked.seq_of (heading_written ?untagged ?bare) ?text)
    (by simp [commonKeys]) rfl
  case untagged => simp [apart.1]
  case bare => simp [apart.2]
  case text => exact required_rereads rereads_fullText text (by simp [apart.2.symm])

/-- Commands of a name in a table are read again. -/
theorem readPair_written {α : Type} {tag : Tag} {make : List Value → String → String → α}
    {command : α}
    (accepted : modelOf (commonKeys ++ [nameKey "table", nameKey "name"]) entries
      ((fun (_ : Unit) => make) <$> repeatedTag tag entries <*> readArgs entries none <*>
        required entries (nameKey "table") readFullText <*>
        required entries (nameKey "name") readFullText) = .accepted command) :
    ∃ given table name, make given table name = command ∧ ∀ args,
      let written := argsEntry args ++ (entry "table" (.text table) ++ entry "name" (.text name))
      modelOf (commonKeys ++ [nameKey "table", nameKey "name"]) written
        ((fun (_ : Unit) => make) <$> repeatedTag tag written <*> readArgs written none <*>
          required written (nameKey "table") readFullText <*>
          required written (nameKey "name") readFullText) = .accepted (make args table name) := by
  obtain ⟨fields, -⟩ := modelOf_accepted accepted
  simp only [Checked.seq_accepted] at fields
  obtain ⟨_, _, ⟨_, _, ⟨_, _, toTag, _, rfl⟩, table, rfl⟩, name, rfl⟩ := fields
  obtain ⟨_, -, rfl⟩ := Checked.map_accepted.mp toTag
  refine ⟨_, _, _, rfl, fun args => ?_⟩
  refine modelOf_of (Checked.seq_of (Checked.seq_of (heading_written (by simp) (by simp)) ?table)
    ?name) (by simp [commonKeys]) rfl
  case table => exact required_rereads rereads_fullText table (by simp)
  case name => exact required_rereads rereads_fullText name (by simp)

/-- Names of columns with their definitions, as their payload tells them. -/
def settledColumns : List (String × ColumnDefinition) → List (String × ColumnDefinition) :=
  List.map fun (name, definition) => (name, definition.settled)

theorem names_settledColumns (columns : List (String × ColumnDefinition)) :
    (settledColumns columns).map Prod.fst = columns.map Prod.fst := by
  rw [settledColumns, List.map_map]
  rfl

/-- The columns of a table, if there are any, are read again. -/
theorem columns_reads {key : Key} {columns? : Option (List (String × ColumnDefinition))}
    (accepted : optional entries key none (nullable (readDictionary readColumn)) =
      .accepted columns?) :
    ∀ columns, columns? = some columns → nullable (readDictionary readColumn)
      (columnsOf writeColumn columns) = .accepted (some (settledColumns columns)) := by
  rintro columns rfl
  obtain ⟨value, read⟩ := optional_nullable accepted
  exact Checked.map_accepted.mpr ⟨_, rereads_dictionary rereads_column value columns read, rfl⟩

/-- Whether the creation of a table is refused does not depend on defaults. -/
theorem refusal?_settledColumns (creation : CreateTable) :
    CreateTable.refusal? { creation with columns := creation.columns.map settledColumns } =
      creation.refusal? := by
  unfold CreateTable.refusal?
  cases creation.columns with
  | none => rfl
  | some columns =>
    simp only [Option.map_some, names_settledColumns]
    cases columns <;> rfl

theorem readCreateTable_written {command : CreateTable}
    (accepted : readCreateTable entries = .accepted command)
    (listed : ∀ select, command.select = some select → select.Listed) (args : List Value) :
    readCreateTable (argsEntry args ++ writeClauses (.createTable command)) =
      .accepted { command with args, columns := command.columns.map settledColumns } := by
  have unrefused := (refusal?_settledColumns command).trans (modelOf_unrefused accepted)
  obtain ⟨fields, -⟩ := modelOf_accepted accepted
  simp only [Checked.seq_accepted] at fields
  obtain ⟨_, _, ⟨_, _, ⟨_, _, ⟨_, _, ⟨_, _, ⟨_, _, ⟨_, _, ⟨_, _, toTag, _, rfl⟩, name, rfl⟩,
    columns, rfl⟩, keys, rfl⟩, select, rfl⟩, temporary, rfl⟩, characterSet, rfl⟩, collate, rfl⟩ :=
    fields
  obtain ⟨_, -, rfl⟩ := Checked.map_accepted.mp toTag
  rw [writeClauses, readCreateTable]
  refine modelOf_of (Checked.seq_of (Checked.seq_of (Checked.seq_of (Checked.seq_of (Checked.seq_of
    (Checked.seq_of (Checked.seq_of (heading_written (by simp) (by simp)) ?name) ?columns) ?keys)
    ?select) ?temporary) ?characterSet) ?collate) (by simp [commonKeys, charsetKeys])
    unrefused
  case name => exact required_rereads rereads_fullText name (by simp)
  case columns => exact optional_settled (by simp) (columns_reads columns)
  case keys =>
    exact optional_unlessEmpty (rereads_list rereads_key) keys
      (by simp)
  case select =>
    exact optional_given (by simp) (select_reads select listed)
  case temporary => exact optional_switched (by simp)
  case characterSet => exact readCharset_written characterSet (by simp)
  case collate => exact readCharset_written collate (by simp)

theorem readAddIndex_written {command : AddIndex}
    (accepted : readAddIndex entries = .accepted command) (args : List Value) :
    readAddIndex (argsEntry args ++ writeClauses (.addIndex command)) =
      .accepted { command with args } := by
  obtain ⟨fields, -⟩ := modelOf_accepted accepted
  simp only [Checked.seq_accepted] at fields
  obtain ⟨_, _, ⟨_, _, ⟨_, _, toTag, _, rfl⟩, table, rfl⟩, key, rfl⟩ := fields
  obtain ⟨_, -, rfl⟩ := Checked.map_accepted.mp toTag
  rw [writeClauses, readAddIndex]
  refine modelOf_of (Checked.seq_of (Checked.seq_of (heading_written (by simp) (by simp)) ?table)
    ?key) (by simp [commonKeys]) rfl
  case table => exact required_rereads rereads_fullText table (by simp)
  case key => exact required_rereads rereads_key key (by simp)

theorem readAddColumn_written {command : AddColumn}
    (accepted : readAddColumn entries = .accepted command) (args : List Value) :
    readAddColumn (argsEntry args ++ writeClauses (.addColumn command)) =
      .accepted { command with args, definition := command.definition.settled } := by
  have unrefused := modelOf_unrefused accepted
  obtain ⟨fields, -⟩ := modelOf_accepted accepted
  simp only [Checked.seq_accepted] at fields
  obtain ⟨_, _, ⟨_, _, ⟨_, _, ⟨_, _, ⟨_, _, ⟨_, _, toTag, _, rfl⟩, table, rfl⟩, name, rfl⟩,
    definition, rfl⟩, first, rfl⟩, after, rfl⟩ := fields
  obtain ⟨_, -, rfl⟩ := Checked.map_accepted.mp toTag
  have names := rereads_nullable rereads_fullText fun _ => nofun
  rw [writeClauses, readAddColumn]
  refine modelOf_of (Checked.seq_of (Checked.seq_of (Checked.seq_of (Checked.seq_of (Checked.seq_of
    (heading_written (by simp) (by simp)) ?table) ?name) ?definition) ?first) ?after)
    (by simp [commonKeys]) unrefused
  case table => exact required_rereads rereads_fullText table (by simp)
  case name => exact required_rereads rereads_fullText name (by simp)
  case definition =>
    exact required_rereads rereads_column definition (by simp)
  case first => exact optional_switched (by simp)
  case after => exact optional_rereads names after (by simp)

theorem readShowDatabases_written {command : ShowDatabases}
    (args : List Value) :
    readShowDatabases (argsEntry args ++ writeClauses (.showDatabases command)) =
      .accepted { command with args } := by
  rw [writeClauses, readShowDatabases]
  exact modelOf_of (heading_written rfl rfl) (by simp [commonKeys]) rfl

theorem readShowTables_written {command : ShowTables} (args : List Value) :
    readShowTables (argsEntry args ++ writeClauses (.showTables command)) =
      .accepted { command with args } := by
  rw [writeClauses, readShowTables]
  refine modelOf_of (Checked.seq_of (heading_written (by simp) (by simp)) ?full)
    (by simp [commonKeys]) rfl
  case full => exact optional_switched (by simp)

theorem readBulkImportMode_written {command : BulkImportMode} (args : List Value) :
    readBulkImportMode (argsEntry args ++ writeClauses (.bulkImportMode command)) =
      .accepted { command with args } := by
  rw [writeClauses, readBulkImportMode]
  refine modelOf_of (Checked.seq_of (heading_written (by simp) (by simp)) ?enabled)
    (by simp [commonKeys]) rfl
  case enabled =>
    have reads : command.enabled = false →
        readBool (.bool command.enabled) = .accepted command.enabled := fun _ => rfl
    exact optional_unlessUsual (by simp) Eq.symm reads

/-- The command that a tag selects has that tag. -/
theorem readCommand_tag {tag : Tag} {command : Command}
    (accepted : readCommand tag entries = .accepted command) : command.tag = tag := by
  cases tag
  all_goals
    obtain ⟨_, -, rfl⟩ := Checked.map_accepted.mp accepted
    rfl

/-- A command that was read is read again, with any arguments. -/
theorem readCommand_written {command : Command}
    (accepted : readCommand command.tag entries = .accepted command) (listed : command.Listed)
    (args : List Value) :
    readCommand command.tag (argsEntry args ++ writeClauses command) =
      .accepted (command.settled.withArgs args) := by
  cases command with
  | select command =>
    obtain ⟨_, read, ⟨⟩⟩ := Checked.map_accepted.mp accepted
    exact Checked.map_accepted.mpr
      ⟨_, readSelectFields_written ⟨entries, none, read⟩ listed args, rfl⟩
  | insert command =>
    obtain ⟨_, read, ⟨⟩⟩ := Checked.map_accepted.mp accepted
    exact Checked.map_accepted.mpr ⟨_, readInsert_written read listed args, rfl⟩
  | update command =>
    obtain ⟨_, read, ⟨⟩⟩ := Checked.map_accepted.mp accepted
    exact Checked.map_accepted.mpr ⟨_, readUpdate_written read args, rfl⟩
  | delete command =>
    obtain ⟨_, read, ⟨⟩⟩ := Checked.map_accepted.mp accepted
    exact Checked.map_accepted.mpr ⟨_, readDelete_written read args, rfl⟩
  | truncateTable command =>
    obtain ⟨_, read, ⟨⟩⟩ := Checked.map_accepted.mp accepted
    exact Checked.map_accepted.mpr ⟨_, readTruncateTable_written read args, rfl⟩
  | set command =>
    obtain ⟨_, read, ⟨⟩⟩ := Checked.map_accepted.mp accepted
    obtain ⟨_, _, rfl, again⟩ := readNamed_written (by decide) read
    exact Checked.map_accepted.mpr ⟨_, again args, rfl⟩
  | use command =>
    obtain ⟨_, read, ⟨⟩⟩ := Checked.map_accepted.mp accepted
    obtain ⟨_, _, rfl, again⟩ := readNamed_written (by decide) read
    exact Checked.map_accepted.mpr ⟨_, again args, rfl⟩
  | createDatabase command =>
    obtain ⟨_, read, ⟨⟩⟩ := Checked.map_accepted.mp accepted
    exact Checked.map_accepted.mpr ⟨_, readCreateDatabase_written read args, rfl⟩
  | dropDatabase command =>
    obtain ⟨_, read, ⟨⟩⟩ := Checked.map_accepted.mp accepted
    exact Checked.map_accepted.mpr ⟨_, readDropDatabase_written read args, rfl⟩
  | createTable command =>
    obtain ⟨_, read, ⟨⟩⟩ := Checked.map_accepted.mp accepted
    exact Checked.map_accepted.mpr ⟨_, readCreateTable_written read listed args, rfl⟩
  | dropTable command =>
    obtain ⟨_, read, ⟨⟩⟩ := Checked.map_accepted.mp accepted
    exact Checked.map_accepted.mpr ⟨_, readDropTable_written read args, rfl⟩
  | addColumn command =>
    obtain ⟨_, read, ⟨⟩⟩ := Checked.map_accepted.mp accepted
    exact Checked.map_accepted.mpr ⟨_, readAddColumn_written read args, rfl⟩
  | dropColumn command =>
    obtain ⟨_, read, ⟨⟩⟩ := Checked.map_accepted.mp accepted
    obtain ⟨_, _, _, rfl, again⟩ := readPair_written read
    exact Checked.map_accepted.mpr ⟨_, again args, rfl⟩
  | addIndex command =>
    obtain ⟨_, read, ⟨⟩⟩ := Checked.map_accepted.mp accepted
    exact Checked.map_accepted.mpr ⟨_, readAddIndex_written read args, rfl⟩
  | dropIndex command =>
    obtain ⟨_, read, ⟨⟩⟩ := Checked.map_accepted.mp accepted
    obtain ⟨_, _, _, rfl, again⟩ := readPair_written read
    exact Checked.map_accepted.mpr ⟨_, again args, rfl⟩
  | showDatabases command => exact Checked.map_accepted.mpr ⟨_, readShowDatabases_written args, rfl⟩
  | showTables command => exact Checked.map_accepted.mpr ⟨_, readShowTables_written args, rfl⟩
  | showCreateDatabase command =>
    obtain ⟨_, read, ⟨⟩⟩ := Checked.map_accepted.mp accepted
    obtain ⟨_, _, rfl, again⟩ := readNamed_written (by decide) read
    exact Checked.map_accepted.mpr ⟨_, again args, rfl⟩
  | showCreateTable command =>
    obtain ⟨_, read, ⟨⟩⟩ := Checked.map_accepted.mp accepted
    obtain ⟨_, _, rfl, again⟩ := readNamed_written (by decide) read
    exact Checked.map_accepted.mpr ⟨_, again args, rfl⟩
  | bulkImportMode command =>
    exact Checked.map_accepted.mpr ⟨_, readBulkImportMode_written args, rfl⟩

theorem listed_of_nullable {select : Select} {select? : Option Select}
    (accepted : nullable readSelect (writeSelect select) = .accepted select?) : select.Listed := by
  obtain ⟨_, read, -⟩ := Checked.map_accepted.mp accepted
  exact listed_of_readSelectFields read

/-- Only a command whose selects list columns is read again. -/
theorem listed_of_readCommand {command other : Command} {args : List Value}
    (accepted : readCommand command.tag (argsEntry args ++ writeClauses command) =
      .accepted other) : command.Listed := by
  have selects : ∀ {written : Entries} {select : Select} {select? : Option Select},
      (nameKey "select").Found written (some (writeSelect select)) →
      optional written (nameKey "select") none (nullable readSelect) = .accepted select? →
      select.Listed := by
    intro written select select? found read
    rw [optional, found.locate] at read
    exact listed_of_nullable (Checked.inside_accepted.mp read)
  cases command with
  | select command =>
    obtain ⟨_, read, -⟩ := Checked.map_accepted.mp accepted
    exact listed_of_readSelectFields read
  | insert command =>
    rintro select given
    obtain ⟨_, read, -⟩ := Checked.map_accepted.mp accepted
    obtain ⟨fields, -⟩ := modelOf_accepted read
    obtain ⟨_, _, -, read, -⟩ := Checked.seq_accepted.mp fields
    refine selects ⟨?_, by simp [nameKey]⟩ read
    simp [writeClauses, nameKey, given]
  | createTable command =>
    rintro select given
    obtain ⟨_, read, -⟩ := Checked.map_accepted.mp accepted
    obtain ⟨fields, -⟩ := modelOf_accepted read
    simp only [Checked.seq_accepted] at fields
    obtain ⟨_, _, ⟨_, _, ⟨_, _, ⟨_, _, -, read, -⟩, -⟩, -⟩, -⟩ := fields
    refine selects ⟨?_, by simp [nameKey]⟩ read
    simp [writeClauses, nameKey, given]
  | _ => trivial

/-- The keys that commands are written with. -/
def commandKeywords : List String :=
  selectKeywords ++
  ["table", "values", "inline", "AUTO INCREMENT", "kinds", "select", "tables", "statement",
    "database", "name", "CHARACTER SET", "COLLATE", "if_exists", "keys", "TEMPORARY", "definition",
    "FIRST", "AFTER", "key", "FULL", "enabled"]

theorem keyedBy_written (command : Command) (args : List Value) :
    KeyedBy commandKeywords (argsEntry args ++ writeClauses command) := by
  cases command with
  | select command =>
    rw [writeClauses, writeSelectClauses_eq]
    simp [commandKeywords, selectKeywords]
  | _ => simp [writeClauses, commandKeywords, selectKeywords]

/-- A written command is refused for none of its keys. -/
theorem created_written {command other : Command} {args : List Value} :
    created command.tag (argsEntry args ++ writeClauses command) = .ok other ↔
      readCommand command.tag (argsEntry args ++ writeClauses command) = .accepted other := by
  have keyed := keyedBy_written command args
  have apart : ∀ name ∈ commandKeywords, collapsedKeyword? name = none ∧ name ≠ "cls" := by decide
  have plain : PlainKeys (argsEntry args ++ writeClauses command) := by
    intro entry member
    obtain ⟨name, belongs, key⟩ := keyed entry member
    exact ⟨name, key, (apart name belongs).2⟩
  have free := collapsedIn?_keyed keyed (fun name belongs => (apart name belongs).1)
    command.tag.modelName
  rw [created, plain.faultless, free]
  cases readCommand command.tag (argsEntry args ++ writeClauses command) <;> simp

/-- The arguments are written in front of the clauses. -/
theorem write_withArgs (command : Command) (args : List Value) :
    write (command.withArgs args) = .dictionary (argsEntry args ++ writeClauses command) := by
  cases command with
  | select command =>
    rw [write, Command.withArgs, writeClauses, writeClauses, writeSelectClauses_eq,
      writeSelectClauses_eq]
    rfl
  | _ => rfl

end

end Payload

/-- The commands that payloads are read as: from a value, or from such a command with other
arguments. -/
inductive Command.Returned : Command → Prop
  | read {tag : Tag.Source} {payload : Value} {args : List Value} {command : Command}
      (parsed : (Payload.parse tag (.value payload) args).Yields command) : Returned command
  | reissued {tag : Tag.Source} {built command : Command} {args : List Value}
      (returned : built.Returned)
      (parsed : (Payload.parse tag (.built built) args).Yields command) : Returned command

/-- Every such command was read from clauses, but for its arguments. -/
theorem Command.Returned.readable {command : Command} (returned : command.Returned) :
    ∃ read entries args, Payload.readCommand read.tag entries = .accepted read ∧
      command = read.withArgs args := by
  induction returned with
  | @read source payload args command parsed =>
    obtain ⟨tag, -, parsed⟩ := Reporting.yields_bind parsed
    obtain ⟨clauses, -, records, ended⟩ := Reporting.yields_bind parsed
    rw [Payload.create_gives tag _ records] at ended
    have accepted := Payload.read_of_created ended
    rw [← Payload.readCommand_tag accepted] at accepted
    exact ⟨command, _, command.args, accepted, command.withArgs_args.symm⟩
  | @reissued source built command args returned parsed inductionHypothesis =>
    obtain ⟨read, entries, given, accepted, rfl⟩ := inductionHypothesis
    obtain ⟨tag, -, parsed⟩ := Reporting.yields_bind parsed
    dsimp only at parsed
    split at parsed
    · exact absurd parsed Reporting.not_yields_raise
    · split at parsed
      · exact ⟨read, entries, given, accepted, Reporting.yields_pure.mp parsed⟩
      · refine ⟨read, entries, args, accepted, ?_⟩
        rw [Reporting.yields_pure.mp parsed, Command.withArgs_withArgs]

/-- Every command that is read from a payload is read again from the payload that is written for it,
with the same tag, the same arguments and the same fields, if its selects list columns. A command
with a select that lists none is refused.

Proof: every reader reads again what was written for what it read, and a written payload has the
keyword of a field exactly where that is not usual, so each field is read as before. -/
theorem payloads_round_trip {command : Command} (returned : command.Returned) :
    (command.Listed → ∃ again,
      (Payload.parse (.resolved command.tag) (.value (Payload.write command)) []).Gives
        (.ok again) ∧
      again.tag = command.tag ∧ again.args = command.args ∧
      again.declared = command.declared) ∧
    (¬command.Listed → ∃ failure,
      (Payload.parse (.resolved command.tag) (.value (Payload.write command)) []).Gives
        (.error failure)) := by
  obtain ⟨read, entries, args, accepted, rfl⟩ := returned.readable
  let written := Payload.argsEntry args ++ Payload.writeClauses read
  have gives : (Payload.parse (.resolved (read.withArgs args).tag)
      (.value (Payload.write (read.withArgs args))) []).Gives
        (Payload.created read.tag written) := by
    rw [Payload.write_withArgs, Command.tag_withArgs]
    exact Payload.parse_gives rfl written []
  constructor
  · intro listed
    have again := Payload.readCommand_written accepted (Command.listed_withArgs.mp listed) args
    rw [Payload.created_written.mpr again] at gives
    exact ⟨_, gives, by simp [Command.tag_settled], by simp, Command.declared_settled read args⟩
  · intro unlisted
    cases ended : Payload.created read.tag written with
    | ok other =>
      have listed := Payload.listed_of_readCommand (Payload.created_written.mp ended)
      exact absurd (Command.listed_withArgs.mpr listed) unlisted
    | error failure =>
      rw [ended] at gives
      exact ⟨failure, gives⟩

/-- A select that is given by lists, with a subquery and loose white space. -/
def looseNotes : Value :=
  .dictionary [(.text "columns", .tuple [.text "id", .text "owner"]), (.text "FROM", .text "notes"),
    (.text "WHERE", .text "owner IN {0}"), (.text "ORDER BY", .list [.text "owner", .text "id"]),
    (.text "LIMIT", .text " ?, 5 "), (.text "SUBQUERIES", .tuple [.list
      [.dictionary [(.text "FROM", .text "owners"), (.text "WHERE", .text "team = ?")], .int 7]])]

/-- What the loose select is read as. -/
def tidyNotes : Select where
  args := [.int 3]
  columns := .names ["id", "owner"]
  source := some "notes"
  condition := some "owner IN {0}"
  ordering := some "owner, id"
  limit := some (.written "?, 5")
  subqueries := [{ args := [.int 7], source := some "owners", condition := some "team = ?" }]

/-- The loose select survives being written; a select whose columns are an empty view of bytes is
read but does not survive. -/
theorem notes_round_trip :
    ((Command.select tidyNotes).Returned ∧ (Command.select tidyNotes).Listed ∧ ∃ again,
      (Payload.parse (.resolved .select) (.value (Payload.write (.select tidyNotes))) []).Gives
        (.ok again) ∧ again.args = [.int 3] ∧ again.declared = .select tidyNotes) ∧
    ((Command.select { columns := .names [] }).Returned ∧ ∃ failure,
      (Payload.parse (.resolved .select)
        (.value (Payload.write (.select { columns := .names [] }))) []).Gives
          (.error failure)) := by
  have loose : (Payload.parse (.given (.text "select")) (.value looseNotes) [.int 3]).Yields
      (.select tidyNotes) := ⟨[], rfl⟩
  have listed : (Command.select tidyNotes).Listed := by
    refine .of (fun wrong => nomatch wrong) fun subquery member => ?_
    obtain rfl := List.mem_singleton.mp member
    exact .of (fun wrong => nomatch wrong) fun _ none => nomatch none
  have view : (Payload.parse (.resolved .select)
      (.value (.dictionary [(.text "columns", .binary .view [])])) []).Yields
        (.select { columns := .names [] }) := ⟨[], rfl⟩
  have unlisted : ¬(Command.select { columns := .names [] }).Listed :=
    fun ⟨columns, _⟩ => columns rfl
  obtain ⟨again, gives, -, args, declared⟩ := (payloads_round_trip (.read loose)).1 listed
  exact ⟨⟨.read loose, listed, again, gives, args, declared⟩, .read view,
    (payloads_round_trip (.read view)).2 unlisted⟩

end PortableSql
