import Mathlib
import PortableSql.Proofs.Binding
import PortableSql.Proofs.Collapse
import PortableSql.Proofs.Plan

/-!
# Restrictions are not lost

An update or a delete that is read from a dictionary of clauses has the condition of its payload
and no other one. A key that merges a clause with its value is refused before anything else, other
keys that belong to no field are refused too, and what remains is written behind the command as it
would be written without restrictions.
-/

namespace PortableSql

namespace Payload

section Given

variable {key : String} {value : Value}

theorem valueOf?_putValue {other : String} (different : other ≠ key) (entries : Entries) :
    valueOf? other (putValue entries key value) = valueOf? other entries := by
  induction entries with
  | nil => simp [putValue, Value.dictionaryOf.put, valueOf?, different.symm]
  | cons entry rest inductionHypothesis =>
    obtain ⟨known, old⟩ := entry
    unfold putValue at inductionHypothesis ⊢
    rw [Value.dictionaryOf.put]
    split
    · rename_i same
      cases known with
      | text spelling =>
        have apart : spelling ≠ other := by
          rintro rfl
          exact different (by simpa [Value.sameKey] using same)
        simp [valueOf?, apart]
      | _ => rfl
    · cases known with
      | text spelling => simp only [valueOf?, inductionHypothesis]
      | _ => exact inductionHypothesis

/-- Setting the value of a key that merges nothing does not change what is merged. -/
theorem collapsedIn?_putValue (free : collapsedKeyword? key = none) (command : String)
    (entries : Entries) :
    collapsedIn? command (putValue entries key value) = collapsedIn? command entries := by
  induction entries with
  | nil => simp [putValue, Value.dictionaryOf.put, collapsedIn?, free]
  | cons entry rest inductionHypothesis =>
    obtain ⟨known, old⟩ := entry
    unfold putValue at inductionHypothesis ⊢
    rw [Value.dictionaryOf.put]
    split
    · cases known <;> rfl
    · cases known with
      | text spelling => simp only [collapsedIn?, inductionHypothesis]
      | _ => exact inductionHypothesis

/-- Setting the value of a key keeps the other keys. -/
theorem keys_putValue (key : String) (value : Value) (entries : Entries) :
    (putValue entries key value).map Prod.fst = entries.map Prod.fst ∨
      (putValue entries key value).map Prod.fst = entries.map Prod.fst ++ [.text key] := by
  induction entries with
  | nil => exact .inr rfl
  | cons entry rest inductionHypothesis =>
    obtain ⟨known, old⟩ := entry
    unfold putValue at inductionHypothesis ⊢
    rw [Value.dictionaryOf.put]
    split
    · exact .inl rfl
    · exact inductionHypothesis.imp (congrArg (known :: ·)) (congrArg (known :: ·))

end Given

/-- Every key of a dictionary is a text, and none stands for the model itself. -/
def PlainKeys (entries : Entries) : Prop :=
  ∀ entry ∈ entries, ∃ key, entry.1 = .text key ∧ key ≠ "cls"

/-- Every key remains beside the arguments that are given. -/
theorem mem_withGiven {entries : Entries} {entry : Value × Value} (args : List Value)
    (member : entry ∈ entries) : ∃ other ∈ withGiven entries args, entry.1 = other.1 := by
  have inside := List.mem_map_of_mem (f := Prod.fst) member
  have kept : entry.1 ∈ (withGiven entries args).map Prod.fst := by
    unfold withGiven
    split
    · exact inside
    · rcases keys_putValue "args" (.list args) entries with same | more
      · rwa [same]
      · rw [more]
        exact List.mem_append_left _ inside
  obtain ⟨other, given, same⟩ := List.mem_map.mp kept
  exact ⟨other, given, same.symm⟩

theorem PlainKeys.withGiven {entries : Entries} (plain : PlainKeys entries) (args : List Value) :
    PlainKeys (withGiven entries args) := by
  unfold Payload.withGiven
  split
  · exact plain
  · intro entry member
    have inside := List.mem_map_of_mem (f := Prod.fst) member
    rcases keys_putValue "args" (.list args) entries with same | more
    · rw [same] at inside
      obtain ⟨other, known, sameKey⟩ := List.mem_map.mp inside
      exact sameKey ▸ plain other known
    · rw [more] at inside
      rcases List.mem_append.mp inside with early | last
      · obtain ⟨other, known, sameKey⟩ := List.mem_map.mp early
        exact sameKey ▸ plain other known
      · exact ⟨"args", List.mem_singleton.mp last, by decide⟩

theorem PlainKeys.faultless {entries : Entries} (plain : PlainKeys entries) :
    keyFault? entries = none := by
  have missing : valueOf? "cls" entries = none := by
    induction entries with
    | nil => rfl
    | cons entry rest inductionHypothesis =>
      obtain ⟨⟨key, same, different⟩, tail⟩ := List.forall_mem_cons.mp plain
      obtain ⟨known, value⟩ := entry
      cases same
      rw [valueOf?, if_neg different]
      exact inductionHypothesis tail
  unfold keyFault?
  rw [missing]
  refine if_neg (ne_true_of_eq_false ?_)
  rw [List.any_eq_false]
  intro entry member
  obtain ⟨key, same, -⟩ := plain entry member
  simp [same]

/-- What a value spells: a text, or fixed or growable bytes that are text. -/
def spelled? : Value → Option String
  | .text characters => some characters
  | .binary form bytes => if form = .view then none else decoded? bytes
  | _ => none

/-- The condition that a payload gives, under either spelling of its key. -/
def condition? (entries : Entries) : Option String :=
  ((valueOf? "WHERE" entries).or (valueOf? "where_clause" entries)).bind spelled?

/-- A text or nothing is read as what is spelled. -/
theorem spelled_of_nullable {value : Value} {read : Option String}
    (accepted : nullable readText value = .accepted read) : read = spelled? value := by
  cases value with
  | null =>
    cases accepted
    rfl
  | text characters =>
    cases accepted
    rfl
  | binary form bytes =>
    obtain ⟨characters, text, rfl⟩ := Checked.map_accepted.mp accepted
    simp only [readText] at text
    split at text
    · cases text
    · rename_i fixed
      cases decoding : decoded? bytes with
      | none =>
        rw [decoding] at text
        cases text
      | some decoded =>
        rw [decoding] at text
        cases text
        simp [spelled?, fixed, decoding]
  | _ => cases accepted

theorem condition_of_readCondition {entries : Entries} {read : Option String}
    (accepted : readCondition entries = .accepted read) : read = condition? entries := by
  unfold readCondition optional Key.locate at accepted
  unfold condition?
  cases keyword : valueOf? "WHERE" entries with
  | some value =>
    simp only [keyword] at accepted
    exact spelled_of_nullable (Checked.inside_accepted.mp accepted)
  | none =>
    simp only [keyword] at accepted
    cases named : valueOf? "where_clause" entries with
    | some value =>
      simp only [named, Option.map_some] at accepted
      exact spelled_of_nullable (Checked.inside_accepted.mp accepted)
    | none =>
      simp only [named, Option.map_none] at accepted
      cases accepted
      rfl

/-- Arguments that are given beside a payload do not change its condition. -/
theorem condition?_withGiven (entries : Entries) (args : List Value) :
    condition? (withGiven entries args) = condition? entries := by
  unfold withGiven condition?
  split
  · rfl
  · rw [valueOf?_putValue (by decide), valueOf?_putValue (by decide)]

/-- An update that is read has the condition of its payload. -/
theorem readUpdate_accepted {entries : Entries} {update : Update}
    (accepted : readUpdate entries = .accepted update) :
    update.condition = condition? entries ∧
      strayKeys (commonKeys ++ [nameKey "table", nameKey "values", nameKey "inline"] ++
        restrictionKeys) entries = [] := by
  obtain ⟨fields, nothing⟩ := modelOf_accepted accepted
  refine ⟨?_, nothing⟩
  obtain ⟨_, _, toOrdering, -, rfl⟩ := Checked.seq_accepted.mp fields
  obtain ⟨_, _, toCondition, -, rfl⟩ := Checked.seq_accepted.mp toOrdering
  obtain ⟨_, _, toInline, conditioned, rfl⟩ := Checked.seq_accepted.mp toCondition
  obtain ⟨_, _, toValues, -, rfl⟩ := Checked.seq_accepted.mp toInline
  obtain ⟨_, _, toTable, -, rfl⟩ := Checked.seq_accepted.mp toValues
  obtain ⟨_, _, toArgs, -, rfl⟩ := Checked.seq_accepted.mp toTable
  obtain ⟨_, _, toTag, -, rfl⟩ := Checked.seq_accepted.mp toArgs
  obtain ⟨_, -, rfl⟩ := Checked.map_accepted.mp toTag
  exact condition_of_readCondition conditioned

/-- A delete that is read has the condition of its payload. -/
theorem readDelete_accepted {entries : Entries} {delete : Delete}
    (accepted : readDelete entries = .accepted delete) :
    delete.condition = condition? entries ∧
      strayKeys (commonKeys ++ [nameKey "table"] ++ restrictionKeys) entries = [] := by
  obtain ⟨fields, nothing⟩ := modelOf_accepted accepted
  refine ⟨?_, nothing⟩
  obtain ⟨_, _, toOrdering, -, rfl⟩ := Checked.seq_accepted.mp fields
  obtain ⟨_, _, toCondition, -, rfl⟩ := Checked.seq_accepted.mp toOrdering
  obtain ⟨_, _, toTable, conditioned, rfl⟩ := Checked.seq_accepted.mp toCondition
  obtain ⟨_, _, toArgs, -, rfl⟩ := Checked.seq_accepted.mp toTable
  obtain ⟨_, _, toTag, -, rfl⟩ := Checked.seq_accepted.mp toArgs
  obtain ⟨_, -, rfl⟩ := Checked.map_accepted.mp toTag
  exact condition_of_readCondition conditioned

/-- The keys of the dictionaries that an update or a delete is read from. -/
def fieldNames : Tag → List String
  | .update => ["command_type", "args", "table", "values", "inline", "where_clause", "WHERE",
      "order_by", "ORDER BY", "limit", "LIMIT"]
  | .delete => ["command_type", "args", "table", "where_clause", "WHERE", "order_by", "ORDER BY",
      "limit", "LIMIT"]
  | _ => []

/-- Where no key is left over, every key is one of the names that the fields have. -/
theorem named_of_strayKeys {keys : List Key} {names : List String} {entries : Entries}
    (nothing : strayKeys keys entries = [])
    (named : ∀ key ∈ keys, key.name ∈ names ∧ key.keyword ∈ names) :
    ∀ entry ∈ entries, ∃ name ∈ names, entry.1 = .text name := by
  intro entry member
  obtain ⟨key, belongs, same⟩ := spelled_of_strayKeys nothing entry member
  rcases same with name | keyword
  · exact ⟨key.name, (named key belongs).1, name⟩
  · exact ⟨key.keyword, (named key belongs).2, keyword⟩

end Payload

/-- The command without what restricts it. -/
def Command.unrestricted : Command → Command
  | .update change =>
    .update { change with args := [], condition := none, ordering := none, limit := none }
  | .delete removal =>
    .delete { removal with args := [], condition := none, ordering := none, limit := none }
  | command => command

/-- The clause of a condition; without text there is none. -/
def whereClause : Option String → String
  | some condition => if condition.isEmpty then "" else " WHERE " ++ condition
  | none => ""

/-- What may stand behind the condition: an ordering and a limit. -/
def RestrictionEnd (ending : String) : Prop :=
  ∃ ordered limited, ending = ordered ++ limited ∧
    (ordered = "" ∨ ∃ names, ordered = " ORDER BY " ++ names) ∧
    (limited = "" ∨ ∃ count : Int, limited = " LIMIT " ++ toString count)

/-- The plan is the one statement of the bare plan, then the clause of the condition, and then at
most an ordering and a limit. -/
def Plan.Restricts (bare plan : Plan) (condition : Option String) : Prop :=
  ∃ head ending statement, bare.texts = [head] ∧ plan.statements = [statement] ∧
    RestrictionEnd ending ∧ statement.sql = head ++ whereClause condition ++ ending

section Restrictions

variable {dialect : Dialect}

/-- Where placeholders stand for values, a text is written as it is. -/
theorem characters_of_values {clause : String} {found : List Sql.Piece} {consumed : List Value}
    {line : Line} (texts : ∀ digits, .subquery digits ∉ found)
    (binds : Binds dialect [] (found.map (.ofPiece clause .value)) consumed line) :
    line.characters = found.flatMap Sql.Piece.text := by
  induction found generalizing consumed line with
  | nil =>
    cases binds
    rfl
  | cons piece rest inductionHypothesis =>
    obtain _ | ⟨first, others⟩ := binds
    have continued := inductionHypothesis
      (fun digits member => texts digits (List.mem_cons_of_mem _ member)) others
    rw [Line.characters_append, continued, List.flatMap_cons]
    cases piece with
    | subquery digits => exact absurd List.mem_cons_self (texts digits)
    | _ =>
      cases first
      simp [Sql.Piece.text]

theorem sql_condition {condition : Option String} {consumed : List Value} {line : Line}
    (binds : Binds dialect [] (optionalItems dialect "WHERE" .value false condition) consumed
      line) : line.sql = whereClause condition := by
  cases condition with
  | none =>
    cases binds
    rfl
  | some text =>
    by_cases empty : text.isEmpty
    · simp only [optionalItems, empty, if_true] at binds
      cases binds
      simp [whereClause, empty]
    · simp only [optionalItems, empty, Bool.false_eq_true, if_false] at binds
      obtain ⟨following, rfl, inside⟩ := binds.text_inv
      have written := characters_of_values (fun _ => Sql.not_subquery_mem_pieces) inside
      rw [Sql.flatMap_text_pieces] at written
      rw [whereClause, if_neg empty, Line.sql, Line.characters_cons, written]
      change String.ofList ((" " ++ "WHERE" ++ " ").toList ++ text.toList) = " WHERE " ++ text
      rw [String.ofList_append, String.ofList_toList, String.ofList_toList]
      rfl

theorem sql_ordering {ordering : Option String} {consumed : List Value} {line : Line}
    (binds : Binds dialect [] (optionalItems dialect "ORDER BY" .name false ordering) consumed
      line) : line.sql = "" ∨ ∃ names, line.sql = " ORDER BY " ++ names := by
  cases ordering with
  | none =>
    cases binds
    exact .inl rfl
  | some text =>
    by_cases empty : text.isEmpty
    · simp only [optionalItems, empty, if_true] at binds
      cases binds
      exact .inl rfl
    · simp only [optionalItems, empty, Bool.false_eq_true, if_false] at binds
      obtain ⟨following, rfl, -⟩ := binds.text_inv
      refine .inr ⟨Line.sql following, ?_⟩
      change String.ofList ((" " ++ "ORDER BY" ++ " ").toList ++ Line.characters following) = _
      rw [String.ofList_append, String.ofList_toList]
      rfl

/-- Restrictions are written as the clause of the condition and what may stand behind it. -/
theorem RestrictionsBind.sql {tag : Tag} {condition ordering : Option String}
    {limit : Option Limit} {consumed : List Value} {line : Line}
    (binds : RestrictionsBind dialect tag condition ordering limit consumed line) :
    ∃ ending, RestrictionEnd ending ∧ line.sql = whereClause condition ++ ending := by
  obtain ⟨_, _, _, selected, ordered, numbers, limitText, -, wheres, orders, -, limited, rfl⟩ :=
    binds
  by_cases supported : dialect.table.updateLimit
  · refine ⟨ordered.sql ++ limitText, ⟨_, _, rfl, sql_ordering orders,
      restrictionLimit_text limited⟩, ?_⟩
    simp [supported, sql_condition wheres]
  · refine ⟨"", ⟨"", "", rfl, .inl rfl, .inl rfl⟩, ?_⟩
    simp [supported, sql_condition wheres]

/-- Without restrictions nothing is written for them. -/
theorem restrictionsBind_none (dialect : Dialect) (tag : Tag) :
    ∃ line, RestrictionsBind dialect tag none none none [] line ∧ line.sql = "" := by
  refine ⟨_, ⟨[], [], [], [], [], none, "", rfl, .nil, .nil, .none, rfl, rfl⟩, ?_⟩
  split <;> simp

/-- An update is written as without restrictions, with its own behind that. -/
theorem UpdateBinds.restricted {change : Update} {line : Line}
    (binds : UpdateBinds dialect change change.args line) :
    ∃ bare ending, UpdateBinds dialect
        { change with args := [], condition := none, ordering := none, limit := none } [] bare ∧
      RestrictionEnd ending ∧ line.sql = bare.sql ++ whereClause change.condition ++ ending := by
  obtain ⟨values, fragments, table, restrictions, assigned, joined, known, restricted, rfl⟩ := binds
  obtain ⟨ending, allowed, written⟩ := restricted.sql
  obtain ⟨nothing, unrestricted, empty⟩ := restrictionsBind_none dialect .update
  refine ⟨_, ending, ⟨values, fragments, table, nothing, assigned, joined, known, unrestricted,
    rfl⟩, allowed, ?_⟩
  simp [written, empty, String.append_assoc]

/-- A delete is written as without restrictions, with its own behind that. -/
theorem DeleteBinds.restricted {removal : Delete} {line : Line}
    (binds : DeleteBinds dialect removal removal.args line) :
    ∃ bare ending, DeleteBinds dialect
        { removal with args := [], condition := none, ordering := none, limit := none } [] bare ∧
      RestrictionEnd ending ∧ line.sql = bare.sql ++ whereClause removal.condition ++ ending := by
  obtain ⟨table, restrictions, known, restricted, rfl⟩ := binds
  obtain ⟨ending, allowed, written⟩ := restricted.sql
  obtain ⟨nothing, unrestricted, empty⟩ := restrictionsBind_none dialect .delete
  refine ⟨_, ending, ⟨table, nothing, known, unrestricted, rfl⟩, allowed, ?_⟩
  simp [written, empty, String.append_assoc]

/-- A command of one line compiles to the statement of its line. -/
theorem compilePlan_line {context : Context} {command : Command} {outcome : Except Failure Line}
    (written : command.written? dialect context.nested =
      some (outcome.map fun line => { lines := [line] })) {plan : Plan} :
    (compilePlan dialect command context).result = .ok plan ↔
      ∃ line, outcome = .ok line ∧
        plan = {
          statements := [line.statement]
          tag := some command.tag
          master := context.master } := by
  rw [(compilePlan_gives dialect context command written).result_eq, Reporting.map_map,
    Reporting.map_ok]
  constructor
  · rintro ⟨line, ended, rfl⟩
    exact ⟨line, ended, rfl⟩
  · rintro ⟨line, ended, rfl⟩
    exact ⟨line, ended, rfl⟩

/-- An update compiles to its restricted statement. -/
theorem compileUpdate_restricts (context : Context) (change : Update) {plan : Plan}
    (compiled : (compilePlan dialect (.update change) context).result = .ok plan) :
    ∃ bare, (compilePlan dialect (Command.update change).unrestricted context).result = .ok bare ∧
      bare.Restricts plan change.condition := by
  obtain ⟨line, ended, rfl⟩ := (compilePlan_line rfl).mp compiled
  obtain ⟨bare, ending, binds, allowed, written⟩ := (updateLine_ok.mp ended).restricted
  have unrestricted := updateLine_ok.mpr binds
  exact ⟨_, (compilePlan_line rfl).mpr ⟨bare, unrestricted, rfl⟩, bare.sql, ending, line.statement,
    rfl, rfl, allowed, written⟩

/-- A delete compiles to its restricted statement. -/
theorem compileDelete_restricts (context : Context) (removal : Delete) {plan : Plan}
    (compiled : (compilePlan dialect (.delete removal) context).result = .ok plan) :
    ∃ bare, (compilePlan dialect (Command.delete removal).unrestricted context).result = .ok bare ∧
      bare.Restricts plan removal.condition := by
  obtain ⟨line, ended, rfl⟩ := (compilePlan_line rfl).mp compiled
  obtain ⟨bare, ending, binds, allowed, written⟩ := (deleteLine_ok.mp ended).restricted
  have unrestricted := deleteLine_ok.mpr binds
  exact ⟨_, (compilePlan_line rfl).mpr ⟨bare, unrestricted, rfl⟩, bare.sql, ending, line.statement,
    rfl, rfl, allowed, written⟩

end Restrictions

namespace Payload

/-- A dictionary of clauses that is read as a command has no keys that merge clauses. -/
theorem read_of_created {tag : Tag} {entries : Entries} {command : Command}
    (ended : created tag entries = .ok command) : readCommand tag entries = .accepted command := by
  unfold created at ended
  split at ended
  · cases ended
  · cases ended
  · split at ended
    · cases ended
      assumption
    · cases ended
    · cases ended

/-- A key that merges a clause with its value is refused before anything else is looked at. -/
theorem created_collapsed {tag : Tag} {entries earlier later : Entries} {key spelt : String}
    {value : Value} (args : List Value) (plain : PlainKeys entries)
    (same : entries = earlier ++ (.text key, value) :: later) (merges : Merges key spelt)
    (first : ∀ entry ∈ earlier, ∀ other, entry.1 = .text other → ∀ spelt, ¬ Merges other spelt) :
    ∃ message, created tag (withGiven entries args) =
      .error (.report .validation .collapsedClause message [("field", .text key)] none) := by
  have given : collapsedIn? tag.modelName (withGiven entries args) =
      collapsedIn? tag.modelName entries := by
    unfold withGiven
    split
    · rfl
    · exact collapsedIn?_putValue (by decide) _ entries
  have nonempty : ¬ key.isEmpty = true := by
    obtain ⟨blanks, _, _, _, text, _, _, ⟨_, _, rfl, _⟩, _⟩ := merges
    intro empty
    rw [String.isEmpty_iff] at empty
    subst empty
    simp at text
  have located : ∀ found, ∃ message, collapsedReport tag.modelName key found =
      .report .validation .collapsedClause message [("field", .text key)] none := by
    intro found
    unfold collapsedReport Failure.validation
    simp only [nonempty, Bool.false_eq_true, if_false]
    exact ⟨_, rfl⟩
  obtain ⟨found, -, reported⟩ := collapsedIn?_first first merges
  obtain ⟨message, report⟩ := located found
  rw [← same, report] at reported
  rw [created, (plain.withGiven args).faultless, given, reported]
  exact ⟨message, rfl⟩

end Payload

/-- Reading an update or a delete from a dictionary of clauses keeps its restriction. The first key
that merges a clause with its value is refused, whatever else is wrong; every key of what is read
is the name of a field; and what is read compiles to one statement, which is that of the command
without restrictions, followed by a clause for the condition of the payload exactly when it spells
one that is not empty.

Proof: the scan for merged clauses comes first and sees every key. Where nothing is left over, the
condition is found under one of its two names. In the written line the condition is all that stands
between the head, which does not depend on the restrictions, and their end. -/
theorem restriction_kept (dialect : Dialect) (context : Context) {source : Tag.Source} {tag : Tag}
    (resolved : (Tag.resolve source).result = .ok tag) (changes : tag = .update ∨ tag = .delete)
    {entries : Payload.Entries} (plain : Payload.PlainKeys entries) (args : List Value) :
    (∀ earlier key value later spelt, entries = earlier ++ (.text key, value) :: later →
      Payload.Merges key spelt →
      (∀ entry ∈ earlier, ∀ other, entry.1 = .text other → ∀ spelt, ¬ Payload.Merges other spelt) →
      ∃ message, (Payload.parse source (.value (.dictionary entries)) args).result =
        .error (.report .validation .collapsedClause message [("field", .text key)] none)) ∧
    ∀ command, (Payload.parse source (.value (.dictionary entries)) args).result = .ok command →
      (∀ entry ∈ entries, ∃ name ∈ Payload.fieldNames tag, entry.1 = .text name) ∧
      ∀ plan, (compilePlan dialect command context).result = .ok plan →
        ∃ bare, (compilePlan dialect command.unrestricted context).result = .ok bare ∧
          bare.Restricts plan (Payload.condition? entries) := by
  have parsed := (Payload.parse_gives resolved entries args).result_eq
  have keys : ∀ names : List String,
      (∀ entry ∈ Payload.withGiven entries args, ∃ name ∈ names, entry.1 = .text name) →
        ∀ entry ∈ entries, ∃ name ∈ names, entry.1 = .text name := by
    intro names named entry member
    obtain ⟨other, given, same⟩ := Payload.mem_withGiven args member
    exact same ▸ named other given
  refine ⟨fun earlier key value later spelt same merges first => ?_, fun command ended => ?_⟩
  · rw [parsed]
    exact Payload.created_collapsed args plain same merges first
  · rw [parsed] at ended
    have accepted := Payload.read_of_created ended
    rcases changes with rfl | rfl
    · obtain ⟨change, read, rfl⟩ := Checked.map_accepted.mp accepted
      obtain ⟨condition, nothing⟩ := Payload.readUpdate_accepted read
      rw [Payload.condition?_withGiven] at condition
      refine ⟨keys _ (Payload.named_of_strayKeys nothing (by decide)), fun plan compiled => ?_⟩
      rw [← condition]
      exact compileUpdate_restricts context change compiled
    · obtain ⟨removal, read, rfl⟩ := Checked.map_accepted.mp accepted
      obtain ⟨condition, nothing⟩ := Payload.readDelete_accepted read
      rw [Payload.condition?_withGiven] at condition
      refine ⟨keys _ (Payload.named_of_strayKeys nothing (by decide)), fun plan compiled => ?_⟩
      rw [← condition]
      exact compileDelete_restricts context removal compiled

/-- The removal of the notes of an owner, as a dictionary of clauses. -/
def removalOfNotes : Payload.Entries :=
  [(.text "table", .text "notes"), (.text "WHERE", .text "owner = ?")]

/-- The removal is read with its condition and compiles to its restricted statement. -/
theorem removalOfNotes_restricted :
    (Tag.resolve (.given (.text "delete"))).result = .ok .delete ∧
      Payload.PlainKeys removalOfNotes ∧
      ∃ command plan, ∃ bare : Plan,
        (Payload.parse (.given (.text "delete")) (.value (.dictionary removalOfNotes))
          [.int 7]).result = .ok command ∧
        (compilePlan Family.mysql.dialect command).result = .ok plan ∧
        plan.texts = ["DELETE FROM \x60notes\x60 WHERE owner = ?"] ∧
        bare.Restricts plan (some "owner = ?") := by
  have resolved : (Tag.resolve (.given (.text "delete"))).result = .ok .delete := by rfl
  have plain : Payload.PlainKeys removalOfNotes := by
    unfold removalOfNotes
    rintro entry (_ | ⟨_, _ | ⟨_, wrong⟩⟩)
    · exact ⟨"table", rfl, by decide⟩
    · exact ⟨"WHERE", rfl, by decide⟩
    · cases wrong
  have read : (Payload.parse (.given (.text "delete")) (.value (.dictionary removalOfNotes))
      [.int 7]).result =
        .ok (.delete { args := [.int 7], table := "notes", condition := some "owner = ?" }) := by rfl
  have compiled : (compilePlan Family.mysql.dialect (.delete
      { args := [.int 7], table := "notes", condition := some "owner = ?" })).result = .ok
        { statements := [{ sql := "DELETE FROM \x60notes\x60 WHERE owner = ?",
                           parameters := [.infer (.int 7)] }],
          tag := some .delete } := by cbv
  obtain ⟨-, accepted⟩ := restriction_kept Family.mysql.dialect {} resolved (.inr rfl) plain
    [.int 7]
  obtain ⟨-, restricts⟩ := accepted _ read
  obtain ⟨bare, -, restricted⟩ := restricts _ compiled
  exact ⟨resolved, plain, _, _, bare, read, compiled, rfl, restricted⟩

/-- A removal whose condition, which is to be `id = 1`, is given by its bytes. -/
def removalByBytes : Payload.Entries :=
  [(.text "table", .text "notes"),
   (.text "WHERE", .binary .fixed [0x69, 0x64, 0x20, 0x3d, 0x20, 0x31])]

/-- A condition need not be given by text: bytes restrict a removal too. -/
theorem removalByBytes_restricted :
    (∀ text, Payload.valueOf? "WHERE" removalByBytes ≠ some (.text text) ∧
      Payload.valueOf? "where_clause" removalByBytes ≠ some (.text text)) ∧
      ∃ command plan,
        (Payload.parse (.given (.text "delete")) (.value (.dictionary removalByBytes)) []).result =
          .ok command ∧
        (compilePlan Family.mysql.dialect command).result = .ok plan ∧
        plan.texts = ["DELETE FROM \x60notes\x60 WHERE id = 1"] := by
  have read : (Payload.parse (.given (.text "delete")) (.value (.dictionary removalByBytes))
      []).result = .ok (.delete { table := "notes", condition := some "id = 1" }) := by rfl
  have compiled : (compilePlan Family.mysql.dialect (.delete
      { table := "notes", condition := some "id = 1" })).result = .ok
        { statements := [{ sql := "DELETE FROM \x60notes\x60 WHERE id = 1" }],
          tag := some .delete } := by cbv
  refine ⟨fun text => ⟨fun same => ?_, fun same => ?_⟩, _, _, read, compiled, rfl⟩
  · cases same
  · cases same

end PortableSql
