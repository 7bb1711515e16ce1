import PortableSql.Payload.Command
import PortableSql.Proofs.Quoting

/-!
# Closed commands

A raw text is closed when its own scan ends outside of quoted spans. In a closed command all raw
texts are closed, the texts of its subqueries included, and names do not change how the text behind
them is read. A closed select can be written behind anything.
-/

namespace PortableSql

/-- A clause that is closed, and in which no closing quote of SQL Server follows the placeholder
of a name. -/
def ClauseClosed (dialect : Dialect) (use : PlaceholderUse) (subqueries : Bool)
    (text : Option String) : Prop :=
  ∀ raw ∈ text, Sql.quoteClosed dialect.table.quotedSpans raw = true ∧
    (use = .name →
      dialect.Unjoined (Sql.pieces { subqueries } dialect.table.quotedSpans raw.toList))

/-- Arguments that land on names are safe. -/
def NamesSafe (dialect : Dialect) (landings : List Landing) (arguments : List Value) : Prop :=
  Met (fun landing value => landing = .name → dialect.SafeValue value) landings arguments

namespace Select

/-- The texts of a select itself are closed, and its arguments for names are safe. -/
structure TextsClosed (dialect : Dialect) (select : Select) : Prop where
  columns : Sql.quoteClosed dialect.table.quotedSpans select.columns.joined = true
  clauses : ∀ entry ∈ select.clauses, ClauseClosed dialect entry.2.1 true entry.2.2
  names : NamesSafe dialect (select.landings dialect) select.args

end Select

mutual

/-- The texts of a select are closed and its arguments for names are safe, and so it is for its
subqueries. -/
def Select.Closed (dialect : Dialect) : Select → Prop
  | select@{ subqueries, .. } => select.TextsClosed dialect ∧ selectsClosed dialect subqueries

/-- The same for every select of a list. -/
def selectsClosed (dialect : Dialect) : List Select → Prop
  | [] => True
  | select :: rest => select.Closed dialect ∧ selectsClosed dialect rest

end

/-- The restrictions of a change are closed and its arguments for names are safe. -/
structure RestrictionsClosed (dialect : Dialect) (condition ordering : Option String)
    (limit : Option Limit) (arguments : List Value) : Prop where
  whereClosed : ClauseClosed dialect .value false condition
  orderClosed : ClauseClosed dialect .name false ordering
  names : NamesSafe dialect (restrictionLandings dialect condition ordering limit) arguments

/-- A fragment is closed and the name of its column is safe. -/
def FragmentClosed (dialect : Dialect) (entry : String × String) : Prop :=
  dialect.SafeName entry.1 ∧ Sql.quoteClosed dialect.table.quotedSpans entry.2 = true

/-- The names and fragments of an insert are safe and closed, and so is its select. -/
structure Insert.Closed (dialect : Dialect) (insert : Insert) : Prop where
  table : dialect.SafeName insert.table
  values : ∀ column ∈ insert.valueColumns, dialect.SafeName column
  inline : ∀ entry ∈ insert.inline, FragmentClosed dialect entry
  columns : ∀ columns ∈ insert.columns, ∀ column ∈ columns, dialect.SafeName column
  select : ∀ select ∈ insert.select, select.Closed dialect

/-- The names and fragments of an update are safe and closed, and so are its restrictions. -/
structure Update.Closed (dialect : Dialect) (update : Update) : Prop where
  table : dialect.SafeName update.table
  values : ∀ entry ∈ update.values, dialect.SafeName entry.1
  inline : ∀ entry ∈ update.inline, FragmentClosed dialect entry
  restrictions : RestrictionsClosed dialect update.condition update.ordering update.limit
    update.args

/-- The name of a table and the restrictions of a delete are safe and closed. -/
structure Delete.Closed (dialect : Dialect) (delete : Delete) : Prop where
  table : dialect.SafeName delete.table
  restrictions : RestrictionsClosed dialect delete.condition delete.ordering delete.limit
    delete.args

/-- The name of a table that is created from a select is safe and the select is closed; the names
of the character set and the collation are those that a payload may give. -/
structure CreateTable.Closed (dialect : Dialect) (creation : CreateTable) (select : Select) :
    Prop where
  name : dialect.SafeName creation.name
  characterSet : ∀ name ∈ creation.characterSet, Payload.isCharset name = true
  collate : ∀ name ∈ creation.collate, Payload.isCharset name = true
  select : select.Closed dialect

/-- The command is one that is written, its texts are closed and its names are safe. -/
def Command.Closed (dialect : Dialect) : Command → Prop
  | .select command => command.Closed dialect
  | .insert command => command.Closed dialect
  | .update command => command.Closed dialect
  | .delete command => command.Closed dialect
  | .set command => ClauseClosed dialect (settingUse dialect) false (some command.statement)
  | .createTable command => ∃ select, command.select = some select ∧ command.Closed dialect select
  | _ => False

theorem selectsClosed_iff (dialect : Dialect) (selects : List Select) :
    selectsClosed dialect selects ↔ ∀ select ∈ selects, select.Closed dialect := by
  induction selects with
  | nil => simp [selectsClosed]
  | cons select rest inductionHypothesis => simp [selectsClosed, inductionHypothesis]

theorem Select.closed_iff (dialect : Dialect) (select : Select) :
    select.Closed dialect ↔
      select.TextsClosed dialect ∧ ∀ nested ∈ select.subqueries, nested.Closed dialect := by
  rw [← selectsClosed_iff]
  cases select
  rfl

namespace Quoting

variable {dialect : Dialect} (quoting : Quoting dialect) {lines : List (Except Failure Line)}

include quoting

/-- What is written for a clause is whole. -/
theorem whole_clause {clause : String} {use : PlaceholderUse} {subqueries : Bool} {text : String}
    {consumed : List Value} {line : Line}
    (named : ∀ digits line, namedLine lines digits = .ok line →
      Line.Whole dialect.table.quotedSpans line)
    (closed : ClauseClosed dialect use subqueries (some text))
    (safe : NamesSafe dialect (clauseLandings dialect use subqueries (some text)) consumed)
    (binds : Binds dialect lines (clauseItems dialect clause use subqueries text) consumed line) :
    Line.Whole dialect.table.quotedSpans line := by
  obtain ⟨ends, unjoined⟩ := closed text rfl
  have names : use = .name → ∀ value ∈ consumed, dialect.SafeValue value := by
    rintro rfl value member
    have counted := binds.length_eq
    rw [landings_clauseItems] at counted
    have alike := safe.each counted fun landing inside =>
      List.mem_singleton.mp (mem_clauseLandings inside)
    exact alike value member rfl
  exact quoting.scan_pieces named binds (Sql.settled_of_quoteClosed ends) unjoined names
    (Sql.settled_outside _) fun first _ => Sql.Mode.reads_outside _ first

/-- What is written for a clause that may be left out can follow anything. -/
theorem steady_optional {clause : String} {use : PlaceholderUse} {subqueries : Bool}
    {text : Option String} {consumed : List Value} {line : Line}
    (plain : Plain (" " ++ clause ++ " ").toList)
    (named : ∀ digits line, namedLine lines digits = .ok line →
      Line.Whole dialect.table.quotedSpans line)
    (closed : ClauseClosed dialect use subqueries text)
    (safe : NamesSafe dialect (clauseLandings dialect use subqueries text) consumed)
    (binds : Binds dialect lines (optionalItems dialect clause use subqueries text) consumed
      line) :
    Line.Steady dialect.table.quotedSpans line := by
  cases text with
  | none =>
    cases binds
    exact Line.steady_nil
  | some text =>
    by_cases blank : text.isEmpty
    · simp only [optionalItems, blank, if_true] at binds
      cases binds
      exact Line.steady_nil
    · simp only [optionalItems, blank, Bool.false_eq_true, if_false] at binds
      obtain ⟨following, rfl, bindsRest⟩ := binds.text_inv
      exact quoting.steady_after _ plain (by simp)
        (quoting.whole_clause named closed safe bindsRest)

/-- What is written for clauses that follow each other can follow anything. -/
theorem steady_clauses {entries : List (String × PlaceholderUse × Option String)}
    {consumed : List Value} {line : Line}
    (plain : ∀ entry ∈ entries, Plain (" " ++ entry.1 ++ " ").toList)
    (named : ∀ digits line, namedLine lines digits = .ok line →
      Line.Whole dialect.table.quotedSpans line)
    (closed : ∀ entry ∈ entries, ClauseClosed dialect entry.2.1 true entry.2.2)
    (safe : NamesSafe dialect
      (entries.flatMap fun (_, use, text) => clauseLandings dialect use true text) consumed)
    (binds : Binds dialect lines
      (entries.flatMap fun (keyword, use, text) => optionalItems dialect keyword use true text)
      consumed line) :
    Line.Steady dialect.table.quotedSpans line := by
  induction entries generalizing consumed line with
  | nil =>
    cases binds
    exact Line.steady_nil
  | cons entry rest inductionHypothesis =>
    obtain ⟨first, second, begun, following, rfl, rfl, left, right⟩ := binds.append_inv
    have counted := left.length_eq
    rw [landings_optionalItems] at counted
    obtain ⟨safeFirst, safeRest⟩ := (met_append counted).mp safe
    refine (quoting.steady_optional (plain entry List.mem_cons_self) named
      (closed entry List.mem_cons_self) safeFirst left).append ?_
    exact inductionHypothesis (fun other member => plain other (List.mem_cons_of_mem entry member))
      (fun other member => closed other (List.mem_cons_of_mem entry member)) safeRest right

/-- What is written for a select before its limit can follow anything. -/
theorem steady_items {into : Option String} {select : Select} {consumed : List Value} {line : Line}
    (named : ∀ digits line, namedLine lines digits = .ok line →
      Line.Whole dialect.table.quotedSpans line)
    (target : ∀ table ∈ into, Line.Steady dialect.table.quotedSpans (Line.ofText table))
    (columns : Sql.quoteClosed dialect.table.quotedSpans select.columns.joined = true)
    (clauses : ∀ entry ∈ select.clauses, ClauseClosed dialect entry.2.1 true entry.2.2)
    (safe : NamesSafe dialect
      (select.clauses.flatMap fun (_, use, text) => clauseLandings dialect use true text) consumed)
    (binds : Binds dialect lines (select.items dialect into) consumed line) :
    Line.Steady dialect.table.quotedSpans line := by
  obtain ⟨following, rfl, bindsRest⟩ := binds.text_inv
  obtain ⟨first, second, begun, later, rfl, rfl, left, right⟩ := bindsRest.append_inv
  obtain ⟨last, rfl, bindsClauses⟩ := right.text_inv
  have unconsumed : first = [] := by
    have counted := left.length_eq
    rw [landings_clauseItems, clauseLandings_refused] at counted
    exact List.eq_nil_of_length_eq_zero counted
  subst unconsumed
  have wholeColumns := quoting.whole_clause named
    (fun raw given => by
      cases given
      exact ⟨columns, fun wrong => nomatch wrong⟩)
    (fun landed within => by
      rw [clauseLandings_refused] at within
      cases within) left
  have word : Line.Steady dialect.table.quotedSpans
      (Line.ofText (if select.distinct then "SELECT DISTINCT " else "SELECT ") ++ begun) := by
    split <;> exact quoting.steady_after _ (by decide) (by decide) wholeColumns
  have intoTable : Line.Steady dialect.table.quotedSpans
      (Line.ofText ((into.map (" INTO " ++ ·)).getD "")) := by
    cases into with
    | none => exact quoting.steady_plain (by decide)
    | some table => exact (quoting.steady_plain (by decide)).join (target table rfl)
  have plain : ∀ entry ∈ select.clauses, Plain (" " ++ entry.1 ++ " ").toList := by
    simp only [Select.clauses, List.forall_mem_cons, List.not_mem_nil, false_implies,
      implies_true, and_true]
    decide
  have clausesSteady := quoting.steady_clauses plain named clauses safe bindsClauses
  have together := (word.append intoTable).append clausesSteady
  rw [List.append_assoc, List.append_assoc] at together
  exact together

omit quoting in
/-- The digits of an integer are no quotes. -/
theorem plain_toString (number : Int) : Plain (toString number).toList := by
  have digits : ∀ natural : Nat, Plain natural.repr.toList := by
    intro natural character member quote
    rw [Nat.repr, String.toList_ofList] at member
    have digit := Nat.isDigit_of_mem_toDigits (by decide) (by decide) member
    have none : ∀ other ∈ '?' :: quoteCharacters, other.isDigit = false :=
      forall_quoteCharacters.mpr (by decide)
    rw [none character quote] at digit
    cases digit
  cases number with
  | ofNat natural => exact digits natural
  | negSucc natural =>
    intro character member
    change character ∈ ("-" ++ (natural + 1).repr).toList at member
    rw [String.toList_append, List.mem_append] at member
    rcases member with sign | digit
    · exact (by decide : Plain "-".toList) character sign
    · exact digits (natural + 1) character digit

/-- What is written for a limit can follow anything. -/
theorem steady_limit (offset count : Int) :
    Line.Steady dialect.table.quotedSpans (Line.ofText (standardLimit offset count)) := by
  have counted := Line.Steady.join (quoting.steady_plain (by decide : Plain " LIMIT ".toList))
    (quoting.steady_plain (plain_toString count))
  unfold standardLimit
  split
  · exact counted
  · exact Line.Steady.join (Line.Steady.join counted (quoting.steady_plain (by decide)))
      (quoting.steady_plain (plain_toString offset))

/-- A written select can follow anything. -/
theorem steady_select {nested : Bool} {into : Option String} {select : Select}
    {written : Line × Option RowFilter}
    (named : ∀ digits line, namedLine lines digits = .ok line →
      Line.Whole dialect.table.quotedSpans line)
    (target : ∀ table ∈ into, Line.Steady dialect.table.quotedSpans (Line.ofText table))
    (closed : select.TextsClosed dialect)
    (ended : assembledLine dialect nested into lines select = .ok written) :
    Line.Steady dialect.table.quotedSpans written.1 := by
  obtain ⟨first, second, body, numbers, same, binds, -, -, rfl⟩ := assembledLine_ok.mp ended
  have safe : NamesSafe dialect (select.clauses.flatMap fun (_, use, text) =>
      clauseLandings dialect use true text) first := by
    have names := closed.names
    have counted := binds.length_eq
    rw [landings_items] at counted
    rw [same, Select.landings] at names
    exact ((met_append counted).mp names).1
  have steady := quoting.steady_items named target closed.columns closed.clauses safe binds
  unfold limited
  split
  · exact steady
  · split
    · exact steady.append (quoting.steady_limit _ _)
    · split <;> exact steady

omit quoting in
/-- The subqueries that tokens name are whole when all subqueries can follow anything. -/
theorem whole_named {selects : List Select}
    (steady : ∀ nested ∈ selects, ∀ line, nestedLine dialect nested = .ok line →
      line.Steady dialect.table.quotedSpans) (digits : List Char) (line : Line)
    (named : namedLine (nestedLines dialect selects) digits = .ok line) :
    line.Whole dialect.table.quotedSpans := by
  obtain ⟨index, -, found⟩ := namedLine_ok.mp named
  rw [nestedLines_eq_map, List.getElem?_map, Option.map_eq_some_iff] at found
  obtain ⟨nested, within, same⟩ := found
  exact (steady nested (List.mem_of_getElem? within) line same).whole

/-- A closed select that is written as a subquery can follow anything.

Proof: by induction on the select. A token is replaced by a line that is whole by induction, since
the line it names is that of one of the subqueries. -/
theorem steady_nested (select : Select) (closed : select.Closed dialect) (line : Line)
    (ended : nestedLine dialect select = .ok line) : line.Steady dialect.table.quotedSpans := by
  induction select using Select.induction generalizing line with
  | step select inductionHypothesis =>
    obtain ⟨texts, nested⟩ := (select.closed_iff dialect).mp closed
    rw [nestedLine_eq] at ended
    obtain ⟨written, assembled, rfl⟩ := Reporting.map_ok.mp ended
    refine quoting.steady_select (whole_named fun subquery member => ?_) (fun table wrong => ?_)
      texts assembled
    · exact inductionHypothesis subquery member (nested subquery member)
    · cases wrong

/-- A closed select can follow anything, whatever its rows go into. -/
theorem steady_selected {nested : Bool} {into : Option String} {select : Select}
    {written : Line × Option RowFilter} (closed : select.Closed dialect)
    (target : ∀ table ∈ into, (Line.ofText table).Steady dialect.table.quotedSpans)
    (ended : selectLine dialect nested into select = .ok written) :
    written.1.Steady dialect.table.quotedSpans := by
  obtain ⟨texts, closedNested⟩ := (select.closed_iff dialect).mp closed
  refine quoting.steady_select (whole_named fun subquery member line known => ?_) target texts ended
  exact quoting.steady_nested subquery (closedNested subquery member) line known

end Quoting

end PortableSql
