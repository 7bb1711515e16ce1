import PortableSql.Proofs.Naming
import PortableSql.Proofs.Running
import PortableSql.Server.Script

/-!
# Tables that are made anew

SQLite drops a column by making the table anew. The columns of the table are read from the server,
which is the only statement that is sent before the plan. The plan copies the other columns to a new
table, in their order, drops the old one and gives its name to the new one.

The names of the columns are quoted as names that a caller writes, which are cut at dots and
trimmed. So a column is copied under its own name exactly if this has no dot in it and no white
space around it.
-/

namespace PortableSql

/-! ## Lists of names -/

namespace Sql

variable {opening closing : Char}

/-- Reading the parts of a name takes its quotes at least. -/
theorem readParts_length {characters following : List Char} {parts : List (List Char)}
    (found : readParts opening closing characters = some (parts, following)) :
    following.length < characters.length := by
  fun_induction readParts opening closing characters generalizing parts with
  | case1 => cases found
  | case2 => cases found
  | case3 rest part others read inductionHypothesis =>
    obtain ⟨deeper, known⟩ := following_of_map found
    have shorter := inductionHypothesis known
    have quoted := readQuoted_length read
    simp only [List.length_cons] at quoted ⊢
    omega
  | case4 rest part last undotted read =>
    cases found
    have quoted := readQuoted_length read
    simp only [List.length_cons]
    omega
  | case5 => cases found

/-- Reads names with commas between them, each part by part. What stands behind the last name is
left. -/
def readNames (opening closing : Char) (characters : List Char) :
    Option (List (List (List Char)) × List Char) :=
  match _found : readParts opening closing characters with
  | none => none
  | some (parts, ',' :: ' ' :: others) =>
    (readNames opening closing others).map (Prod.map (parts :: ·) id)
  | some (parts, following) => some ([parts], following)
termination_by characters.length
decreasing_by
  have shorter := readParts_length _found
  simp only [List.length_cons] at shorter
  omega

/-- The last name ends where no comma follows. -/
theorem readNames_last {characters following : List Char} {parts : List (List Char)}
    (read : readParts opening closing characters = some (parts, following))
    (single : following.head? ≠ some ',') :
    readNames opening closing characters = some ([parts], following) := by
  rw [readNames]
  split
  · rename_i missing
    rw [read] at missing
    cases missing
  · rename_i found
    rw [read] at found
    cases found
    simp at single
  · rename_i found
    rw [read] at found
    cases found
    rfl

/-- Where a comma follows, another name does. -/
theorem readNames_more {characters others : List Char} {parts : List (List Char)}
    (read : readParts opening closing characters = some (parts, ',' :: ' ' :: others)) :
    readNames opening closing characters =
      (readNames opening closing others).map (Prod.map (parts :: ·) id) := by
  rw [readNames]
  split
  · rename_i missing
    rw [read] at missing
    cases missing
  · rename_i found
    rw [read] at found
    cases found
    rfl
  · rename_i plain found
    rw [read] at found
    cases found
    exact absurd rfl (plain _)

/-- Names that are read one by one are read from their list. -/
theorem readNames_listed (separate : closing ≠ ',') {texts : List (List Char)}
    {names : List (List (List Char))} (each : List.Forall₂ (Reads opening closing) texts names)
    (full : names ≠ []) {following : List Char} (apart : following.head? ≠ some closing)
    (undotted : following.head? ≠ some '.') (single : following.head? ≠ some ',') :
    readNames opening closing (List.intercalate [',', ' '] texts ++ following) =
      some (names, following) := by
  induction each with
  | nil => exact absurd rfl full
  | @cons text parts others more head tail inductionHypothesis =>
    have listed : ∀ behind, readParts opening closing (text ++ ',' :: ' ' :: behind) =
        some (parts, ',' :: ' ' :: behind) :=
      fun behind => head _ (by simpa using separate.symm) (by simp)
    cases tail with
    | nil =>
      rw [List.intercalate_singleton]
      exact readNames_last (head following apart undotted) single
    | cons next rest =>
      have behind := inductionHypothesis (List.cons_ne_nil _ _)
      rw [List.intercalate_cons_cons, List.append_assoc, List.append_assoc, List.cons_append,
        List.singleton_append, readNames_more (listed _), behind]
      rfl

end Sql

namespace Family

/-- Quoted names are read from their list. -/
theorem readNames_quotedNames (family : Family) {names : List String} (full : names ≠ []) :
    Sql.readNames family.quote.1 family.quote.2 (family.dialect.quotedNames names).toList =
      some (names.map nameParts, []) := by
  have each : List.Forall₂ (Sql.Reads family.quote.1 family.quote.2)
      (names.map fun name => (family.dialect.quotedName name).toList) (names.map nameParts) := by
    rw [List.forall₂_map_left_iff, List.forall₂_map_right_iff, List.forall₂_same]
    exact fun name _ => family.reads_quotedName name
  have written : (family.dialect.quotedNames names).toList =
      List.intercalate [',', ' '] (names.map fun name => (family.dialect.quotedName name).toList) ++
        [] := by
    rw [Dialect.quotedNames, Text.listed, String.toList_intercalate, List.map_map, List.append_nil]
    rfl
  rw [written]
  exact Sql.readNames_listed (by cases family <;> decide) each (by simpa using full) (by simp)
    (by simp) (by simp)

end Family

/-! ## The plan -/

/-- The name under which a table is made anew. -/
def temporaryName (table : String) : String :=
  ".".intercalate (qualifiers table ++ ["_sqlcommand_" ++ Text.lastPart table ++ "_tmp"])

/-- The statements that make a table anew from the columns in a list. -/
def rebuildStatements (table temporary list base : String) : List Statement :=
  [{ sql := "CREATE TABLE " ++ temporary ++ " AS SELECT " ++ list ++ " FROM " ++ table },
   { sql := "DROP TABLE " ++ table },
   { sql := "ALTER TABLE " ++ temporary ++ " RENAME TO " ++ base }]

/-- The rows of a table description tell these names of columns. -/
def Describes (rows : List Row) (names : List String) : Prop :=
  rows.map (·.lookup "name") = names.map (some ∘ Value.text)

/-- The columns that remain, in their order. -/
def DropColumn.kept (removal : DropColumn) (names : List String) : List String :=
  names.filter (· ≠ removal.name)

section Compiling

open Reporting

variable {dialect : Dialect} {removal : DropColumn} {names : List String}

/-- The columns that a table description tells are known by their names. -/
theorem describedColumns_of_yields {rows : List Row} (describes : Describes rows names)
    {columns : List Value} (yields : (describedColumns rows).Yields columns) :
    columns = names.map .text := by
  have each := yields_each yields
  clear yields
  unfold Describes at describes
  induction each generalizing names with
  | nil =>
    rw [List.map_nil, eq_comm, List.map_eq_nil_iff] at describes
    rw [describes]
    rfl
  | @cons row column rows columns head tail inductionHypothesis =>
    cases names with
    | nil => cases describes
    | cons name names =>
      rw [List.map_cons, List.map_cons, List.cons.injEq] at describes
      obtain ⟨known, others⟩ := describes
      rw [known] at head
      rw [List.map_cons, ← inductionHypothesis others, yields_pure.mp head]

/-- Texts are quoted as the names that they are. -/
theorem quotedValues_of_yields {quoted : List String} {what : String}
    (yields : ((names.map Value.text).mapM
      (quoteNameValue dialect.table.identifierQuote what)).Yields quoted) :
    quoted = names.map dialect.quotedName := by
  rw [List.mapM_map] at yields
  have named : (dialect.quoteIdentifiers names what).Yields quoted := yields
  exact Dialect.quotedNames_of_yields named

/-- The columns that are copied are those that remain. -/
theorem filter_isText :
    (names.map Value.text).filter (!isText removal.name ·) =
      (removal.kept names).map Value.text := by
  rw [List.filter_map, DropColumn.kept]
  refine congrArg _ (List.filter_congr fun name _ => ?_)
  simp [isText]

/-- A table that is made anew had the column and others too, which the plan copies. -/
theorem rebuildWithout_of_yields {plan : Plan}
    (yields : (rebuildWithout dialect removal (names.map .text)).Yields plan) :
    removal.name ∈ names ∧ removal.kept names ≠ [] ∧
      plan.statements = rebuildStatements (dialect.quotedName removal.table)
        (dialect.quotedName (temporaryName removal.table))
        (dialect.quotedNames (removal.kept names))
        (dialect.quotedName (Text.lastPart removal.table)) := by
  unfold rebuildWithout at yields
  dsimp only at yields
  rw [filter_isText] at yields
  split at yields
  case isTrue =>
    obtain ⟨_, refused, -⟩ := yields_bind yields
    exact absurd refused not_yields_raise
  case isFalse known =>
    split at yields
    case isTrue =>
      obtain ⟨_, refused, -⟩ := yields_bind yields
      exact absurd refused not_yields_raise
    case isFalse full =>
      obtain ⟨_, -, yields⟩ := yields_bind yields
      obtain ⟨table, tableNamed, yields⟩ := yields_bind yields
      obtain ⟨rebuilt, rebuiltNamed, yields⟩ := yields_bind yields
      obtain ⟨quoted, columnsNamed, yields⟩ := yields_bind yields
      obtain ⟨final, finalNamed, yields⟩ := yields_bind yields
      have member : removal.name ∈ names := by simpa [isText] using known
      have some : removal.kept names ≠ [] := by simpa using full
      refine ⟨member, some, ?_⟩
      rw [yields_pure.mp yields, Dialect.quotedName_of_yields tableNamed,
        Dialect.quotedName_of_yields rebuiltNamed, quotedValues_of_yields columnsNamed,
        Dialect.quotedName_of_yields finalNamed]
      rfl

end Compiling

/-- The names in the statements that make a table anew, as they are read by the rules of the
dialect: the columns that remain, the table and the new one beside it, and the last part of its
name. -/
structure Rebuilds (removal : DropColumn) (names : List String) (plan : Plan)
    (table temporary list base : String) : Prop where
  statements : plan.statements = rebuildStatements table temporary list base
  columnsRead : Sql.readNames '"' '"' list.toList =
    some ((removal.kept names).map nameParts, [])
  tableRead : Sql.readParts '"' '"' table.toList = some (nameParts removal.table, [])
  temporaryRead : Sql.readParts '"' '"' temporary.toList =
    some ((nameParts removal.table).dropLast ++
      [("_sqlcommand_" ++ Text.lastPart removal.table ++ "_tmp").toList], [])
  apart : temporary ≠ table
  baseRead : Sql.readParts '"' '"' base.toList =
    some ([(nameParts removal.table).getLast (nameParts_ne_nil removal.table)], [])

theorem nameParts_temporaryName (table : String) :
    nameParts (temporaryName table) = (nameParts table).dropLast ++
      [("_sqlcommand_" ++ Text.lastPart table ++ "_tmp").toList] := by
  have undotted : '.' ∉ ("_sqlcommand_" ++ Text.lastPart table ++ "_tmp").toList := by
    simp [dot_notMem_lastPart]
  have tight : Text.Tight ("_sqlcommand_" ++ Text.lastPart table ++ "_tmp").toList := by
    rw [String.toList_append, String.toList_append]
    refine ⟨fun character member => ?_, fun character member => ?_⟩
    · cases member
      rfl
    · rw [List.getLast?_append_of_ne_nil _ (by decide)] at member
      cases member
      rfl
  rw [temporaryName, nameParts_qualified table undotted, Text.trim_eq_self_iff.mpr tight]

/-- The new table has another name than the old one: a longer one. -/
theorem nameParts_temporaryName_ne (table : String) :
    nameParts (temporaryName table) ≠ nameParts table := by
  intro same
  have last := congrArg List.getLast? same
  rw [nameParts_temporaryName, List.getLast?_concat,
    List.getLast?_eq_some_getLast (nameParts_ne_nil table), ← trim_lastPart,
    Option.some.injEq] at last
  have lengths := congrArg List.length last
  have shorter := (Text.trim_sublist (Text.lastPart table).toList).length_le
  simp only [String.toList_append, List.length_append] at lengths
  have some : 0 < "_tmp".toList.length := by decide
  omega

/-- What the statements of a table that is made anew name. -/
theorem rebuilds_of_yields {removal : DropColumn} {names : List String} {plan : Plan}
    (yields : (rebuildWithout Family.sqlite.dialect removal (names.map .text)).Yields plan) :
    ∃ temporary list base, Rebuilds removal names plan
      (Family.sqlite.dialect.quotedName removal.table) temporary list base := by
  obtain ⟨-, remaining, statements⟩ := rebuildWithout_of_yields yields
  have read : ∀ name, Sql.readParts '"' '"' (Family.sqlite.dialect.quotedName name).toList =
      some (nameParts name, []) := Family.sqlite.readParts_quotedName
  refine ⟨_, _, _, statements, ?_, read _, ?_, ?_, ?_⟩
  · exact Family.sqlite.readNames_quotedNames remaining
  · rw [← nameParts_temporaryName]
    exact read _
  · intro same
    have parts := read (temporaryName removal.table)
    rw [same, read removal.table, Option.some.injEq, Prod.mk.injEq] at parts
    exact nameParts_temporaryName_ne removal.table parts.1.symm
  · rw [← nameParts_lastPart]
    exact read _

/-! ## Reading the table first -/

/-- The statement that reads the columns of a table. -/
def tableReading (table : String) : Statement where
  sql := "PRAGMA table_info(" ++ table ++ ")"

/-- Makes a table anew without a column, from the description of the table. -/
def rebuildDescribed (dialect : Dialect) (removal : DropColumn) (rows : List Row) :
    Reporting Plan := do
  rebuildWithout dialect removal (← describedColumns rows)

/-- How the removal of a column is compiled when its table was read. -/
def resumeRemoval (dialect : Dialect) (context : Context) (removal : DropColumn)
    (rows : List Row) : Reporting Plan := do
  completePlan dialect context .dropColumn (← rebuildDescribed dialect removal rows)

/-- On SQLite the table is read before the removal of a column is compiled. -/
theorem compile_dropColumn_gives {context : Context} (live : context.live = true)
    {removal : DropColumn} (unbound : removal.args = []) {table : String}
    (quoted : Family.sqlite.dialect.quoted "table" removal.table = .ok table) :
    (compile Family.sqlite.dialect context (.dropColumn removal)).Gives
      (.ok (.reading (tableReading table)
        (resumeRemoval Family.sqlite.dialect context removal))) := by
  have allowed : (refuseArgs .dropColumn removal.args).Gives (.ok ()) := by
    rw [unbound]
    exact Reporting.gives_pure ()
  have named := Family.sqlite.dialect.gives_quoteIdentifier removal.table "table"
  rw [quoted] at named
  have body : (compileBody Family.sqlite.dialect context (.dropColumn removal)).Gives
      (.ok (.reading (tableReading table) (rebuildDescribed Family.sqlite.dialect removal))) := by
    change Reporting.Gives (compileDropColumn Family.sqlite.dialect context.live removal)
      (.ok () >>= fun _ => .ok table >>= fun table =>
        .ok (.reading (tableReading table) (rebuildDescribed Family.sqlite.dialect removal)))
    rw [live]
    refine allowed.bind fun _ _ => ?_
    exact named.bind fun _ _ => Reporting.gives_pure _
  let read := Compilation.reading (tableReading table)
    (rebuildDescribed Family.sqlite.dialect removal)
  let resumed := Compilation.reading (tableReading table)
    (resumeRemoval Family.sqlite.dialect context removal)
  change (compile Family.sqlite.dialect context (.dropColumn removal)).Gives
    ((.ok read : Except Failure Compilation) >>= fun _ => .ok resumed)
  refine body.bind fun compilation same => ?_
  cases same
  exact Reporting.gives_pure _

/-- What is resumed makes the table anew. -/
theorem resumeRemoval_rebuilds {context : Context} {removal : DropColumn} {rows : List Row}
    {names : List String} (describes : Describes rows names) {plan : Plan}
    (yields : (resumeRemoval Family.sqlite.dialect context removal rows).Yields plan) :
    ∃ temporary list base, Rebuilds removal names plan
      (Family.sqlite.dialect.quotedName removal.table) temporary list base := by
  obtain ⟨rebuilt, yields, completed⟩ := Reporting.yields_bind yields
  obtain ⟨columns, described, yields⟩ := Reporting.yields_bind yields
  obtain rfl := describedColumns_of_yields describes described
  obtain ⟨temporary, list, base, rebuilds⟩ := rebuilds_of_yields yields
  obtain ⟨_, -, completed⟩ := Reporting.yields_bind completed
  rw [Reporting.yields_pure.mp completed]
  exact ⟨temporary, list, base, { rebuilds with statements := rebuilds.statements }⟩

namespace Session

open Acting

variable {σ : Type} {session : Session} {number engines : Nat} {removal : DropColumn}
  {table : String}

/-- Removing a column is compiled from the rows that the active connection fetches for the
description of the table. -/
theorem compileLive_dropColumn (server : Server σ)
    (sqlite : session.dialect = Family.sqlite.dialect) (unbound : removal.args = [])
    (quoted : Family.sqlite.dialect.quoted "table" removal.table = .ok table) (world : World σ) :
    ∃ records, compileLive server (.dropColumn removal) (session, world) =
      (onActive (Slot.onConnection (Connection.fetch server (tableReading table))) >>= fun rows =>
        report (resumeRemoval session.dialect session.context removal rows))
          (session, { world with records }) := by
  have live : session.context.live = true := rfl
  have compiled := compile_dropColumn_gives live unbound quoted
  rw [← sqlite] at compiled
  refine ⟨((compile session.dialect session.context (.dropColumn removal)).run.run
    world.records).2, ?_⟩
  unfold compileLive
  rw [this_bind_apply]
  change (report (compile session.dialect session.context _) >>= fun compilation => _)
    (session, world) = _
  rw [bind_apply, report_apply, compiled world.records]

/-- Nothing but the reading of the table is sent while the removal of a column is compiled. -/
theorem compileLive_dropColumn_sends (isOn : session.active.connection.On number)
    (spoken : session.active.connection.dialect = session.dialect) (server : Server σ)
    (sqlite : session.dialect = Family.sqlite.dialect) (unbound : removal.args = [])
    (quoted : Family.sqlite.dialect.quoted "table" removal.table = .ok table) :
    (compileLive server (.dropColumn removal)).Tells session engines
      (Sends number session.dialect [tableReading table] session engines) := by
  have fetching : (onActive (Slot.onConnection
      (Connection.fetch server (tableReading table)))).Tells session engines
      (Sends number session.dialect [tableReading table] session engines) := by
    rw [← spoken]
    exact onActive_sends (isOn.fetch server (tableReading table))
  have resumed : (onActive (Slot.onConnection
      (Connection.fetch server (tableReading table))) >>= fun rows =>
        report (resumeRemoval session.dialect session.context removal rows)).Tells session engines
      (Sends number session.dialect [tableReading table] session engines) :=
    fetching.sendsLast fun _ => report_sends
  intro world same
  obtain ⟨records, ran⟩ := compileLive_dropColumn server sqlite unbound quoted world
  obtain ⟨outcome, after, added, later, ended, told⟩ := resumed { world with records } same
  exact ⟨outcome, after, added, later, ran.trans ended, told⟩

end Session

/-- A name is the only part of itself in a list of names exactly if no name has a dot in it or white
space around it. -/
theorem map_nameParts_eq {names : List String} :
    names.map nameParts = names.map (fun name => [name.toList]) ↔
      ∀ name ∈ names, '.' ∉ name.toList ∧ Text.Tight name.toList := by
  simp only [List.map_inj_left, nameParts_eq_singleton]

/-- Removing a column from a table of SQLite sends one statement before the plan, the one that reads
the columns of the table. For every list of names that it may answer, a plan that results makes the
table anew: it copies the columns that remain, in their order, to a table with the same qualifiers
and another name, drops the old table, and gives the last part of its name to the new one. The list
of the columns names each of them as it is exactly if none has a dot in its name or white space
around it. Any other name is copied as if a caller had written it, cut at its dots and without the
white space around its parts.

Proof: the outcome of the compilation is known up to the rows, and with them the texts of the plan.
Reading quoted names gives their parts, and a name is its only part unless it is cut or trimmed. -/
theorem columnRemoval_rebuilds {σ : Type} (server : Server σ) {session : Session}
    {number engines : Nat} (isOn : session.active.connection.On number)
    (spoken : session.active.connection.dialect = session.dialect)
    (sqlite : session.dialect = Family.sqlite.dialect) {removal : DropColumn}
    (unbound : removal.args = []) {table : String}
    (quoted : Family.sqlite.dialect.quoted "table" removal.table = .ok table) :
    (∀ world : World σ, ∃ records,
      Session.compileLive server (.dropColumn removal) (session, world) =
        (Session.onActive (Slot.onConnection
            (Connection.fetch server (tableReading table))) >>= fun rows =>
          Acting.report (resumeRemoval session.dialect session.context removal rows))
            (session, { world with records })) ∧
    (Session.compileLive server (.dropColumn removal)).Tells session engines
      (Acting.Sends number session.dialect [tableReading table] session engines) ∧
    ∀ rows names, Describes rows names → ∀ plan,
      (resumeRemoval session.dialect session.context removal rows).Yields plan →
      ∃ temporary list base, Rebuilds removal names plan table temporary list base ∧
        (Sql.readNames '"' '"' list.toList =
            some ((removal.kept names).map fun name => [name.toList], []) ↔
          ∀ name ∈ removal.kept names, '.' ∉ name.toList ∧ Text.Tight name.toList) := by
  refine ⟨Session.compileLive_dropColumn server sqlite unbound quoted,
    Session.compileLive_dropColumn_sends isOn spoken server sqlite unbound quoted, ?_⟩
  intro rows names describes plan yields
  rw [sqlite] at yields
  obtain rfl : table = Family.sqlite.dialect.quotedName removal.table :=
    Dialect.quotedName_of_yields ⟨[], quoted⟩
  obtain ⟨temporary, list, base, rebuilds⟩ := resumeRemoval_rebuilds describes yields
  refine ⟨temporary, list, base, rebuilds, ?_⟩
  rw [rebuilds.columnsRead, Option.some.injEq, Prod.mk.injEq, and_iff_left rfl]
  exact map_nameParts_eq

/-- The note is removed from a table of items. -/
def noteRemoval : DropColumn where
  table := "main.items"
  name := "note"

/-- The columns of the items. -/
def itemRows : List Row := ["id", "a.b", "note"].map fun name => [("name", .text name)]

/-- The statements that make the table of items anew. -/
def itemTexts : List String :=
  ["CREATE TABLE \"main\".\"_sqlcommand_items_tmp\" AS SELECT \"id\", \"a\".\"b\" " ++
    "FROM \"main\".\"items\"",
   "DROP TABLE \"main\".\"items\"",
   "ALTER TABLE \"main\".\"_sqlcommand_items_tmp\" RENAME TO \"items\""]

/-- A column whose name has a dot in it is not copied under this name. -/
theorem dottedColumn_cut :
    let session : Session := {
      dialect := Family.sqlite.dialect
      primary := {
        name := "primary"
        connection := {
          settings := { url := "sqlite://p/" }
          dialect := Family.sqlite.dialect
          engine? := some 0
          isOpen := true } } }
    (Session.compileLive Server.scripted (.dropColumn noteRemoval)).Tells session 1
      (Acting.Sends 0 session.dialect [tableReading "\"main\".\"items\""] session 1) ∧
    ∃ plan temporary list base,
      (resumeRemoval session.dialect session.context noteRemoval itemRows).Yields plan ∧
      plan.texts = itemTexts ∧
      Rebuilds noteRemoval ["id", "a.b", "note"] plan "\"main\".\"items\"" temporary list base ∧
      Sql.readNames '"' '"' list.toList ≠ some ([["id".toList], ["a.b".toList]], []) := by
  intro session
  have isOn : session.active.connection.On 0 := ⟨rfl, rfl⟩
  have quoted : Family.sqlite.dialect.quoted "table" noteRemoval.table =
      .ok "\"main\".\"items\"" := Reporting.toOption_eq_some.mp (by decide +kernel)
  have describes : Describes itemRows ["id", "a.b", "note"] := rfl
  obtain ⟨-, sends, rebuilt⟩ := columnRemoval_rebuilds Server.scripted isOn rfl rfl rfl quoted
  have compiled : (resumeRemoval session.dialect session.context noteRemoval
      itemRows).result.toOption.map Plan.texts = some itemTexts := by
    decide +kernel
  obtain ⟨plan, ended, texts⟩ := Option.map_eq_some_iff.mp compiled
  have yields : (resumeRemoval session.dialect session.context noteRemoval itemRows).Yields plan :=
    ⟨[], Reporting.toOption_eq_some.mp ended⟩
  obtain ⟨temporary, list, base, rebuilds, single⟩ := rebuilt _ _ describes plan yields
  refine ⟨sends, plan, temporary, list, base, yields, texts, rebuilds, fun whole => ?_⟩
  obtain ⟨undotted, -⟩ := single.mp whole "a.b" (by decide)
  exact undotted (by decide)

end PortableSql
