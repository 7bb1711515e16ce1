import Mathlib.Data.List.TakeWhile
import PortableSql.Proofs.Cutting
import PortableSql.Proofs.Failing

/-!
# When selects compile

A select compiles exactly when nothing is wrong with it or with a subquery that one of its tokens
names: its columns have no placeholders, there is one argument for each placeholder of its other
clauses and of its limit, every argument is accepted where it lands, the numbers written in its
limit can be read, its tokens name subqueries that it has, and the numbers that are written of its
limit have few enough digits. Subqueries without a token do not matter. Where nothing but numbers of
arguments is wrong, compiling fails by a mismatch.
-/

namespace PortableSql

/-- Where arguments are accepted, what is written fails by a mismatch only. -/
theorem mismatch_excuses (dialect : Dialect) :
    Excuses dialect (Accepted dialect) Failure.Mismatch where
  missing _ _ _ missing := Arguments.mismatch_of_take missing
  surplus _ _ excess := Arguments.mismatch_of_ensureConsumed excess
  name what value accepted := by
    obtain ⟨quoted, known⟩ := accepted
    rw [Dialect.quotedValue_ok_of known]
    exact failsBy_ok quoted
  limit value accepted := by
    obtain ⟨number, known⟩ := (limitArgument_ok_iff value).mpr accepted
    rw [known]
    exact failsBy_ok number

/-- A limit whose numbers can be read does not fail by them. -/
theorem ReadableLimit.failsBy {limit : Option Limit} (readable : ReadableLimit limit)
    (allowed : Failure → Prop) : LimitFailsBy allowed limit := by
  match limit, readable with
  | none, _ | some (.count _), _ => trivial
  | some (.written limit), readable =>
    intro part member mark
    obtain ⟨number, known⟩ := readable part member mark
    rw [known]
    exact failsBy_ok number

/-- The digits of a token. -/
def Sql.Piece.token? : Sql.Piece → Option (List Char)
  | subquery digits => some digits
  | span _ | placeholder | other _ => none

namespace Select

/-- The pieces of all clauses of a select. -/
def pieces (dialect : Dialect) (select : Select) : List Sql.Piece :=
  (select.columns.joined :: select.clauses.map fun clause => clause.2.2.getD "").flatMap fun text =>
    Sql.pieces {} dialect.table.quotedSpans text.toList

/-- The digits of all tokens of a select. -/
def tokens (dialect : Dialect) (select : Select) : List (List Char) :=
  (select.pieces dialect).filterMap Sql.Piece.token?

theorem mem_tokens {dialect : Dialect} {select : Select} {digits : List Char} :
    digits ∈ select.tokens dialect ↔ .subquery digits ∈ select.pieces dialect := by
  rw [tokens, List.mem_filterMap]
  constructor
  · rintro ⟨piece, member, same⟩
    cases piece with
    | subquery other =>
      cases same
      exact member
    | _ => cases same
  · exact fun member => ⟨_, member, rfl⟩

/-- A token of the select names the subquery. -/
def Names (dialect : Dialect) (select nested : Select) : Prop :=
  ∃ digits index, digits ∈ select.tokens dialect ∧ Sql.tokenIndex digits = .ok index ∧
    select.subqueries[index]? = some nested

/-- Nothing is wrong with a select itself; with `counted`, not even the number of arguments. -/
structure Compilable (dialect : Dialect) (counted : Bool) (select : Select) : Prop where
  columns : .placeholder ∉
    Sql.pieces {} dialect.table.quotedSpans select.columns.joined.toList
  count : counted = true → select.args.length = (select.landings dialect).length
  accepted : Met (Accepted dialect) (select.landings dialect) select.args
  limit : ReadableLimit select.limit
  tokens : ∀ digits, digits ∈ select.tokens dialect →
    ∃ index, Sql.tokenIndex digits = .ok index ∧ index < select.subqueries.length

/-- Nothing is wrong with a select and with the subqueries that tokens name. -/
inductive Compiles (dialect : Dialect) (counted : Bool) : Select → Prop
  | intro {select} : select.Compilable dialect counted →
    (∀ nested, select.Names dialect nested → nested.Compiles dialect counted) →
    Compiles dialect counted select

/-- The offset and the count of a select, whose arguments stand behind those of its clauses. -/
def rowRange (dialect : Dialect) (select : Select) : Option (Int × Int) :=
  limitAt (select.clauses.flatMap fun (_, use, text) => clauseLandings dialect use true text).length
    select.args select.limit

/-- The numbers that are written of the limits of a select and of the subqueries that tokens name
have few enough digits. -/
inductive LimitsWritable (dialect : Dialect) : Bool → Select → Prop
  | intro {nested select} : LimitWritable dialect nested (select.rowRange dialect) →
    (∀ subquery, select.Names dialect subquery → subquery.LimitsWritable dialect true) →
    LimitsWritable dialect nested select

/-- The numbers of a select are read behind the arguments of its clauses. -/
theorem rowRange_eq {dialect : Dialect} {lines : List (Except Failure Line)}
    {into : Option String} {select : Select} {clauses limit others : List Value} {body : Line}
    {numbers : Option (Int × Int)} (given : select.args = clauses ++ (limit ++ others))
    (binds : Binds dialect lines (select.items dialect into) clauses body)
    (limits : LimitBinds select.limit limit numbers) : select.rowRange dialect = numbers := by
  have counted := binds.length_eq
  rw [landings_items] at counted
  rw [rowRange, ← counted, given]
  exact limits.limitAt_eq clauses others

end Select

section Selects

variable (dialect : Dialect) {lines : List (Except Failure Line)}

/-- What holds of all items of a clause holds of its pieces. -/
theorem forall_clauseItems {clause : String} {use : PlaceholderUse} {text : String}
    {property : Item → Prop} (plain : ∀ characters, property (.text characters)) :
    (∀ item ∈ clauseItems dialect clause use true text, property item) ↔
      (.placeholder ∈ Sql.pieces {} dialect.table.quotedSpans text.toList →
        property (.placeholder clause use)) ∧
      ∀ digits, .subquery digits ∈ Sql.pieces {} dialect.table.quotedSpans text.toList →
        property (.subquery digits) := by
  constructor
  · intro holds
    exact ⟨fun member => holds _ (List.mem_map_of_mem member),
      fun digits member => holds _ (List.mem_map_of_mem member)⟩
  · rintro ⟨placeholders, tokens⟩ item member
    obtain ⟨piece, found, rfl⟩ := List.mem_map.mp member
    cases piece with
    | span characters => exact plain characters
    | other character => exact plain [character]
    | placeholder => exact placeholders found
    | subquery digits => exact tokens digits found

theorem forall_optionalItems {clause : String} {use : PlaceholderUse} {text : Option String}
    {property : Item → Prop} (plain : ∀ characters, property (.text characters))
    (placeholders : property (.placeholder clause use)) :
    (∀ item ∈ optionalItems dialect clause use true text, property item) ↔
      ∀ digits, .subquery digits ∈ Sql.pieces {} dialect.table.quotedSpans (text.getD "").toList →
        property (.subquery digits) := by
  have clauses : ∀ text : String,
      (∀ item ∈ clauseItems dialect clause use true text, property item) ↔
        ∀ digits, .subquery digits ∈ Sql.pieces {} dialect.table.quotedSpans text.toList →
          property (.subquery digits) := fun text => by
    rw [forall_clauseItems dialect plain, and_iff_right fun _ => placeholders]
  cases text with
  | none => simp [optionalItems, Sql.pieces]
  | some text =>
    by_cases blank : text.isEmpty
    · have empty : text = "" := by simpa using blank
      subst empty
      simp [optionalItems, Sql.pieces]
    · simp only [optionalItems, blank, Bool.false_eq_true, if_false, List.forall_mem_cons, plain,
        true_and, Option.getD_some]
      exact clauses text

/-- What holds of texts and of allowed placeholders holds of all items of a select where it holds of
its tokens and of the placeholders of its columns, if there are any. -/
theorem forall_items {property : Item → Prop} (into : Option String) (select : Select)
    (plain : ∀ characters, property (.text characters))
    (allowed : ∀ clause use, use ≠ .refused → property (.placeholder clause use)) :
    (∀ item ∈ select.items dialect into, property item) ↔
      (.placeholder ∈ Sql.pieces {} dialect.table.quotedSpans select.columns.joined.toList →
        property (.placeholder "columns" .refused)) ∧
      ∀ digits, digits ∈ select.tokens dialect → property (.subquery digits) := by
  have optional : ∀ clause use (text : Option String), use ≠ .refused →
      ((∀ item ∈ optionalItems dialect clause use true text, property item) ↔ ∀ digits,
        .subquery digits ∈ Sql.pieces {} dialect.table.quotedSpans (text.getD "").toList →
          property (.subquery digits)) := fun clause use text other =>
    forall_optionalItems dialect plain (allowed clause use other)
  simp only [Select.mem_tokens, Select.items, Select.clauseItems, Select.clauses, Select.pieces,
    List.flatMap_cons,
    List.flatMap_nil, List.map_cons, List.map_nil, List.forall_mem_cons, List.append_nil,
    plain, true_and, forall_clauseItems dialect plain, List.mem_append, or_imp, forall_and]
  rw [optional "FROM" .name _ (by decide), optional "WHERE" .value _ (by decide),
    optional "GROUP BY" .name _ (by decide), optional "HAVING" .value _ (by decide),
    optional "ORDER BY" .name _ (by decide), and_assoc]

/-- The tokens of a select are the only ones among its items. -/
theorem Select.token_of_item {into : Option String} {select : Select} {digits : List Char}
    (member : .subquery digits ∈ select.items dialect into) : digits ∈ select.tokens dialect := by
  have each : ∀ item ∈ select.items dialect into, ∀ digits, item = .subquery digits →
      digits ∈ select.tokens dialect := by
    refine (forall_items dialect into select ?_ ?_).mpr ⟨?_, ?_⟩
    · rintro characters _ ⟨⟩
    · rintro clause use - _ ⟨⟩
    · rintro - _ ⟨⟩
    · rintro digits member _ ⟨⟩
      exact member
  exact each _ member digits rfl

/-- A select is written exactly when its arguments fit, the numbers of its limit can be read and
written, its columns have no placeholders and its tokens name lines. -/
theorem assembledLine_iff {nested : Bool} {into : Option String} {select : Select} :
    (∃ written, assembledLine dialect nested into lines select = .ok written) ↔
      (.placeholder ∉ Sql.pieces {} dialect.table.quotedSpans select.columns.joined.toList ∧
        ∀ digits, digits ∈ select.tokens dialect →
          ∃ line, namedLine lines digits = .ok line) ∧
      ReadableLimit select.limit ∧ Fits dialect (select.landings dialect) select.args ∧
      LimitWritable dialect nested (select.rowRange dialect) := by
  have allowed : ∀ clause use, use ≠ .refused → (Item.placeholder clause use).Allowed lines := by
    intro clause use other
    cases use with
    | refused => exact absurd rfl other
    | name | value => trivial
  have items := forall_items dialect into select (fun _ => trivial) allowed
  have range : ∀ {clauses limit : List Value} {body : Line} {numbers : Option (Int × Int)},
      select.args = clauses ++ limit →
      Binds dialect lines (select.items dialect into) clauses body →
      LimitBinds select.limit limit numbers → select.rowRange dialect = numbers :=
    fun same binds limits =>
      Select.rowRange_eq (same.trans (by rw [List.append_nil])) binds limits
  rw [Select.landings, fits_append, ← landings_items dialect into]
  constructor
  · rintro ⟨written, ended⟩
    obtain ⟨first, second, body, numbers, same, binds, limits, writable, -⟩ :=
      assembledLine_ok.mp ended
    obtain ⟨allowedItems, fitsFirst⟩ := binds_iff.mp ⟨body, binds⟩
    obtain ⟨readable, fitsSecond⟩ := limitBinds_iff.mp ⟨numbers, limits⟩
    rw [range same binds limits]
    exact ⟨items.mp allowedItems, readable, ⟨first, second, same, fitsFirst, fitsSecond⟩, writable⟩
  · rintro ⟨named, readable, ⟨first, second, same, fitsFirst, fitsSecond⟩, writable⟩
    obtain ⟨body, binds⟩ := binds_iff.mpr ⟨items.mpr named, fitsFirst⟩
    obtain ⟨numbers, limits⟩ := limitBinds_iff.mpr ⟨readable, fitsSecond⟩
    rw [range same binds limits] at writable
    exact ⟨_, assembledLine_ok.mpr
      ⟨first, second, body, numbers, same, binds, limits, writable, rfl⟩⟩

/-- A limit that can be written does not fail. -/
theorem LimitWritable.failsBy {allowed : Failure → Prop} {nested : Bool}
    {numbers : Option (Int × Int)} (writable : LimitWritable dialect nested numbers) (body : Line) :
    FailsBy allowed (writeLimit dialect nested body numbers) := by
  rw [writeLimit_ok.mpr ⟨writable, rfl⟩]
  exact failsBy_ok _

/-- A select fails like its columns, its tokens, its limit and its arguments do. -/
theorem Excuses.assembledLine {accepts : Landing → Value → Prop} {allowed : Failure → Prop}
    (excuses : Excuses dialect accepts allowed) {nested : Bool} {into : Option String}
    {select : Select}
    (columns : .placeholder ∈
      Sql.pieces {} dialect.table.quotedSpans select.columns.joined.toList →
        allowed (placeholderRefusal "columns"))
    (named : ∀ digits, digits ∈ select.tokens dialect → FailsBy allowed (namedLine lines digits))
    (limit : LimitFailsBy allowed select.limit)
    (met : Met accepts (select.landings dialect) select.args)
    (limited : ∀ body,
      FailsBy allowed (writeLimit dialect nested body (select.rowRange dialect))) :
    FailsBy allowed (PortableSql.assembledLine dialect nested into lines select) := by
  have usable : ∀ clause use, use ≠ .refused →
      (Item.placeholder clause use).FailsBy lines allowed := by
    intro clause use other
    cases use with
    | refused => exact absurd rfl other
    | name | value => trivial
  have items := (forall_items dialect into select (fun _ => trivial) usable).mpr ⟨columns, named⟩
  rw [Select.landings, ← landings_items dialect into] at met
  refine excuses.finish ?_
  refine (excuses.writeItems items).runBind (writeItems_exactly _)
    (fun _ _ binds => binds.length_eq) met fun clauses others body same binds rest => ?_
  rw [← List.append_nil (limitLandings select.limit), ← Arguments.left_skip same] at rest
  refine (excuses.readLimit limit).runBind (readLimit_exactly _)
    (fun _ _ limits => limits.length_eq) rest fun consumed more numbers left limits _ => ?_
  rw [Arguments.left_skip same] at left
  have range : select.rowRange dialect = numbers :=
    Select.rowRange_eq (same.trans (congrArg (clauses ++ ·) left)) binds limits
  rw [range] at limited
  have ended : Writing.FailsBy accepts allowed []
      (liftM (writeLimit dialect nested body numbers)) := Writing.failsBy_lift (limited body)
  exact ended _ fun _ wrong => nomatch wrong

/-- A token names the line of a subquery. -/
theorem namedLine_nestedLines {selects : List Select} {digits : List Char} {line : Line} :
    namedLine (nestedLines dialect selects) digits = .ok line ↔
      ∃ index nested, Sql.tokenIndex digits = .ok index ∧ selects[index]? = some nested ∧
        nestedLine dialect nested = .ok line := by
  rw [namedLine_ok, nestedLines_eq_map]
  simp only [List.getElem?_map, Option.map_eq_some_iff]
  constructor
  · rintro ⟨index, known, nested, found, ended⟩
    exact ⟨index, nested, known, found, ended⟩
  · rintro ⟨index, nested, known, found, ended⟩
    exact ⟨index, known, nested, found, ended⟩

/-- A select is written exactly when it compiles and its limits can be written, provided that this
holds of its subqueries. -/
theorem assembledLine_compiles {nested : Bool} {into : Option String} {select : Select}
    (subqueries : ∀ subquery ∈ select.subqueries,
      (∃ line, nestedLine dialect subquery = .ok line) ↔
        subquery.Compiles dialect true ∧ subquery.LimitsWritable dialect true) :
    (∃ written, assembledLine dialect nested into (nestedLines dialect select.subqueries) select =
      .ok written) ↔ select.Compiles dialect true ∧ select.LimitsWritable dialect nested := by
  rw [assembledLine_iff]
  simp only [namedLine_nestedLines]
  constructor
  · rintro ⟨⟨columns, named⟩, readable, fits, writable⟩
    have written : ∀ subquery, select.Names dialect subquery →
        subquery.Compiles dialect true ∧ subquery.LimitsWritable dialect true := by
      rintro subquery ⟨digits, index, member, known, found⟩
      obtain ⟨line, other, nested, same, within, ended⟩ := named digits member
      cases known.symm.trans same
      cases found.symm.trans within
      exact (subqueries subquery (List.mem_of_getElem? found)).mp ⟨line, ended⟩
    refine ⟨.intro ⟨columns, fun _ => fits.counted, fits.met, readable, fun digits member => ?_⟩
      fun subquery names => (written subquery names).1,
      .intro writable fun subquery names => (written subquery names).2⟩
    obtain ⟨-, index, nested, known, found, -⟩ := named digits member
    exact ⟨index, known, (List.getElem?_eq_some_iff.mp found).1⟩
  · rintro ⟨⟨compilable, names⟩, ⟨writable, limits⟩⟩
    refine ⟨⟨compilable.columns, fun digits member => ?_⟩, compilable.limit,
      ⟨compilable.count rfl, compilable.accepted⟩, writable⟩
    obtain ⟨index, known, within⟩ := compilable.tokens digits member
    have found := List.getElem?_eq_getElem within
    have named : select.Names dialect select.subqueries[index] :=
      ⟨digits, index, member, known, found⟩
    obtain ⟨line, ended⟩ := (subqueries _ (List.mem_of_getElem? found)).mpr
      ⟨names _ named, limits _ named⟩
    exact ⟨line, index, _, known, found, ended⟩

/-- A subquery is written exactly when it compiles and its limits can be written. -/
theorem nestedLine_compiles (select : Select) :
    (∃ line, nestedLine dialect select = .ok line) ↔
      select.Compiles dialect true ∧ select.LimitsWritable dialect true := by
  induction select using Select.induction with
  | step select inductionHypothesis =>
    rw [← assembledLine_compiles dialect inductionHypothesis, nestedLine_eq]
    simp only [Reporting.map_ok]
    constructor
    · rintro ⟨line, written, ended, -⟩
      exact ⟨written, ended⟩
    · rintro ⟨written, ended⟩
      exact ⟨_, written, ended, rfl⟩

/-- A token that names a subquery fails like the subquery. -/
theorem namedLine_mismatch {selects : List Select} {digits : List Char} {index : Nat}
    {nested : Select} {failure : Failure} (known : Sql.tokenIndex digits = .ok index)
    (found : selects[index]? = some nested)
    (failed : namedLine (nestedLines dialect selects) digits = .error failure) :
    nestedLine dialect nested = .error failure := by
  have line : (nestedLines dialect selects)[index]? = some (nestedLine dialect nested) := by
    rw [nestedLines_eq_map, List.getElem?_map, found, Option.map_some]
  simpa only [namedLine, known, line] using failed

/-- A select with which nothing but the number of arguments is wrong fails by a mismatch, provided
that its subqueries do. -/
theorem assembledLine_fails {nested : Bool} {into : Option String} {select : Select}
    (compilable : select.Compilable dialect false)
    (writable : LimitWritable dialect nested (select.rowRange dialect))
    (subqueries : ∀ subquery, select.Names dialect subquery → ∀ failure,
      nestedLine dialect subquery = .error failure → failure.Mismatch) {failure : Failure}
    (failed : assembledLine dialect nested into (nestedLines dialect select.subqueries) select =
      .error failure) : failure.Mismatch := by
  refine (mismatch_excuses dialect).assembledLine dialect
    (fun wrong => absurd wrong compilable.columns) (fun digits member other wrong => ?_)
    (compilable.limit.failsBy _) compilable.accepted (writable.failsBy dialect) failure failed
  obtain ⟨index, known, within⟩ := compilable.tokens digits member
  have found := List.getElem?_eq_getElem within
  exact subqueries _ ⟨digits, index, member, known, found⟩ other
    (namedLine_mismatch dialect known found wrong)

/-- A subquery with which nothing but numbers of arguments is wrong fails by a mismatch. -/
theorem nestedLine_mismatch {select : Select} (compiles : select.Compiles dialect false)
    (writable : select.LimitsWritable dialect true) (failure : Failure)
    (failed : nestedLine dialect select = .error failure) : failure.Mismatch := by
  induction compiles generalizing failure with
  | @intro select compilable _ inductionHypothesis =>
    obtain ⟨own, named⟩ := writable
    rw [nestedLine_eq] at failed
    cases ended : assembledLine dialect true none (nestedLines dialect select.subqueries)
        select with
    | ok written =>
      rw [ended] at failed
      cases failed
    | error other =>
      rw [ended] at failed
      cases failed
      exact assembledLine_fails dialect compilable own
        (fun subquery names => inductionHypothesis subquery names (named subquery names)) ended

theorem selectLine_compiles {nested : Bool} {into : Option String} {select : Select} :
    (∃ written, selectLine dialect nested into select = .ok written) ↔
      select.Compiles dialect true ∧ select.LimitsWritable dialect nested :=
  assembledLine_compiles dialect fun subquery _ => nestedLine_compiles dialect subquery

theorem selectLine_mismatch {nested : Bool} {into : Option String} {select : Select}
    (compiles : select.Compiles dialect false) (writable : select.LimitsWritable dialect nested)
    {failure : Failure} (failed : selectLine dialect nested into select = .error failure) :
    failure.Mismatch := by
  obtain ⟨compilable, names⟩ := compiles
  obtain ⟨own, limits⟩ := writable
  exact assembledLine_fails dialect compilable own (fun subquery named =>
    nestedLine_mismatch dialect (names subquery named) (limits subquery named)) failed

end Selects

/-- A select compiles exactly when nothing is wrong with it and with the subqueries that tokens
name, and the numbers that are written of their limits have few enough digits. Where nothing but
numbers of arguments is wrong, it fails by a mismatch. -/
theorem select_compiles_iff (dialect : Dialect) (context : Context) (select : Select) :
    ((∃ plan, (compilePlan dialect (.select select) context).result = .ok plan) ↔
      select.Compiles dialect true ∧ select.LimitsWritable dialect context.nested) ∧
    (select.Compiles dialect false → select.LimitsWritable dialect context.nested → ∀ failure,
      (compilePlan dialect (.select select) context).result = .error failure →
        failure.Mismatch) := by
  have given : (Command.select select).written? dialect context.nested =
      some (writtenQuery dialect context.nested select) := rfl
  rw [(compilePlan_gives dialect context (.select select) given).result_eq, writtenQuery,
    Reporting.map_map]
  constructor
  · have selected : (∃ written, selectLine dialect context.nested none select = .ok written) ↔
        select.Compiles dialect true ∧ select.LimitsWritable dialect context.nested :=
      selectLine_compiles dialect
    simp only [Reporting.map_ok, ← selected]
    constructor
    · rintro ⟨plan, written, ended, -⟩
      exact ⟨written, ended⟩
    · rintro ⟨written, ended⟩
      exact ⟨_, written, ended, rfl⟩
  · intro compiles writable failure failed
    cases ended : selectLine dialect context.nested none select with
    | ok written =>
      rw [ended] at failed
      cases failed
    | error other =>
      rw [ended] at failed
      cases failed
      exact selectLine_mismatch dialect compiles writable ended

/-- A select whose first subquery lacks an argument; no token names the second one. -/
def lackingNotes : Select where
  source := some "?"
  condition := some "owner IN {0}"
  args := [.text "notes"]
  subqueries := [
    { columns := .names ["id"], source := some "owners", condition := some "age > ?" },
    { columns := .text "?" }]

theorem lackingNotes_mismatch :
    lackingNotes.Compiles Family.mysql.dialect false ∧
      lackingNotes.LimitsWritable Family.mysql.dialect false ∧
      ¬ lackingNotes.Compiles Family.mysql.dialect true ∧
      ∃ failure, (compilePlan Family.mysql.dialect (.select lackingNotes) {}).result =
        .error failure ∧ failure.Mismatch := by
  have quotable : (Family.mysql.dialect.quotedValue "identifier" (.text "notes")).toOption =
      some "\x60notes\x60" := by
    decide +kernel
  have landings : lackingNotes.landings Family.mysql.dialect = [.name] := by decide +kernel
  have tokens : lackingNotes.tokens Family.mysql.dialect = [['0']] := by decide +kernel
  have plain : Select.tokens Family.mysql.dialect
      { columns := .names ["id"], source := some "owners", condition := some "age > ?" } = [] := by
    decide +kernel
  have lacking : Select.Compiles Family.mysql.dialect false
      { columns := .names ["id"], source := some "owners", condition := some "age > ?" } := by
    refine .intro ⟨by decide +kernel, (nomatch ·), ?_, trivial, ?_⟩ ?_
    · rw [Met, List.zip_nil_right]
      exact List.forall_mem_nil _
    · rw [plain]
      exact List.forall_mem_nil _
    · rintro nested ⟨digits, index, member, -⟩
      rw [plain] at member
      cases member
  have compiles : lackingNotes.Compiles Family.mysql.dialect false := by
    refine .intro ⟨by decide +kernel, (nomatch ·), ?_, trivial, ?_⟩ ?_
    · rw [landings]
      rintro landed member
      cases List.mem_singleton.mp member
      exact ⟨_, Reporting.toOption_eq_some.mp quotable⟩
    · rw [tokens, List.forall_mem_singleton]
      exact ⟨0, by decide +kernel, by decide⟩
    · rintro nested ⟨digits, index, member, known, found⟩
      rw [tokens] at member
      cases List.mem_singleton.mp member
      have first : Sql.tokenIndex ['0'] = .ok 0 := by decide +kernel
      cases first.symm.trans known
      cases found
      exact lacking
  -- Neither the select nor the subquery that it names is limited.
  have writable : lackingNotes.LimitsWritable Family.mysql.dialect false := by
    refine .intro trivial ?_
    rintro nested ⟨digits, index, member, known, found⟩
    rw [tokens] at member
    cases List.mem_singleton.mp member
    have first : Sql.tokenIndex ['0'] = .ok 0 := by decide +kernel
    cases first.symm.trans known
    cases found
    refine .intro trivial ?_
    rintro nested ⟨digits, index, member, -⟩
    rw [plain] at member
    cases member
  have failed : (compilePlan Family.mysql.dialect (.select lackingNotes) {}).result.toOption.isNone =
      true := by
    decide +kernel
  obtain ⟨succeeds, fails⟩ := select_compiles_iff Family.mysql.dialect {} lackingNotes
  cases ended : (compilePlan Family.mysql.dialect (.select lackingNotes) {}).result with
  | ok plan =>
    rw [ended] at failed
    cases failed
  | error failure =>
    refine ⟨compiles, writable, fun counted => ?_, failure, rfl,
      fails compiles writable failure ended⟩
    obtain ⟨plan, wrong⟩ := succeeds.mpr ⟨counted, writable⟩
    cases ended.symm.trans wrong

/-- Zeros around which there is nothing. -/
theorem dropWhile_zeros {blank : Char → Bool} (visible : blank '0' = false) (count : Nat) :
    (((List.replicate count '0').dropWhile blank).reverse.dropWhile blank).reverse =
      List.replicate count '0' := by
  have kept : (List.replicate count '0').dropWhile blank = List.replicate count '0' := by
    cases count with
    | zero => rfl
    | succ count => rw [List.replicate_succ, List.dropWhile_cons, visible]; rfl
  rw [kept, List.reverse_replicate, kept, List.reverse_replicate]

theorem digitValues_zeros (separated : Bool) (count : Nat) :
    Text.digitValues separated (List.replicate (count + 1) '0') =
      some (List.replicate (count + 1) 0) := by
  induction count generalizing separated with
  | zero => cases separated <;> decide
  | succ count inductionHypothesis =>
    rw [List.replicate_succ, Text.digitValues, inductionHypothesis]
    rfl

/-- Too many zeros are no numeral. -/
theorem integer_zeros {count : Nat} (long : Text.longestNumeral ≤ count) (number : Int) :
    Text.integer (String.ofList (List.replicate (count + 1) '0')) ≠ .ok number := by
  have numerals : (List.replicate (count + 1) '0').takeWhile Text.inNumeral =
      List.replicate (count + 1) '0' :=
    List.takeWhile_eq_self_iff.mpr fun character member => by
      rw [List.eq_of_mem_replicate member]
      decide
  have read :
      Text.readInteger (List.replicate (count + 1) '0') = .error (.tooLong (count + 1)) := by
    unfold Text.readInteger Text.trimPadding
    rw [dropWhile_zeros (by decide)]
    have unsigned : Text.splitSign (List.replicate (count + 1) '0') =
        (false, List.replicate (count + 1) '0') := rfl
    have refused : Text.readDigits (List.replicate (count + 1) '0') =
        .error (.tooLong (count + 1)) := by
      unfold Text.readDigits
      rw [numerals, digitValues_zeros]
      simp only [List.length_replicate, gt_iff_lt, Nat.lt_succ_of_le long, if_true]
    simp only [unsigned, refused]
    rfl
  unfold Text.integer
  rw [String.toList_ofList, read]
  exact fun wrong => nomatch wrong

/-- A select with nothing wrong but that its limit is zero, written with too many digits. -/
def longLimit : Select where
  source := some "t"
  limit := some (.written (String.ofList (List.replicate 4301 '0')))

theorem longLimit_refused :
    (.placeholder ∉ Sql.pieces {} Family.mysql.dialect.table.quotedSpans
        longLimit.columns.joined.toList ∧
      longLimit.landings Family.mysql.dialect = [] ∧ longLimit.args = [] ∧
      longLimit.tokens Family.mysql.dialect = []) ∧
    ¬ ∃ plan, (compilePlan Family.mysql.dialect (.select longLimit) {}).result = .ok plan := by
  have parts : limitParts (String.ofList (List.replicate 4301 '0')) = [List.replicate 4301 '0'] := by
    have free : ',' ∉ List.replicate 4301 '0' := fun member =>
      absurd (List.eq_of_mem_replicate member) (by decide)
    rw [limitParts, String.toList_ofList, Text.cut_of_not_mem free, List.map_singleton, Text.trim,
      dropWhile_zeros (by decide)]
  have number : List.replicate 4301 '0' ≠ ['?'] := fun wrong =>
    absurd (List.cons.inj wrong).1 (by decide)
  have clauses : ∀ entry ∈ longLimit.clauses,
      clauseLandings Family.mysql.dialect entry.2.1 true entry.2.2 = [] := by
    decide +kernel
  refine ⟨⟨by decide +kernel, ?_, rfl, by decide +kernel⟩, ?_⟩
  · rw [Select.landings, List.flatMap_eq_nil_iff.mpr clauses]
    simp only [longLimit, limitLandings, parts, List.flatMap_cons, number, if_false,
      List.flatMap_nil, List.append_nil]
  · rintro ⟨plan, compiled⟩
    have given : (Command.select longLimit).written? Family.mysql.dialect false =
        some (writtenQuery Family.mysql.dialect false longLimit) := rfl
    rw [(compilePlan_gives Family.mysql.dialect {} (.select longLimit) given).result_eq,
      writtenQuery, Reporting.map_map, Reporting.map_ok] at compiled
    obtain ⟨written, ended, -⟩ := compiled
    obtain ⟨⟨compilable, -⟩, -⟩ := (selectLine_compiles Family.mysql.dialect).mp ⟨written, ended⟩
    have readable : ∀ part ∈ limitParts (String.ofList (List.replicate 4301 '0')),
        ReadablePart part := compilable.limit
    rw [parts, List.forall_mem_singleton] at readable
    obtain ⟨number, read⟩ := readable number
    exact integer_zeros (by decide : Text.longestNumeral ≤ 4300) number read

end PortableSql
