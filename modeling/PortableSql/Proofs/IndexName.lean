import PortableSql.Proofs.Naming

/-!
# Names of indexes

An index without a name of its own gets one. It begins with a stem that is made of its table, and
goes on with its columns, joined by underscores. Every run of characters that are not safe is
replaced by an underscore, and the whole is cut where the dialect allows no more characters. So such
a name is short enough and one part, and it is quoted as it is.

The type of an index has no place in its name, and columns are told apart by neither of these steps.
What two names have in common is the stem; so they are equal exactly if the joined columns are, as
far as there is room for them behind the stem.
-/

namespace PortableSql

/-! ## Safe characters -/

/-- Nothing but safe characters is left. -/
theorem isSafe_of_mem_safeFrom {skipped : Bool} {characters : List Char} {character : Char}
    (member : character ∈ safeFrom skipped characters) : isSafe character = true := by
  fun_induction safeFrom skipped characters with
  | case1 => cases member
  | case2 skipped first rest safe inductionHypothesis =>
    rcases List.mem_cons.mp member with rfl | later
    · exact safe
    · exact inductionHypothesis later
  | case3 first rest unsafety inductionHypothesis => exact inductionHypothesis member
  | case4 skipped first rest unsafety fresh inductionHypothesis =>
    rcases List.mem_cons.mp member with rfl | later
    · decide
    · exact inductionHypothesis later

/-- Safe characters are left as they are. -/
theorem safeFrom_of_safe {characters : List Char}
    (safe : ∀ character ∈ characters, isSafe character = true) (skipped : Bool) :
    safeFrom skipped characters = characters := by
  induction characters generalizing skipped with
  | nil => rfl
  | cons first rest inductionHypothesis =>
    obtain ⟨head, tail⟩ := List.forall_mem_cons.mp safe
    rw [safeFrom, if_pos head, inductionHypothesis tail]

/-- An underscore ends every run before it. -/
theorem safeFrom_append (skipped : Bool) (before rest : List Char) :
    safeFrom skipped (before ++ '_' :: rest) =
      safeFrom skipped before ++ '_' :: safeFrom false rest := by
  fun_induction safeFrom skipped before with
  | case1 => rfl
  | case2 skipped first others safe inductionHypothesis =>
    rw [List.cons_append, safeFrom, if_pos safe, inductionHypothesis, List.cons_append]
  | case3 first others unsafety inductionHypothesis =>
    rw [List.cons_append, safeFrom, if_neg unsafety, if_pos rfl, inductionHypothesis]
  | case4 skipped first others unsafety fresh inductionHypothesis =>
    rw [List.cons_append, safeFrom, if_neg unsafety, if_neg fresh, inductionHypothesis,
      List.cons_append]

/-- Joined parts are replaced part by part. -/
theorem safeFrom_intercalate (parts : List (List Char)) :
    safeFrom false (['_'].intercalate parts) =
      ['_'].intercalate (parts.map (safeFrom false)) := by
  induction parts with
  | nil => rfl
  | cons part rest inductionHypothesis =>
    cases rest with
    | nil => rw [List.map_singleton, List.intercalate_singleton, List.intercalate_singleton]
    | cons next others =>
      rw [List.map_cons] at inductionHypothesis
      rw [List.intercalate_cons_cons, List.append_assoc, List.singleton_append, safeFrom_append,
        inductionHypothesis, List.map_cons, List.map_cons, List.intercalate_cons_cons,
        List.append_assoc, List.singleton_append]

/-- White space is not safe. -/
theorem isBlank_eq_false_of_isSafe {character : Char} (safe : isSafe character = true) :
    Text.isBlank character = false := by
  have blanks : ∀ code ∈ Text.blanks, isSafe (Char.ofNat code) = false := by decide
  rw [← Bool.not_eq_true]
  intro blank
  have bad := blanks character.toNat (List.contains_iff_mem.mp blank)
  rw [Char.ofNat_toNat, safe] at bad
  cases bad

/-- Characters without the closing quote have nothing to double. -/
theorem doubled_of_not_mem {closing : Char} {characters : List Char} (free : closing ∉ characters) :
    doubled [closing] characters = characters := by
  rw [doubled_singleton]
  induction characters with
  | nil => rfl
  | cons first rest inductionHypothesis =>
    rw [List.mem_cons, not_or] at free
    rw [List.flatMap_cons, if_neg (Ne.symm free.1), inductionHypothesis free.2,
      List.singleton_append]

/-! ## Generated names -/

/-- The key has no name of its own. -/
def KeyDefinition.nameless (key : KeyDefinition) : Bool := (key.name.getD "").isEmpty

/-- What a generated name is made of: a word, the last part of the table's name, and the columns. -/
def KeyDefinition.description (table : String) (key : KeyDefinition) : List Char :=
  (if key.type = .foreign then "fk" else "idx").toList ++
    '_' :: (Text.lastPart table).toList.dropWhile (· = '#') ++
    '_' :: ("_".intercalate key.columns).toList

/-- What a generated name begins with, up to the columns. -/
def KeyType.stem (type : KeyType) (table : String) : List Char :=
  (if type = .foreign then "fk" else "idx").toList ++
    '_' :: safeFrom false ((Text.lastPart table).toList.dropWhile (· = '#')) ++ ['_']

/-- The columns of a key as a generated name goes on with them. -/
def KeyDefinition.joined (key : KeyDefinition) : List Char :=
  ['_'].intercalate (key.columns.map fun column => safeFrom false column.toList)

/-- A description is made safe part by part. -/
theorem KeyDefinition.safeFrom_description (table : String) (key : KeyDefinition) :
    safeFrom false (key.description table) = key.type.stem table ++ key.joined := by
  have start : safeFrom false (if key.type = .foreign then "fk" else "idx").toList =
      (if key.type = .foreign then "fk" else "idx").toList := by
    split <;> decide
  have columns : safeFrom false ("_".intercalate key.columns).toList = key.joined := by
    rw [String.toList_intercalate]
    change safeFrom false (['_'].intercalate _) = _
    rw [safeFrom_intercalate, List.map_map]
    rfl
  rw [description, safeFrom_append, safeFrom_append, start, columns, KeyType.stem,
    List.append_assoc _ ['_'], List.singleton_append]

section

variable {dialect : Dialect} {table : String} {key : KeyDefinition}

/-- A generated name is the safe description, cut to the greatest length. -/
theorem toList_indexName (bounded : 0 ≤ dialect.table.maxIdentifierLength)
    (nameless : key.nameless = true) : (indexName dialect table key).toList =
      (safeFrom false (key.description table)).take dialect.table.maxIdentifierLength.toNat := by
  have generated : indexName dialect table key = indexName.generated dialect table key := by
    unfold KeyDefinition.nameless at nameless
    unfold indexName
    cases own : key.name with
    | none => rfl
    | some name =>
      rw [own, Option.getD_some] at nameless
      exact if_pos nameless
  rw [generated, indexName.generated, String.toList_ofList, cutTo, if_pos bounded,
    KeyDefinition.description]

/-- A generated name has characters: the word that it begins with is not cut off. -/
theorem toList_indexName_ne_nil (bounded : 0 < dialect.table.maxIdentifierLength)
    (nameless : key.nameless = true) : (indexName dialect table key).toList ≠ [] := by
  have room : dialect.table.maxIdentifierLength.toNat ≠ 0 := by omega
  rw [toList_indexName (Int.le_of_lt bounded) nameless, ne_eq, List.take_eq_nil_iff,
    KeyDefinition.safeFrom_description]
  simp [room, KeyType.stem]

/-- A generated name holds nothing but safe characters. -/
theorem isSafe_of_mem_indexName (bounded : 0 ≤ dialect.table.maxIdentifierLength)
    (nameless : key.nameless = true) {character : Char}
    (member : character ∈ (indexName dialect table key).toList) : isSafe character = true := by
  rw [toList_indexName bounded nameless] at member
  exact isSafe_of_mem_safeFrom (List.mem_of_mem_take member)

end

/-- A name that a dialect takes as it is: short enough, of ASCII letters, digits and underscores
only, and quoted as one part. -/
structure Family.UsableName (family : Family) (name : String) : Prop where
  short : (name.length : Int) ≤ family.dialect.table.maxIdentifierLength
  safe : ∀ character ∈ name.toList, isSafe character = true
  single : nameParts name = [name.toList]
  quoted : ∀ what, family.dialect.quoted what name =
    .ok (String.ofList (family.quote.1 :: name.toList ++ [family.quote.2]))

/-- The greatest length of names is positive, and it is no longer than what is quoted. -/
theorem Family.maxIdentifierLength_bounds (family : Family) :
    0 < family.dialect.table.maxIdentifierLength ∧
      family.dialect.table.maxIdentifierLength ≤ longestName := by
  cases family <;> decide

/-- Generated names are usable. -/
theorem Family.usable_indexName (family : Family) (table : String) {key : KeyDefinition}
    (nameless : key.nameless = true) :
    family.UsableName (indexName family.dialect table key) := by
  obtain ⟨positive, longest⟩ := family.maxIdentifierLength_bounds
  have bounded := Int.le_of_lt positive
  have safe : ∀ character ∈ (indexName family.dialect table key).toList,
      isSafe character = true := fun _ => isSafe_of_mem_indexName bounded nameless
  have full : (indexName family.dialect table key).toList ≠ [] :=
    toList_indexName_ne_nil positive nameless
  have characters : (indexName family.dialect table key).toList = _ :=
    toList_indexName bounded nameless
  generalize indexName family.dialect table key = name at safe full characters ⊢
  have absent : ∀ {character : Char}, isSafe character = false → character ∉ name.toList := by
    intro character unsafety member
    rw [safe character member] at unsafety
    cases unsafety
  have short : (name.length : Int) ≤ family.dialect.table.maxIdentifierLength := by
    have cut := List.length_take_le family.dialect.table.maxIdentifierLength.toNat
      (safeFrom false (key.description table))
    rw [← characters, String.length_toList] at cut
    omega
  have single : nameParts name = [name.toList] := by
    rw [nameParts_eq_singleton]
    refine ⟨absent (by decide), ?_, ?_⟩
    · intro character member
      exact isBlank_eq_false_of_isSafe (safe character (List.mem_of_mem_head? member))
    · intro character member
      exact isBlank_eq_false_of_isSafe (safe character (List.mem_of_mem_getLast? member))
  refine ⟨short, safe, single, fun what => ?_⟩
  have quotable : ∀ part ∈ nameParts name, QuotablePart part := by
    rw [single]
    intro part member
    rw [List.mem_singleton.mp member]
    refine ⟨full, ?_, absent (by decide)⟩
    rw [String.length_toList]
    omega
  have accepted : ∃ quoted, family.dialect.quoted what name = .ok quoted :=
    quoteName_accepted.mpr quotable
  obtain ⟨quoted, ended⟩ := accepted
  have written := quoteName_ok ended
  have alone : family.quote.2 ∉ name.toList := absent (by cases family <;> decide)
  rw [single, List.map_singleton, List.intercalate_singleton, family.enclosed_name, Sql.quotation,
    doubled_of_not_mem alone] at written
  rw [← written, String.ofList_toList]
  exact ended

/-- Between quotes a usable name stands as it is. -/
theorem Family.UsableName.quotedName_eq {family : Family} {name : String}
    (usable : family.UsableName name) : family.dialect.quotedName name =
      String.ofList (family.quote.1 :: name.toList ++ [family.quote.2]) := by
  have written := quoteName_ok (usable.quoted "identifier")
  rw [Dialect.quotedName, ← written, String.ofList_toList]

/-! ## Names of one table -/

/-- The types of indexes, which always have a name; the others are constraints. -/
def KeyType.isIndex : KeyType → Bool
  | key | unique | fulltext => true
  | primary | foreign => false

/-- The key is an index whose name is generated. -/
def KeyDefinition.generates (key : KeyDefinition) : Bool := key.type.isIndex && key.nameless

/-- How many characters of the columns there is room for in the names of a table's indexes. -/
def columnRoom (dialect : Dialect) (table : String) : Nat :=
  dialect.table.maxIdentifierLength.toNat - (KeyType.key.stem table).length

/-- All indexes of a table have the same stem. -/
theorem KeyType.stem_of_isIndex {type : KeyType} (index : type.isIndex = true) (table : String) :
    type.stem table = KeyType.key.stem table := by
  cases type with
  | key | unique | fulltext => rfl
  | primary | foreign => cases index

/-- The name of an index is the common stem with as many characters of its columns as there is room
for. -/
theorem toList_indexName_index {dialect : Dialect} {key : KeyDefinition}
    (bounded : 0 ≤ dialect.table.maxIdentifierLength) (generates : key.generates = true)
    (table : String) : (indexName dialect table key).toList =
      (KeyType.key.stem table).take dialect.table.maxIdentifierLength.toNat ++
        key.joined.take (columnRoom dialect table) := by
  obtain ⟨index, nameless⟩ := Bool.and_eq_true_iff.mp generates
  rw [toList_indexName bounded nameless, KeyDefinition.safeFrom_description,
    KeyType.stem_of_isIndex index, List.take_append]
  rfl

/-- Two indexes of a table share their name exactly if their columns look the same as far as there
is room for them. -/
theorem indexName_eq_iff {dialect : Dialect} {first second : KeyDefinition}
    (bounded : 0 ≤ dialect.table.maxIdentifierLength) (firstGenerates : first.generates = true)
    (secondGenerates : second.generates = true) (table : String) :
    indexName dialect table first = indexName dialect table second ↔
      first.joined.take (columnRoom dialect table) =
        second.joined.take (columnRoom dialect table) := by
  rw [← String.toList_inj, toList_indexName_index bounded firstGenerates,
    toList_indexName_index bounded secondGenerates, List.append_cancel_left_eq]

/-- The key has columns, and they are named by letters and digits only. -/
def KeyDefinition.plain (key : KeyDefinition) : Bool :=
  !key.columns.isEmpty && key.columns.all fun column => column.toList.all Char.isAlphanum

namespace KeyDefinition

section

variable {first second key : KeyDefinition}

/-- The characters of plain columns are letters and digits. -/
theorem isAlphanum_of_plain (plain : key.plain = true) {column : String}
    (member : column ∈ key.columns) {character : Char} (inside : character ∈ column.toList) :
    character.isAlphanum = true := by
  have letters := (Bool.and_eq_true_iff.mp plain).2
  exact List.all_eq_true.mp (List.all_eq_true.mp letters column member) character inside

/-- Plain columns are joined as they are. -/
theorem joined_plain (plain : key.plain = true) :
    key.joined = ['_'].intercalate (key.columns.map String.toList) := by
  unfold joined
  congr 1
  apply List.map_congr_left
  intro column member
  apply safeFrom_of_safe
  intro character inside
  rw [isSafe, isAlphanum_of_plain plain member inside, Bool.true_or]

/-- The parts of joined plain columns are the columns. -/
theorem cut_joined (plain : key.plain = true) :
    Text.cut '_' key.joined = key.columns.map String.toList := by
  rw [joined_plain plain]
  apply Text.cut_intercalate
  · have full := (Bool.and_eq_true_iff.mp plain).1
    simpa using full
  · intro part member inside
    obtain ⟨column, listed, rfl⟩ := List.mem_map.mp member
    have letter := isAlphanum_of_plain plain listed inside
    exact absurd letter (by decide)

/-- Plain columns can be told from what they are joined to. -/
theorem joined_inj (firstPlain : first.plain = true) (secondPlain : second.plain = true) :
    first.joined = second.joined ↔ first.columns = second.columns := by
  constructor
  · intro same
    have parts := congrArg (Text.cut '_') same
    rw [cut_joined firstPlain, cut_joined secondPlain] at parts
    exact List.map_injective_iff.mpr (fun _ _ => String.toList_injective) parts
  · intro same
    rw [joined, joined, same]

end

end KeyDefinition

/-! ## Keys in a plan -/

/-- The keys that an entry declares. -/
def TableEntry.keys : TableEntry → List KeyDefinition
  | key definition => [definition]
  | column _ _ _ | primaryKey _ | foreignKey _ _ => []

/-- The keys that a statement declares or adds. -/
def TableStatement.keys : TableStatement → List KeyDefinition
  | create entries => entries.flatMap TableEntry.keys
  | addKey key => [key]
  | comment _ _ => []

/-- The keys of the list that are declared inside a new table or added by a statement. -/
def CreateTable.emittedKeys (dialect : Dialect) (creation : CreateTable) : List KeyDefinition :=
  creation.keysOf dialect (creation.columns.getD []) .inline ++
    creation.keysOf dialect (creation.columns.getD []) .deferred

/-- The outline of a new table has these keys. -/
theorem CreateTable.keys_outline {dialect : Dialect} (creation : CreateTable)
    (types : List String) :
    (creation.outline dialect (creation.columns.getD []) types).flatMap TableStatement.keys =
      creation.emittedKeys dialect := by
  have columns : ∀ inlineKey, (columnEntries dialect inlineKey (creation.columns.getD [])
      types).flatMap TableEntry.keys = [] := by
    intro inlineKey
    rw [List.flatMap_eq_nil_iff]
    intro entry member
    obtain ⟨index, within, rfl⟩ := List.mem_iff_getElem.mp member
    simp [columnEntries, TableEntry.keys]
  have primary : (primaryEntries dialect (creation.columns.getD [])).flatMap TableEntry.keys =
      [] := by
    unfold primaryEntries
    split <;> rfl
  have references : ((creation.columns.getD []).flatMap (foreignEntries dialect)).flatMap
      TableEntry.keys = [] := by
    simp only [List.flatMap_eq_nil_iff, List.mem_flatMap, foreignEntries]
    rintro entry ⟨column, -, member⟩
    split at member
    · cases member
    · obtain ⟨target, -, rfl⟩ := List.mem_map.mp member
      rfl
  have comments : ((creation.columns.getD []).flatMap (commentStatements dialect)).flatMap
      TableStatement.keys = [] := by
    simp only [List.flatMap_eq_nil_iff, List.mem_flatMap, commentStatements]
    rintro statement ⟨column, -, member⟩
    split at member
    · obtain ⟨text, -, rfl⟩ := List.mem_map.mp member
      rfl
    · cases member
  have inline : ∀ keys : List KeyDefinition, (keys.map TableEntry.key).flatMap TableEntry.keys =
      keys := by
    intro keys
    rw [List.flatMap_map]
    exact List.flatMap_singleton' keys
  have deferred : ∀ keys : List KeyDefinition, (keys.map TableStatement.addKey).flatMap
      TableStatement.keys = keys := by
    intro keys
    rw [List.flatMap_map]
    exact List.flatMap_singleton' keys
  unfold outline emittedKeys
  rw [List.cons_append, List.flatMap_cons, List.flatMap_append, deferred, comments,
    TableStatement.keys, List.flatMap_append, List.flatMap_append, List.flatMap_append, columns,
    primary, references, inline, List.append_nil, List.append_nil, List.append_nil,
    List.nil_append]

/-! ## Names in the texts of a plan -/

/-- A part stands in what parts are joined to. -/
theorem infix_intercalate {separator part : List Char} {parts : List (List Char)}
    (member : part ∈ parts) : part <:+: separator.intercalate parts := by
  induction parts with
  | nil => cases member
  | cons first rest inductionHypothesis =>
    cases rest with
    | nil =>
      rw [List.mem_singleton.mp member, List.intercalate_singleton]
    | cons next others =>
      rw [List.intercalate_cons_cons]
      rcases List.mem_cons.mp member with rfl | later
      · rw [List.append_assoc]
        exact (List.prefix_append _ _).isInfix
      · exact (inductionHypothesis later).trans (List.suffix_append _ _).isInfix

/-- A text stands between two others. -/
theorem infix_between {text whole : String} (before behind : String)
    (same : whole = before ++ (text ++ behind)) : text.toList <:+: whole.toList := by
  rw [same, String.toList_append, String.toList_append, ← List.append_assoc]
  exact List.infix_append _ _ _

section

variable {dialect : Dialect} {table : String} {key : KeyDefinition}

/-- An index that a table declares has its name in its clause. -/
theorem KeyDefinition.name_infix_clause (index : key.type.isIndex = true) :
    (dialect.quotedName (indexName dialect table key)).toList <:+:
      (key.clause dialect table).toList := by
  let columns := " (" ++ (dialect.quotedNames key.columns ++ ")")
  unfold clause
  cases type : key.type with
  | primary | foreign =>
    rw [type] at index
    cases index
  | key =>
    apply infix_between "KEY " columns
    simp only [columns, String.append_assoc]
  | fulltext =>
    apply infix_between "FULLTEXT KEY " columns
    simp only [columns, String.append_assoc]
  | unique =>
    dsimp only
    split
    · apply infix_between "UNIQUE KEY " columns
      simp only [columns, String.append_assoc]
    · apply infix_between "CONSTRAINT " (" UNIQUE (" ++ (dialect.quotedNames key.columns ++ ")"))
      simp only [String.append_assoc]

/-- A statement that adds an index has the name of it. -/
theorem KeyDefinition.name_infix_addition (index : key.type.isIndex = true) :
    (dialect.quotedName (indexName dialect table key)).toList <:+:
      (key.addition dialect table).toList := by
  unfold addition
  split
  · refine (name_infix_clause index).trans ?_
    apply infix_between ("ALTER TABLE " ++ (dialect.quotedName table ++ " ADD ")) ""
    simp only [String.append_assoc, String.append_empty]
  · apply infix_between ("CREATE " ++ ((if key.type = .unique then "UNIQUE " else "") ++ "INDEX "))
      (" ON " ++ (dialect.quotedName table ++ (" (" ++ (dialect.quotedNames key.columns ++ ")"))))
    simp only [String.append_assoc]

/-- A statement has the names of the indexes that it declares or adds. -/
theorem TableStatement.name_infix {creation : CreateTable} {statement : TableStatement}
    (member : key ∈ statement.keys) (index : key.type.isIndex = true) :
    (dialect.quotedName (indexName dialect (creation.finalName dialect) key)).toList <:+:
      (statement.sql dialect creation).toList := by
  cases statement with
  | create entries =>
    obtain ⟨entry, listed, declared⟩ := List.mem_flatMap.mp member
    cases entry with
    | key definition =>
      obtain rfl := List.mem_singleton.mp declared
      have among : (key.clause dialect (creation.finalName dialect)).toList <:+:
          (Text.listed (entries.map (TableEntry.sql dialect
            (creation.finalName dialect)))).toList := by
        rw [Text.listed, String.toList_intercalate]
        apply infix_intercalate
        exact List.mem_map_of_mem (List.mem_map_of_mem listed)
      refine (KeyDefinition.name_infix_clause index).trans (among.trans ?_)
      apply infix_between (createTableWords dialect creation.temporary ++ (" " ++
        (dialect.quotedName (creation.finalName dialect) ++ " (")))
        (")" ++ optionText dialect creation)
      simp only [sql, String.append_assoc]
    | column | primaryKey | foreignKey => cases declared
  | addKey added =>
    obtain rfl := List.mem_singleton.mp member
    exact KeyDefinition.name_infix_addition index
  | comment column text => cases member

end

/-- The names that keys get in a built-in dialect are usable: short enough, of ASCII letters, digits
and underscores only, and quoted as one part. The plan for a new table emits keys of the list, and
an index without a name of its own stands in it with the generated one. Two such names are equal
exactly if the columns, joined by underscores and with every run of unsafe characters replaced by
one, agree in as many characters as there is room for behind the table. So the types of the keys
make no difference, and neither do columns that are joined alike. Columns of letters and digits that
there is room for have different names if they are different.

Proof: a generated name is a stem that depends on the table alone, the joined columns behind it, and
cut as a whole. Columns of letters and digits are the parts that the joined columns are cut into at
the underscores. -/
theorem indexNames_usable (family : Family) :
    (∀ table (key : KeyDefinition), key.nameless = true →
      family.UsableName (indexName family.dialect table key)) ∧
    (∀ (context : Context) (creation : CreateTable) (plan : Plan), creation.select = none →
      (compilePlan family.dialect (.createTable creation) context).result = .ok plan →
      let columns := creation.columns.getD []
      let emitted := creation.emittedKeys family.dialect
      let name := indexName family.dialect (creation.finalName family.dialect)
      let room := columnRoom family.dialect (creation.finalName family.dialect)
      (∃ types, ColumnTypes family.dialect (!composite family.dialect columns) columns types ∧
        plan.statements = (creation.outline family.dialect columns types).map
          (TableStatement.statement family.dialect creation) ∧
        (creation.outline family.dialect columns types).flatMap TableStatement.keys = emitted) ∧
      ∀ first ∈ emitted, first.generates = true →
        (∃ statement ∈ plan.statements,
          family.quote.1 :: (name first).toList ++ [family.quote.2] <:+: statement.sql.toList) ∧
        ∀ second ∈ emitted, second.generates = true →
          (name first = name second ↔ first.joined.take room = second.joined.take room) ∧
          (first.plain = true → second.plain = true →
            first.joined.length ≤ room → second.joined.length ≤ room →
            (name first = name second ↔ first.columns = second.columns))) ∧
    ∀ (context : Context) (creation : CreateTable), creation.select ≠ none →
      compilePlan family.dialect (.createTable creation) context =
        compilePlan family.dialect (.createTable { creation with keys := [] }) context := by
  have bounded := Int.le_of_lt family.maxIdentifierLength_bounds.1
  refine ⟨fun table key => family.usable_indexName table, ?_, ?_⟩
  · intro context creation plan plain compiled columns emitted name room
    obtain ⟨types, typed, statements, -⟩ := compilePlan_outline plain ⟨[], compiled⟩
    have keys : (creation.outline family.dialect columns types).flatMap TableStatement.keys =
        emitted := creation.keys_outline types
    refine ⟨⟨types, typed, statements, keys⟩, ?_⟩
    intro first firstEmitted firstGenerates
    obtain ⟨index, nameless⟩ := Bool.and_eq_true_iff.mp firstGenerates
    constructor
    · have outlined : first ∈ (creation.outline family.dialect columns types).flatMap
          TableStatement.keys := keys ▸ firstEmitted
      obtain ⟨statement, member, declared⟩ := List.mem_flatMap.mp outlined
      have named : (family.dialect.quotedName (name first)).toList <:+:
          (statement.sql family.dialect creation).toList :=
        TableStatement.name_infix declared index
      rw [(family.usable_indexName _ nameless).quotedName_eq, String.toList_ofList] at named
      refine ⟨statement.statement family.dialect creation, ?_, named⟩
      rw [statements]
      exact List.mem_map_of_mem member
    · intro second secondEmitted secondGenerates
      have shared := indexName_eq_iff bounded firstGenerates secondGenerates
        (creation.finalName family.dialect)
      refine ⟨shared, ?_⟩
      intro firstPlain secondPlain firstFits secondFits
      rw [shared, List.take_of_length_le firstFits, List.take_of_length_le secondFits,
        KeyDefinition.joined_inj firstPlain secondPlain]
  · intro context creation selected
    obtain ⟨select, found⟩ := Option.ne_none_iff_exists'.mp selected
    cases creation
    subst found
    rfl

/-- A table with keys whose names are generated alike. -/
def likeKeys : CreateTable where
  name := "app.t"
  columns := some [("a", { type := .integer }), ("b", { type := .integer }),
    ("a_b", { type := .integer })]
  keys := [{ type := .key, columns := ["a"] }, { type := .unique, columns := ["a"] },
    { type := .key, columns := ["a", "b"] }, { type := .key, columns := ["a_b"] }]

/-- On SQLite an index of the table is added and another one declared. Their names are usable, and
they are equal, as their columns are; a further column makes another name. -/
theorem likeKeys_named : ∃ plan,
    (compilePlan Family.sqlite.dialect (.createTable likeKeys)).result = .ok plan ∧
    let name := fun (type : KeyType) columns =>
      indexName Family.sqlite.dialect "app.t" { type, columns }
    (∀ type columns, Family.sqlite.UsableName (name type columns)) ∧
    name .key ["a"] = name .unique ["a"] ∧ name .key ["a"] ≠ name .key ["a", "b"] := by
  obtain ⟨plan, compiled⟩ := Option.isSome_iff_exists.mp (show
    (compilePlan Family.sqlite.dialect (.createTable likeKeys)).result.toOption.isSome = true
    by decide +kernel)
  have ended := Reporting.toOption_eq_some.mp compiled
  obtain ⟨usable, told, -⟩ := indexNames_usable .sqlite
  obtain ⟨-, each⟩ := told {} likeKeys plan rfl ended
  obtain ⟨-, pairs⟩ := each { type := .key, columns := ["a"] } (by decide) (by decide)
  refine ⟨plan, ended, fun type columns => usable "app.t" { type, columns } rfl, ?_, ?_⟩
  · exact (pairs { type := .unique, columns := ["a"] } (by decide) (by decide)).1.mpr rfl
  · have apart := (pairs { type := .key, columns := ["a", "b"] } (by decide) (by decide)).2
      (by decide) (by decide) (by decide) (by decide)
    intro same
    exact absurd (apart.mp same) (by decide)

/-- The table as it is created on MySQL. -/
def likeKeysSql : String :=
  "CREATE TABLE \x60app\x60.\x60t\x60 (\x60a\x60 INT, \x60b\x60 INT, \x60a_b\x60 INT, " ++
    "KEY \x60idx_t_a\x60 (\x60a\x60), UNIQUE KEY \x60idx_t_a\x60 (\x60a\x60), " ++
    "KEY \x60idx_t_a_b\x60 (\x60a\x60, \x60b\x60), KEY \x60idx_t_a_b\x60 (\x60a_b\x60))"

/-- In one plan two indexes of different types share a name, and so do two with different
columns. -/
theorem likeKeys_collide : ∃ plan,
    (compilePlan Family.mysql.dialect (.createTable likeKeys)).result = .ok plan ∧
    plan.statements.map Statement.sql = [likeKeysSql] ∧
    let name := indexName Family.mysql.dialect (likeKeys.finalName Family.mysql.dialect)
    let emitted := likeKeys.emittedKeys Family.mysql.dialect
    (∃ first ∈ emitted, ∃ second ∈ emitted, first.generates = true ∧ second.generates = true ∧
      first.type ≠ second.type ∧ name first = name second) ∧
    ∃ first ∈ emitted, ∃ second ∈ emitted, first.generates = true ∧ second.generates = true ∧
      first.columns ≠ second.columns ∧ name first = name second := by
  have texts : (compilePlan Family.mysql.dialect (.createTable likeKeys)).result.toOption.map
      (fun plan => plan.statements.map Statement.sql) = some [likeKeysSql] := by
    decide +kernel
  obtain ⟨plan, compiled, written⟩ := Option.map_eq_some_iff.mp texts
  refine ⟨plan, Reporting.toOption_eq_some.mp compiled, written, ?_, ?_⟩
  · refine ⟨{ type := .key, columns := ["a"] }, by decide,
      { type := .unique, columns := ["a"] }, by decide, ?_⟩
    decide
  · refine ⟨{ type := .key, columns := ["a", "b"] }, by decide,
      { type := .key, columns := ["a_b"] }, by decide, ?_⟩
    decide +kernel

end PortableSql
