import PortableSql.Proofs.Outline
import PortableSql.Proofs.Unquoting

/-!
# Reading literals

A literal is read by the rules of its dialect: a text between single quotes, where backslashes are
escapes in one dialect only, and bytes in the notation of each dialect. Every text and all bytes are
read back from their literals, however many quotes and backslashes they have and wherever these
stand, and so is what follows the literal.

In a column the literals of the default value and of the comment stand apart: another option
follows, or nothing. So neither goes on with the next words nor ends before its last quote.
-/

namespace PortableSql

namespace Sql

/-- What follows a literal does not go on with it: it begins with no quote and no word. -/
def Apart (following : List Char) : Prop :=
  ∀ next ∈ following.head?, next ≠ '\'' ∧ Text.isWord next = false

theorem apart_nil : Apart [] := fun _ head => nomatch head

theorem apart_space (rest : List Char) : Apart (' ' :: rest) := by
  rintro next ⟨⟩
  exact ⟨by decide, by decide +kernel⟩

theorem Apart.unquoted {following : List Char} (apart : Apart following) :
    following.head? ≠ some '\'' := fun quote => (apart _ quote).1 rfl

/-- A word ends where what follows is apart from it. -/
theorem Apart.behind_word {following : List Char} (apart : Apart following) {word : List Char}
    (inside : ∀ character ∈ word, Text.isWord character = true) :
    (word ++ following).takeWhile Text.isWord = word ∧
      (word ++ following).dropWhile Text.isWord = following := by
  rw [List.takeWhile_append_of_pos inside, List.dropWhile_append_of_pos inside]
  cases following with
  | nil => exact ⟨List.append_nil word, rfl⟩
  | cons next rest => simp [(apart next rfl).2]

/-- Reads a text between single quotes. -/
def readText (escapes : Bool) : List Char → Option (List Char × List Char)
  | '\'' :: rest => readQuoted escapes '\'' rest
  | _ => none

/-- The bytes of hexadecimal digits, two for each byte and nothing else. -/
def bytesOf (digits : List Char) : Option (List UInt8) :=
  if digits.all fun digit => (Text.hexValue? digit).isSome then
    (Text.readHexBytes 0 digits).toOption
  else none

/-- Reads bytes as the literals of a dialect have them: the digits between quotes behind a letter,
the digits behind a prefix, or a text that is cast to bytes. -/
def readBinary : Family → List Char → Option (List UInt8 × List Char)
  | .mysql, 'X' :: rest | .sqlite, 'X' :: rest => do
    let (digits, following) ← readText false rest
    let bytes ← bytesOf digits
    some (bytes, following)
  | .mssql, '0' :: 'x' :: rest => do
    let bytes ← bytesOf (rest.takeWhile Text.isWord)
    some (bytes, rest.dropWhile Text.isWord)
  | .postgresql, characters =>
    match readText false characters with
    | some ('\\' :: 'x' :: digits, ':' :: ':' :: rest) => do
      let bytes ← bytesOf digits
      if rest.takeWhile Text.isWord = ['b', 'y', 't', 'e', 'a'] then
        some (bytes, rest.dropWhile Text.isWord)
      else none
    | _ => none
  | _, _ => none

/-- A text between single quotes is read back. -/
theorem readText_quotation (escapes : Bool) (characters : List Char) {following : List Char}
    (apart : following.head? ≠ some '\'') :
    readText escapes
        (quotation '\'' '\'' (if escapes then doubled ['\\'] characters else characters) ++
          following) =
      some (characters, following) := by
  rw [quotation, List.append_assoc, List.cons_append, List.singleton_append]
  exact readQuoted_doubled (by decide) escapes characters apart

/-- A text without quotes is read as it is. -/
theorem readText_unquoted {characters : List Char} (free : '\'' ∉ characters)
    {following : List Char} (apart : following.head? ≠ some '\'') :
    readText false ('\'' :: characters ++ '\'' :: following) = some (characters, following) := by
  have single : doubled ['\''] characters = characters := by
    rw [doubled_singleton]
    induction characters with
    | nil => rfl
    | cons first rest inductionHypothesis =>
      obtain ⟨other, behind⟩ := not_or.mp (mt List.mem_cons.mpr free)
      rw [List.flatMap_cons, if_neg (Ne.symm other), inductionHypothesis behind]
      rfl
  have read := readText_quotation false characters apart
  rw [if_neg Bool.false_ne_true, quotation, single] at read
  simpa using read

section

variable (bytes : List UInt8) {digit : Char}

/-- Bytes are written with hexadecimal digits only. -/
theorem hexDigit_of_mem (member : digit ∈ bytes.flatMap Text.hexByte) :
    ∃ number < 16, digit = Text.hexDigit number := by
  obtain ⟨byte, -, inside⟩ := List.mem_flatMap.mp member
  have bound : byte.toNat < 256 := byte.toNat_lt
  rcases List.mem_cons.mp inside with rfl | low
  · exact ⟨byte.toNat / 16, by omega, rfl⟩
  · exact ⟨byte.toNat % 16, by omega, List.mem_singleton.mp low⟩

/-- Digits belong to words. -/
theorem isWord_of_mem (member : digit ∈ bytes.flatMap Text.hexByte) :
    Text.isWord digit = true := by
  obtain ⟨number, small, rfl⟩ := hexDigit_of_mem bytes member
  clear member
  revert number
  decide +kernel

theorem quote_not_mem : '\'' ∉ bytes.flatMap Text.hexByte := by
  intro member
  have word := isWord_of_mem bytes member
  revert word
  decide +kernel

theorem bytesOf_hexBytes : bytesOf (bytes.flatMap Text.hexByte) = some bytes := by
  have digits : (bytes.flatMap Text.hexByte).all
      (fun digit => (Text.hexValue? digit).isSome) = true := by
    refine List.all_eq_true.mpr fun digit member => ?_
    obtain ⟨number, small, rfl⟩ := hexDigit_of_mem bytes member
    rw [Text.hexValue?_hexDigit small]
    rfl
  rw [bytesOf, if_pos digits, Text.readHexBytes_flatMap_hexByte]
  rfl

end

/-- Bytes are read back from the literals of every dialect. -/
theorem readBinary_binaryLiteral (family : Family) (bytes : List UInt8) {following : List Char}
    (apart : Apart following) :
    readBinary family ((Dialect.binaryLiteral family bytes).toList ++ following) =
      some (bytes, following) := by
  cases family with
  | mysql | sqlite =>
    have read := readText_unquoted (quote_not_mem bytes) apart.unquoted
    simp only [List.cons_append] at read
    simp [Dialect.binaryLiteral, Text.hexBytes, readBinary, read, bytesOf_hexBytes]
  | mssql =>
    obtain ⟨taken, left⟩ := apart.behind_word fun _ => isWord_of_mem bytes
    simp [Dialect.binaryLiteral, Text.hexBytes, readBinary, taken, left, bytesOf_hexBytes]
  | postgresql =>
    have free : '\'' ∉ '\\' :: 'x' :: bytes.flatMap Text.hexByte := by
      simpa using quote_not_mem bytes
    have read := readText_unquoted free
      (by simp : (':' :: ':' :: 'b' :: 'y' :: 't' :: 'e' :: 'a' :: following).head? ≠ some '\'')
    have word : ['b', 'y', 't', 'e', 'a'].all Text.isWord = true := by decide +kernel
    obtain ⟨taken, left⟩ := apart.behind_word (List.all_eq_true.mp word)
    simp only [List.cons_append, List.nil_append] at read taken left
    simp [Dialect.binaryLiteral, Text.hexBytes, readBinary, read, taken, left, bytesOf_hexBytes]

end Sql

namespace Family

/-- Texts are read back from the literals of every dialect. -/
theorem readText_quoteLiteral (family : Family) {value : Value} (textual : value.isTextual = true)
    {following : List Char} (apart : Sql.Apart following) :
    Sql.readText (family = .mysql) ((family.dialect.quoteLiteral value).toList ++ following) =
      some (value.plain.toList, following) := by
  have escapes : family.dialect.table.backslashEscapes = decide (family = .mysql) := by
    cases family <;> rfl
  rw [Dialect.quoteLiteral_textual textual, escapes]
  exact Sql.readText_quotation _ _ apart.unquoted

end Family

/-! ## Literals of columns -/

namespace Sql

/-- What is joined by spaces stands apart from what follows it. -/
theorem apart_in_joined {item : List Char} {items : List (List Char)} (member : item ∈ items)
    {following : List Char} (apart : Apart following) :
    ∃ before behind, List.intercalate [' '] items ++ following = before ++ item ++ behind ∧
      Apart behind := by
  induction items with
  | nil => cases member
  | cons first rest inductionHypothesis =>
    cases rest with
    | nil =>
      obtain rfl := List.mem_singleton.mp member
      exact ⟨[], following, by simp, apart⟩
    | cons next others =>
      rw [List.intercalate_cons_cons]
      rcases List.mem_cons.mp member with rfl | later
      · exact ⟨[], ' ' :: (List.intercalate [' '] (next :: others) ++ following), by simp,
          apart_space _⟩
      · obtain ⟨before, behind, same, apartBehind⟩ := inductionHypothesis later
        refine ⟨first ++ [' '] ++ before, behind, ?_, apartBehind⟩
        rw [List.append_assoc, same]
        simp

end Sql

/-- The literal of the value stands in the text behind these words and apart from what follows it;
the text itself may be followed by whatever is apart. -/
def Dialect.SetsApart (dialect : Dialect) (words : String) (value : Value) (sql : String) : Prop :=
  ∀ following, Sql.Apart following → ∃ before behind,
    sql.toList ++ following =
      before ++ words.toList ++ (dialect.quoteLiteral value).toList ++ behind ∧
    Sql.Apart behind

section

variable {dialect : Dialect} {words : String} {value : Value}

/-- A literal at the end stands apart. -/
theorem setsApart_last (before : String) :
    dialect.SetsApart words value (before ++ words ++ dialect.quoteLiteral value) :=
  fun following apart => ⟨before.toList, following, by simp only [String.toList_append], apart⟩

/-- A literal at the end of an item stands apart where the items are joined by spaces. -/
theorem setsApart_item (before : String) {items : List String}
    (member : words ++ dialect.quoteLiteral value ∈ items) :
    dialect.SetsApart words value (before ++ " ".intercalate items) := by
  intro following apart
  obtain ⟨begun, behind, same, apartBehind⟩ :=
    Sql.apart_in_joined (List.mem_map_of_mem (f := String.toList) member) apart
  refine ⟨before.toList ++ begun, behind, ?_, apartBehind⟩
  calc (before ++ " ".intercalate items).toList ++ following
    _ = before.toList ++ (List.intercalate [' '] (items.map String.toList) ++ following) := by
      rw [String.toList_append, String.toList_intercalate, List.append_assoc]
      rfl
    _ = _ := by simp only [same, String.toList_append, List.append_assoc]

end

/-- The literals in what is compiled for a column stand apart. -/
structure ColumnFragment.LiteralsApart (dialect : Dialect) (definition : ColumnDefinition)
    (fragment : ColumnFragment) : Prop where
  default : ∀ value, definition.default? = some value →
    dialect.SetsApart "DEFAULT " value fragment.sql
  inlineComment : dialect.table.commentStyle = .inline → ∀ text, definition.comment = some text →
    dialect.SetsApart "COMMENT " (.text text) fragment.sql
  commentStatement : dialect.table.commentStyle = .statement →
    ∀ text, definition.comment = some text →
      ∃ statement, fragment.followUp = [statement] ∧
        dialect.SetsApart " IS " (.text text) statement.sql

/-- An option of a column that ends with a literal is one of the items of the column. -/
theorem setsApart_option {dialect : Dialect} {table name type words : String} {value : Value}
    {options : List ColumnOption} (option : ColumnOption)
    (written : option.sql dialect = words ++ dialect.quoteLiteral value)
    (member : option ∈ options) :
    dialect.SetsApart words value (TableEntry.sql dialect table (.column name type options)) := by
  refine setsApart_item (dialect.quotedName name ++ " ") ?_
  rw [← written]
  exact List.mem_cons_of_mem type (List.mem_map_of_mem member)

/-- The literals of every compiled column stand apart. -/
theorem literalsApart_of_compiled {dialect : Dialect} {table name : String}
    {definition : ColumnDefinition} {inlineKey : Bool} {fragment : ColumnFragment}
    (ended : (compileColumn dialect table name definition inlineKey).result = .ok fragment) :
    fragment.LiteralsApart dialect definition := by
  let creation : CreateTable := { name := table }
  have yields : (compileColumn dialect (creation.finalName dialect) name definition
      inlineKey).Yields fragment := ⟨[], ended⟩
  obtain ⟨type, -, sql, -, followUp⟩ := compileColumn_of_yields yields
  constructor
  · intro value known
    rw [sql]
    refine setsApart_option (.default value) rfl ?_
    simp [ColumnDefinition.options, known]
  · intro style text known
    rw [sql]
    refine setsApart_option (.comment text) rfl ?_
    simp [ColumnDefinition.options, known, style]
  · intro style text known
    refine ⟨TableStatement.statement dialect creation (.comment name text), ?_, ?_⟩
    · simpa [commentStatements, style, known] using followUp
    · exact setsApart_last
        ("COMMENT ON COLUMN " ++ dialect.quotedName table ++ "." ++ dialect.quotedName name)

/-- Every text between quotes and all bytes are read back from their literals by the rules of each
dialect, up to the end of the literal and no further. The literals of default values and comments
stand apart in every compiled column, so they are read there as well. -/
theorem literals_read_back (family : Family) :
    (∀ value : Value, value.isTextual = true → ∀ following, Sql.Apart following →
      Sql.readText (family = .mysql) ((family.dialect.quoteLiteral value).toList ++ following) =
        some (value.plain.toList, following)) ∧
    (∀ form bytes following, Sql.Apart following →
      Sql.readBinary family
          ((family.dialect.quoteLiteral (.binary form bytes)).toList ++ following) =
        some (bytes, following)) ∧
    ∀ table name definition inlineKey fragment,
      (compileColumn family.dialect table name definition inlineKey).result = .ok fragment →
        fragment.LiteralsApart family.dialect definition := by
  refine ⟨fun value textual following apart => family.readText_quoteLiteral textual apart,
    fun form bytes following apart => ?_, fun _ _ _ _ _ => literalsApart_of_compiled⟩
  have written : family.dialect.quoteLiteral (.binary form bytes) =
      Dialect.binaryLiteral family bytes := by
    cases family <;> rfl
  rw [written]
  exact Sql.readBinary_binaryLiteral family bytes apart

/-- A quote is doubled, and a backslash too where it is an escape; in a column another option may
follow. -/
theorem escapedLiterals_read_back :
    Sql.readText true ("'it''s \\\\'".toList ++ " UNIQUE".toList) =
        some ("it's \\".toList, " UNIQUE".toList) ∧
      Sql.readBinary .postgresql ("'\\x00ff'::bytea".toList ++ []) = some ([0, 255], []) ∧
      Family.mysql.dialect.SetsApart "DEFAULT " (.text "it's")
        "\x60a\x60 INT DEFAULT 'it''s' UNIQUE" := by
  have text : Family.mysql.dialect.quoteLiteral (.text "it's \\") = "'it''s \\\\'" := by cbv
  have binary : Family.postgresql.dialect.quoteLiteral (.binary .fixed [0, 255]) =
      "'\\x00ff'::bytea" := by cbv
  have compiled : (compileColumn Family.mysql.dialect "t" "a"
      { type := .integer, default? := some (.text "it's"), uniqueKey := true }).result =
        .ok { sql := "\x60a\x60 INT DEFAULT 'it''s' UNIQUE" } := by cbv
  refine ⟨?_, ?_, ?_⟩
  · rw [← text]
    exact (literals_read_back .mysql).1 (.text "it's \\") rfl _ (Sql.apart_space _)
  · rw [← binary]
    exact (literals_read_back .postgresql).2.1 .fixed [0, 255] [] Sql.apart_nil
  · exact ((literals_read_back .mysql).2.2 _ _ _ _ _ compiled).default _ rfl

end PortableSql
