import PortableSql.Payload.Clause

/-!
# Reading selects

The clauses of a select are texts; lists of columns and orderings are joined. A limit is a count
or a text with a count or an offset and a count. Each entry of the subqueries is a select of its
own, as its payload or as a list of the payload and its arguments.
-/

namespace PortableSql.Payload

/-- A list of items stands for their texts joined by commas. -/
def joined (value : Value) : Value :=
  match itemsOf? value with
  | some items => .text (Text.listed (items.map Value.plain))
  | none => value

/-- What follows a count or a question mark and the white space around it. -/
def afterCount? (characters : List Char) : Option (List Char) :=
  match characters.dropWhile Text.isBlank with
  | '?' :: rest => some (rest.dropWhile Text.isBlank)
  | rest =>
    let left := rest.dropWhile Text.isDecimal
    if left.length < rest.length then some (left.dropWhile Text.isBlank) else none

/-- One or two counts with a comma between them. -/
def isLimitText (text : String) : Bool :=
  match afterCount? text.toList with
  | none => false
  | some [] => true
  | some (',' :: rest) => afterCount? rest == some []
  | some _ => false

/-- How a limit has to look. -/
def limitShape : String :=
  "LIMIT must be an integer or a 'count' / 'offset, count' string"

/-- Reads a limit. -/
def readLimit : Value → Checked (Option Limit)
  | .null => .accepted none
  | .bool _ => .refusedValue limitShape
  | .int number =>
    if number < 0 then .refusedValue "LIMIT must not be negative"
    else .accepted (some (.count number))
  | .text limit =>
    if isLimitText limit then .accepted (some (.written (Text.trimmed limit)))
    else .refusedValue (limitShape ++ ", got " ++ Text.quoted limit)
  | value => .refusedValue (limitShape ++ ", got " ++ value.shown)

/-- Reads the columns of a select. A value that is neither text nor a list of texts is reported
as failing to be either. -/
def readColumnList (value : Value) : Checked ColumnList :=
  match itemsOf? value with
  | some [] => .refusedValue "columns cannot be empty"
  | _ => match readText value, readList readText value with
    | .accepted columns, _ => .accepted (.text columns)
    | _, .accepted columns => .accepted (.names columns)
    | noText, noList =>
      match (noText.inside "str").both fun _ => noList.inside "list[str]" with
      | .rejected issues => .rejected issues
      | .broken failure earlier => .broken failure earlier
      | .accepted (columns, _) => .accepted (.text columns)

/-- The keys that every command has. -/
def commonKeys : List Key := [{ name := "command_type" }, { name := "args" }]

/-- The keys of a select. -/
def selectKeys : List Key :=
  commonKeys ++
  [{ name := "columns" }, { name := "distinct", keyword := "DISTINCT" },
   { name := "from_clause", keyword := "FROM" }, { name := "where_clause", keyword := "WHERE" },
   { name := "group_by", keyword := "GROUP BY" },
   { name := "having_clause", keyword := "HAVING" },
   { name := "order_by", keyword := "ORDER BY" }, { name := "limit", keyword := "LIMIT" },
   { name := "subqueries", keyword := "SUBQUERIES" },
   { name := "export_rows", keyword := "EXPORT ROWS" },
   { name := "export_hints", keyword := "EXPORT HINTS" }]

/-- Reads the tag that a payload may repeat, for its issues only. -/
def repeatedTag (tag : Tag) (entries : Entries) : Checked Unit :=
  optional entries { name := "command_type" } () (readTag tag)

/-- Reads the arguments of a payload, unless others take their place. -/
def readArgs (entries : Entries) : Option (List Value) → Checked (List Value)
  | some args => .accepted args
  | none => optional entries { name := "args" } [] (readList readAny)

/-- A subquery in a shape that is none: a list that does not begin with a payload. -/
def subqueryShape : String :=
  "subquery entries must be a payload mapping followed by its arguments"

/-- Why the entries of the subqueries cannot be read at all, if they cannot. -/
def subqueryFault? : List Value → Option (Checked (List Select))
  | [] => none
  | entry :: rest => match entry with
    | .dictionary payload => match collapsedIn? "subquery" payload with
      | some report => some (.refusedBy report)
      | none => subqueryFault? rest
    | .list (.dictionary payload :: _) | .tuple (.dictionary payload :: _) =>
      match collapsedIn? "subquery" payload with
      | some report => some (.refusedBy report)
      | none => subqueryFault? rest
    | .list _ | .tuple _ => some (.refusedValue subqueryShape)
    | _ => subqueryFault? rest

/-- The items that a value offers one by one, if it offers any. -/
def offered? : Value → Option (List Value)
  | .null => some []
  | .list items | .tuple items => some items
  | .text characters => some (characters.toList.map fun character => .text character.toString)
  | .binary _ bytes => some (bytes.map fun byte => .int byte.toNat)
  | .dictionary entries => some (entries.map Prod.fst)
  | _ => none

/-- The subqueries that a payload gives, under one spelling of their key. -/
abbrev Nested := List (String × Checked (List Select))

/-- The subqueries of a payload, by the keyword first. -/
def nestedOf (nested : Nested) : Checked (List Select) :=
  match nested.lookup "SUBQUERIES", nested.lookup "subqueries" with
  | some found, _ => found.inside "SUBQUERIES"
  | none, some found => found.inside "subqueries"
  | none, none => .accepted []

/-- Reads the fields of a select whose subqueries are read already. -/
def readSelectFields (entries : Entries) (args : Option (List Value)) (nested : Nested) :
    Checked Select :=
  modelOf selectKeys entries
    ((fun (_ : Unit) => Select.mk)
      <$> repeatedTag .select entries
      <*> readArgs entries args
      <*> optional entries { name := "columns" } (.text "*") readColumnList
      <*> optional entries { name := "distinct", keyword := "DISTINCT" } false readBool
      <*> optional entries { name := "from_clause", keyword := "FROM" } none
        (nullable readFullText)
      <*> optional entries { name := "where_clause", keyword := "WHERE" } none (nullable readText)
      <*> optional entries { name := "group_by", keyword := "GROUP BY" } none
        (fun value => nullable readText (joined value))
      <*> optional entries { name := "having_clause", keyword := "HAVING" } none
        (nullable readText)
      <*> optional entries { name := "order_by", keyword := "ORDER BY" } none
        (fun value => nullable readText (joined value))
      <*> optional entries { name := "limit", keyword := "LIMIT" } none readLimit
      <*> nestedOf nested
      <*> optional entries { name := "export_rows", keyword := "EXPORT ROWS" } false readBool
      <*> optional entries { name := "export_hints", keyword := "EXPORT HINTS" } false readBool)

mutual

/-- The subqueries that a payload gives. -/
def nestedIn : List (Value × Value) → Nested
  | [] => []
  | (key, value) :: rest =>
    match key with
    | .text spelling =>
      if spelling = "SUBQUERIES" || spelling = "subqueries" then
        (spelling, readSubqueries value) :: nestedIn rest
      else nestedIn rest
    | _ => nestedIn rest

/-- Reads the entries of the subqueries. -/
def readSubqueries (value : Value) : Checked (List Select) :=
  match value with
  | .list items => (subqueryFault? items).getD (readSelects 0 items)
  | .tuple items => (subqueryFault? items).getD (readSelects 0 items)
  | other => match offered? other with
    | none => .faulty .badType
      ("'" ++ other.qualifiedTypeName ++ "' object is not iterable")
    | some items => (subqueryFault? items).getD
      (Checked.items (fun _ => notModel "Select") 0 items)

/-- Reads selects side by side, each under its position, counted from `position`. -/
def readSelects (position : Nat) : List Value → Checked (List Select)
  | [] => .accepted []
  | entry :: rest =>
    ((readEntry entry).inside (toString position)).both (fun _ => readSelects (position + 1) rest)
      |>.map fun (first, others) => first :: others

/-- Reads one entry of the subqueries: a payload, or a payload with arguments. -/
def readEntry : Value → Checked Select
  | .dictionary entries => readSelectFields entries none (nestedIn entries)
  | .list (.dictionary entries :: args) => readSelectFields entries (some args) (nestedIn entries)
  | .tuple (.dictionary entries :: args) => readSelectFields entries (some args) (nestedIn entries)
  | _ => notModel "Select"

end

/-- Reads a select in the place of a value. -/
def readSelect : Value → Checked Select
  | .dictionary entries => readSelectFields entries none (nestedIn entries)
  | _ => notModel "Select"

end PortableSql.Payload
