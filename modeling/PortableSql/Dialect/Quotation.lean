import PortableSql.Dialect.Builtin
import PortableSql.Reporting
import PortableSql.Text.Hex

/-!
# Quoted names and literals

A dotted name is quoted part by part, with the closing quote doubled inside a part. A literal is
the text of a value where no parameter can be bound: a quote inside it is doubled, and where the
dialect reads backslashes as escapes they are doubled too.
-/

namespace PortableSql

/-- The most characters of one part of a name. -/
def longestName : Nat := 128

/-- How many characters of a name that is too long are reported. -/
def reportedName : Nat := 32

/-- Why a part of a name cannot be quoted, if it cannot. -/
def nameFault? (what part : String) : Option Failure :=
  let refusal := fun message => Failure.validation message "" .null .invalidIdentifier
  if part.isEmpty then some (refusal ("Empty " ++ what ++ " name"))
  else if part.length > longestName then
    some (refusal (what ++ " name too long: " ++ Text.taken reportedName part ++ "..."))
  else if part.toList.contains '\x00' then
    some (refusal ("Invalid " ++ what ++ " name: contains NUL"))
  else none

/-- The characters after an opening text, if they begin with it. -/
def afterText? : List Char → List Char → Option (List Char)
  | [], characters => some characters
  | _ :: _, [] => none
  | expected :: others, first :: rest =>
    if expected = first then afterText? others rest else none

theorem afterText?_length {opening characters rest : List Char}
    (found : afterText? opening characters = some rest) :
    rest.length + opening.length = characters.length := by
  fun_induction afterText? opening characters with
  | case1 characters => simp_all
  | case2 => simp at found
  | case3 others first rest inductionHypothesis =>
    have shorter := inductionHypothesis found
    simp only [List.length_cons]
    omega
  | case4 => simp at found

/-- The characters of a quoted text, with every closing quote doubled, from left to right; without
a closing quote nothing is doubled. -/
def doubled (closing characters : List Char) : List Char :=
  match characters with
  | [] => []
  | first :: rest =>
    match _found : afterText? closing (first :: rest) with
    | none => first :: doubled closing rest
    | some after =>
      if closing.isEmpty then first :: rest else closing ++ closing ++ doubled closing after
termination_by characters.length
decreasing_by
  · simp
  · have shorter := afterText?_length _found
    have full : closing.length ≠ 0 := by simp_all
    simp only [List.length_cons] at shorter ⊢
    omega

/-- A closing quote of one character is doubled wherever it stands. -/
theorem doubled_singleton (closing : Char) (characters : List Char) :
    doubled [closing] characters = characters.flatMap fun character =>
      if character = closing then [closing, closing] else [character] := by
  induction characters with
  | nil => simp [doubled]
  | cons first rest inductionHypothesis =>
    rw [doubled]
    split
    · rename_i missing
      have other : first ≠ closing := by
        intro same
        simp [afterText?, same] at missing
      simp [inductionHypothesis, other]
    · rename_i after found
      by_cases same : closing = first
      · simp only [afterText?, same, if_true, Option.some.injEq] at found
        rw [same, found] at inductionHypothesis
        simp [same, found, inductionHypothesis]
      · simp [afterText?, same] at found

/-- Characters between quotes. -/
def enclosed (quote : String × String) (characters : List Char) : List Char :=
  quote.1.toList ++ doubled quote.2.toList characters ++ quote.2.toList

/-- One part of a name between quotes. -/
def quotePart (quote : String × String) (what part : String) : Reporting String :=
  match nameFault? what part with
  | some failure => .raise failure
  | none => pure (String.ofList (enclosed quote part.toList))

/-- A name between quotes, part by part. -/
def quoteName (quote : String × String) (what name : String) : Reporting String := do
  let quoted ← (Text.parts '.' name).mapM fun part => quotePart quote what (Text.trimmed part)
  pure (".".intercalate quoted)

/-- A value that has to be a name between quotes. -/
def quoteNameValue (quote : String × String) (what : String) : Value → Reporting String
  | .text name => quoteName quote what name
  | value => .raise (.validation
      (what ++ " must be a string, got " ++ value.typeName) "" value .invalidIdentifier)

namespace Dialect

/-- A name in the quotes of the dialect. -/
def quoteIdentifier (dialect : Dialect) (name : String) (what : String := "identifier") :
    Reporting String :=
  quoteName dialect.table.identifierQuote what name

/-- Names in the quotes of the dialect. -/
def quoteIdentifiers (dialect : Dialect) (names : List String) (what : String := "identifier") :
    Reporting (List String) :=
  names.mapM fun name => dialect.quoteIdentifier name what

/-- A binary literal. -/
def binaryLiteral (family : Family) (bytes : List UInt8) : String :=
  match family with
  | .postgresql => "'\\x" ++ Text.hexBytes bytes ++ "'::bytea"
  | .mssql => "0x" ++ Text.hexBytes bytes
  | .mysql | .sqlite => "X'" ++ Text.hexBytes bytes ++ "'"

/-- A text between single quotes. -/
def textLiteral (backslashEscapes : Bool) (text : String) : String :=
  let escaped := if backslashEscapes then doubled ['\\'] text.toList else text.toList
  String.ofList (enclosed ("'", "'") escaped)

/-- A value as a literal. -/
def quoteLiteral (dialect : Dialect) : Value → String
  | .null => "NULL"
  | .bool truth =>
    if truth then dialect.table.booleanLiterals.1 else dialect.table.booleanLiterals.2
  | .binary _ bytes => binaryLiteral dialect.family bytes
  | value@(.int _) | value@(.float _) | value@(.decimal _) => value.plain
  | value => textLiteral dialect.table.backslashEscapes value.plain

end Dialect

end PortableSql
