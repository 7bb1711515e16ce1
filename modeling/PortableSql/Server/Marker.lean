import PortableSql.Sql.Scan
import PortableSql.Sql.Statement
import PortableSql.Value.Bytes

/-!
# Parameter markers

Drivers mark the places of parameters in different ways. The question marks of a statement are
replaced by the marks of the driver, with the same scan that found them in the clauses, so
what stands between quotes remains. Where a driver treats percent signs as marks, those of the
statement are doubled first.
-/

namespace PortableSql

/-- How a driver marks parameters. -/
inductive MarkerStyle where
  /-- A question mark. -/
  | question
  /-- A percent sign and a letter. -/
  | percent
  /-- A colon and a number, from one. -/
  | colonNumber
  /-- A dollar sign and a number, from one. -/
  | dollarNumber
  /-- A percent sign, a name between parentheses and a letter. -/
  | percentName
  /-- A colon and a name. -/
  | colonName
deriving DecidableEq, Repr

namespace MarkerStyle

/-- The names of the styles. -/
def spellings : List (String × MarkerStyle) :=
  [("qmark", question), ("format", percent), ("numeric", colonNumber),
   ("numeric_dollar", dollarNumber), ("pyformat", percentName), ("named", colonName)]

/-- The style of a name; styles that are not known mark by names. -/
def ofSpelling (spelling : String) : MarkerStyle := (spellings.lookup spelling).getD colonName

/-- The style treats percent signs as marks. -/
def usesPercent : MarkerStyle → Bool
  | percent | percentName => true
  | _ => false

/-- The style names its parameters. -/
def usesNames : MarkerStyle → Bool
  | percentName | colonName => true
  | _ => false

end MarkerStyle

/-- The name of a parameter, by its position from zero. -/
def parameterName (position : Nat) : String := "p" ++ toString position

/-- The mark of a parameter, by its position from zero. -/
def MarkerStyle.marker (style : MarkerStyle) (position : Nat) : String :=
  match style with
  | question => "?"
  | percent => "%s"
  | colonNumber => ":" ++ toString (position + 1)
  | dollarNumber => "$" ++ toString (position + 1)
  | percentName => "%(" ++ parameterName position ++ ")s"
  | colonName => ":" ++ parameterName position

/-- The characters with every percent sign doubled. -/
def doubledPercent (characters : List Char) : List Char :=
  characters.flatMap fun character => if character = '%' then ['%', '%'] else [character]

/-- The next mark; only as many names as there are parameters exist. -/
def nextMarker (style : MarkerStyle) (parameters : Nat) : StateT Nat (Except Failure) String := do
  let position ← get
  if style.usesNames && parameters ≤ position then
    throw (.fault .badIndex "list index out of range")
  else
    set (position + 1)
    pure (style.marker position)

/-- The text of a statement with the marks of a driver. -/
def replaceMarkers (style : MarkerStyle) (delimiters : List Sql.Delimiter) (parameters : Nat)
    (sql : String) : Except Failure String :=
  if style = .question then .ok sql
  else do
    let prepared := if style.usesPercent then doubledPercent sql.toList else sql.toList
    let tokens : Sql.Tokens := { subqueries := false }
    let (characters, _) ← (Sql.replaceM (nextMarker style parameters) (fun _ => pure "")
      (Sql.pieces tokens delimiters prepared)).run 0
    pure (String.ofList characters)

/-- Parameters as a driver takes them. -/
inductive BoundValues where
  | none
  | positional (values : List Value)
  | named (values : List (String × Value))

/-- A parameter as its kind is bound. -/
def boundValue (parameter : Parameter) : Except Failure Value :=
  match parameter.kind, parameter.value with
  | .null, _ => .ok .null
  | .binary, .null => .ok .null
  | .binary, value => (value.toBytes).map (.binary .fixed)
  | .string, value => .ok value

/-- The values for the marks of a style. -/
def BoundValues.arrange (style : MarkerStyle) (values : List Value) : BoundValues :=
  if style.usesNames then
    .named (values.zipIdx.map fun (value, position) => (parameterName position, value))
  else .positional values

/-- A statement with the marks of a driver, and its values. -/
def bindStatement (style : MarkerStyle) (delimiters : List Sql.Delimiter) (sql : String)
    (values : List Value) : Except Failure (String × BoundValues) := do
  let text ← replaceMarkers style delimiters values.length sql
  pure (text, .arrange style values)

end PortableSql
