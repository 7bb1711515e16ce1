import PortableSql.Dialect.Quotation
import PortableSql.Sql.Statement
import PortableSql.Text.Case.Upper
import PortableSql.Value.Integer

/-!
# Reshaped rows

The rows of a server become rows of the library: columns are renamed by position, or rows that
describe columns become the text that creates their table. A plan may make any other rows of them.
-/

namespace PortableSql

/-- The value of a column that has to be there. -/
def columnOf (row : Row) (column : String) : Except Failure Value :=
  match row.lookup column with
  | some value => .ok value
  | none => .error (.fault .missingKey (Text.quoted column))

/-- The value of a column, or null. -/
def columnOrNull (row : Row) (column : String) : Value := (row.lookup column).getD .null

/-- The type of a described column. -/
def describedType (row : Row) : Except Failure String := do
  let type := Text.upper (← columnOf row "data_type").plain
  match columnOrNull row "character_maximum_length" with
  | .null => match columnOrNull row "numeric_precision" with
    | .null => pure type
    | precision =>
      if type = "NUMERIC" || type = "DECIMAL" then
        let scale := columnOrNull row "numeric_scale"
        pure (type ++ "(" ++ precision.plain ++ "," ++
          (if scale.holds then scale.plain else "0") ++ ")")
      else pure type
  | length => do
    let whole ← length.toInteger
    pure (if whole < 0 then type ++ "(MAX)" else type ++ "(" ++ length.plain ++ ")")

/-- The line of a described column. -/
def describedLine (quote : String × String) (row : Row) : Reporting String := do
  let name ← quoteNameValue quote "identifier" (← Reporting.ofExcept (columnOf row "column_name"))
  let type ← Reporting.ofExcept (describedType row)
  let nullable := ((row.lookup "is_nullable").getD (.text "YES")).plain
  let mark := if Text.upper nullable = "NO" then " NOT NULL" else ""
  let usual := match columnOrNull row "column_default" with
    | .null => ""
    | value => " DEFAULT " ++ value.plain
  pure ("  " ++ name ++ " " ++ type ++ mark ++ usual)

/-- Renames the columns by position. -/
def renamedRows (names : List String) : Reshape := fun rows =>
  pure (rows.map fun row => entriesOf (names.zip (row.map Prod.snd)))

/-- Makes of rows that describe columns one row with the creation of their table. -/
def tableCreation (table : String) (quote : String × String) : Reshape := fun rows => do
  if rows.isEmpty then pure []
  else
    let lines ← rows.mapM (describedLine quote)
    let quoted ← quoteName quote "table" table
    let sql := "CREATE TABLE " ++ quoted ++ " (\n" ++ ",\n".intercalate lines ++ "\n)"
    pure [[("name", .text table), ("sql", .text sql)]]

end PortableSql
