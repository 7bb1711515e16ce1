import PortableSql.Text.Hex
import PortableSql.Text.Points
import PortableSql.Value.Integer

/-!
# Values as JSON

A value is written as JSON text in printable ASCII: other characters are escaped by their UTF-16
units. Values that JSON does not have are written as texts.
-/

namespace PortableSql

namespace Text

/-- An escape of one UTF-16 unit. -/
def escapedUnit (unit : Nat) : List Char := '\\' :: 'u' :: hexDigits 4 unit

/-- One code point of a JSON text. -/
def jsonPoint (code : Nat) : List Char :=
  if code = 0x22 || code = 0x5c then ['\\', Char.ofNat code]
  else if code = 10 then ['\\', 'n']
  else if code = 13 then ['\\', 'r']
  else if code = 9 then ['\\', 't']
  else if code = 8 then ['\\', 'b']
  else if code = 12 then ['\\', 'f']
  else if 0x20 ≤ code && code < 0x7f then [Char.ofNat code]
  else if code < 0x10000 then escapedUnit code
  else escapedUnit (0xd800 + (code - 0x10000) / 0x400) ++
    escapedUnit (0xdc00 + (code - 0x10000) % 0x400)

/-- A JSON text of code points; a lone surrogate is a unit of its own. -/
def jsonPoints (codes : Points) : String :=
  String.ofList ('"' :: codes.flatMap jsonPoint ++ ['"'])

/-- A JSON text. -/
def json (text : String) : String := jsonPoints (points text)

end Text

namespace Value

/-- A double as a JSON number, or as the usual word where it is none. -/
def jsonFloat (number : Float) : String :=
  match Number.Binary64.ofFloat number with
  | .notANumber => "NaN"
  | .infinite negative => if negative then "-Infinity" else "Infinity"
  | .finite .. => Number.floatText number

/-- The key of an entry; only simple values can be keys. -/
def jsonKey : Value → Except Failure String
  | .text key => .ok (Text.json key)
  | .int key => (Text.numeral key).map Text.json
  | .float key => .ok (Text.json (jsonFloat key))
  | .bool key => .ok (Text.json (if key then "true" else "false"))
  | .null => .ok (Text.json "null")
  | other => .error (.fault .badType
      ("keys must be str, int, float, bool or None, not " ++ other.qualifiedTypeName))

mutual

/-- A value as JSON. -/
def json : Value → Except Failure String
  | .null => .ok "null"
  | .bool truth => .ok (if truth then "true" else "false")
  | .int number => Text.numeral number
  | .float number => .ok (jsonFloat number)
  | .text characters => .ok (Text.json characters)
  | .list items => do pure ("[" ++ Text.listed (← jsonItems items) ++ "]")
  | .tuple items => do pure ("[" ++ Text.listed (← jsonItems items) ++ "]")
  | .dictionary entries => do pure ("\x7b" ++ Text.listed (← jsonEntries entries) ++ "\x7d")
  | value => .ok (Text.json value.plain)

/-- The items of a list as JSON. -/
def jsonItems : List Value → Except Failure (List String)
  | [] => .ok []
  | item :: rest => do
    let first ← json item
    pure (first :: (← jsonItems rest))

/-- The entries of a dictionary as JSON. -/
def jsonEntries : List (Value × Value) → Except Failure (List String)
  | [] => .ok []
  | (key, value) :: rest => do
    let first ← jsonKey key
    let second ← json value
    pure ((first ++ ": " ++ second) :: (← jsonEntries rest))

end

end Value

end PortableSql
