import PortableSql.Text.Quoted
import PortableSql.Value.Basic

/-!
# The text of values

A value has a plain text, used in literals and joined lists, and a shown form, used inside
containers and where a message quotes a value. They differ for text, decimals and moments.
-/

namespace PortableSql

namespace Value

mutual

/-- The shown form of a value. -/
def shown : Value → String
  | null => "None"
  | bool truth => if truth then "True" else "False"
  | int number => toString number
  | float number => Number.floatText number
  | decimal number => "Decimal('" ++ number.text ++ "')"
  | text characters => Text.quoted characters
  | binary .fixed bytes => Text.quotedBytes bytes
  | binary .growable bytes => "bytearray(" ++ Text.quotedGrowable bytes ++ ")"
  | binary .view _ => "<memory>"
  | date day => day.shown
  | time clock => clock.shown
  | datetime moment => moment.shown
  | list items => "[" ++ Text.listed (shownAll items) ++ "]"
  | tuple [item] => "(" ++ shown item ++ ",)"
  | tuple items => "(" ++ Text.listed (shownAll items) ++ ")"
  | dictionary entries => "\x7b" ++ Text.listed (shownEntries entries) ++ "\x7d"

/-- The shown forms of the items of a container. -/
def shownAll : List Value → List String
  | [] => []
  | item :: rest => shown item :: shownAll rest

/-- The shown forms of the entries of a dictionary. -/
def shownEntries : List (Value × Value) → List String
  | [] => []
  | (key, value) :: rest => (shown key ++ ": " ++ shown value) :: shownEntries rest

end

/-- The plain text of a value. -/
def plain : Value → String
  | text characters => characters
  | decimal number => number.text
  | date day => String.ofList day.iso
  | time clock => String.ofList clock.iso
  | datetime moment => String.ofList (moment.iso ' ')
  | value => value.shown

end Value

end PortableSql
