import PortableSql.Command.Basic
import PortableSql.Reporting

/-!
# Statements and plans

A command compiles to statements, each a text with question marks and the parameters for them in
order, and to what the cursor does with the rows of the last statement.
-/

namespace PortableSql

/-- The kind that a value spells. -/
def ValueKind.read (value : Value) : Except Failure ValueKind :=
  let known? := match value with
    | .text spelling => ValueKind.ofSpelling? spelling
    | _ => none
  match known? with
  | some kind => .ok kind
  | none => .error (.fault .badValue (value.shown ++ " is not a valid ValueKind"))

/-- A bound value and how a driver binds it. -/
structure Parameter where
  value : Value
  kind : ValueKind

namespace Parameter

/-- Buffers of any form are bound as fixed bytes. -/
def settled : Value → Value
  | .binary _ bytes => .binary .fixed bytes
  | value => value

/-- How a value is bound when nothing else is said. -/
def usualKind : Value → ValueKind
  | .null => .null
  | .binary _ _ => .binary
  | _ => .string

/-- The parameter for a value. -/
def infer (value : Value) (kind? : Option ValueKind := none) : Parameter :=
  { value := settled value, kind := kind?.getD (usualKind value) }

/-- The parameter for a value with a kind that is still to be read. -/
def inferAs (value kind : Value) : Except Failure Parameter :=
  match kind with
  | .null => .ok (infer value)
  | other => (ValueKind.read other).map fun known => infer value known

end Parameter

/-- A text with question marks and the parameters for them, in order. -/
structure Statement where
  sql : String
  parameters : List Parameter := []

/-- Rows left out at the beginning, and the most rows passed on after them. -/
structure RowFilter where
  skip : Int := 0
  take : Option Int := none
deriving DecidableEq, Repr

/-- What a cursor makes of all rows of a server before it passes any of them on. -/
abbrev Reshape := List Row → Reporting (List Row)

/-- The statements of a command and what a cursor does with the rows of the last one. -/
structure Plan where
  statements : List Statement := []
  tag : Option Tag := none
  rowFilter : Option RowFilter := none
  reshape : Option Reshape := none
  /-- Rows that are given without a server. -/
  staticRows : Option (List Row) := none
  exportRows : Bool := false
  exportHints : Bool := false
  /-- The plan is meant for the master connection. -/
  master : Bool := false

/-- The texts of the statements. -/
def Plan.texts (plan : Plan) : List String := plan.statements.map (·.sql)

end PortableSql
