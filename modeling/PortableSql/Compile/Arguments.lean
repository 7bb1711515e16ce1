import PortableSql.Reporting

/-!
# Arguments of a command

The positional arguments of a command are consumed by its placeholders from left to right. Both
too few and too many of them are refused.
-/

namespace PortableSql

/-- Positional arguments and how many of them are consumed. -/
structure Arguments where
  values : List Value
  /-- The command that is named in reports. -/
  command : String
  position : Nat := 0

namespace Arguments

/-- How many arguments are left. -/
def remaining (arguments : Arguments) : Nat := arguments.values.length - arguments.position

/-- Consumes the next argument, for a placeholder of a clause. -/
def take (arguments : Arguments) (clause : String) : Except Failure (Value × Arguments) :=
  match arguments.values[arguments.position]? with
  | some value => .ok (value, { arguments with position := arguments.position + 1 })
  | none => .error (.validation
      (arguments.command ++ ": not enough arguments for the placeholders in " ++ clause ++ " (" ++
        toString arguments.values.length ++ " given)")
      clause .null .argumentMismatch)

/-- Consuming an argument moves one position on and leaves the values as they are. -/
theorem take_eq_ok {arguments next : Arguments} {clause : String} {value : Value}
    (taken : arguments.take clause = .ok (value, next)) :
    arguments.values[arguments.position]? = some value ∧
      next = { arguments with position := arguments.position + 1 } := by
  unfold take at taken
  split at taken <;> simp_all

/-- Refuses arguments that are left over. -/
def ensureConsumed (arguments : Arguments) : Except Failure Unit :=
  if arguments.remaining = 0 then .ok ()
  else .error (.validation
    (arguments.command ++ ": " ++ toString arguments.values.length ++
      " arguments given but only " ++ toString arguments.position ++ " placeholders to bind")
    "" .null .argumentMismatch)

end Arguments

end PortableSql
