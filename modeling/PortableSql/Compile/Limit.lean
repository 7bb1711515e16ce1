import PortableSql.Command.Basic
import PortableSql.Compile.Clause

/-!
# Row limits

A row limit is a count, or an offset and a count. Each of them is written as digits or is a
placeholder for an argument that is an integer or digits. What is written of a limit are numerals,
which have only so many digits.
-/

namespace PortableSql

/-- The number that an argument stands for. -/
def limitArgument (value : Value) : Except Failure Int :=
  let refusal := .error (.validation "LIMIT arguments must be non-negative integers" "LIMIT" value
    .invalidArgument)
  match value with
  | .text digits =>
    if Text.allDigits (Text.trim digits.toList) then Text.integer digits else refusal
  | .int number => if 0 ≤ number then .ok number else refusal
  | _ => refusal

/-- The number that a part of a limit stands for. -/
def limitPart (part : List Char) : Emitting Int := do
  if part = ['?'] then
    let value ← Emitting.next "LIMIT"
    match limitArgument value with
    | .ok number => pure number
    | .error failure => .refuse failure
  else match Text.integer (String.ofList part) with
    | .ok number => pure number
    | .error failure => .refuse failure

/-- The offset and the count of a limit. -/
def resolveLimit : Option Limit → Emitting (Option (Int × Int))
  | none => pure none
  | some (.count rows) => pure (some (0, rows))
  | some (.written limit) => do
    match ← ((Text.cut ',' limit.toList).map Text.trim).mapM limitPart with
    | [] => pure none
    | [count] => pure (some (0, count))
    | offset :: count :: _ => pure (some (offset, count))

/-- A limit in the standard syntax. -/
def limitSql (offset count : Int) : Except Failure String := do
  let limit := " LIMIT " ++ (← Text.numeral count)
  if offset = 0 then pure limit else pure (limit ++ " OFFSET " ++ (← Text.numeral offset))

/-- A limit as a warning shows it. -/
def limitShown (offset count : Int) : Except Failure String := do
  pure ((← Text.numeral offset) ++ ", " ++ (← Text.numeral count))

end PortableSql
