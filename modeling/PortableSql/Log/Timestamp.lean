import PortableSql.Failure
import PortableSql.Value.Calendar

/-!
# Timestamps

A moment is a number of seconds since the beginning of 1970 with microseconds. It is written in
ISO form for the meridian of Greenwich, with the microseconds when there are some.
-/

namespace PortableSql.Log

/-- Seconds since the beginning of 1970, and microseconds after them. -/
structure Moment where
  seconds : Int
  microseconds : Nat := 0

namespace Moment

/-- The moment of whole seconds and microseconds of either sign. -/
def ofParts (seconds microseconds : Int) : Moment :=
  let total := seconds * 1000000 + microseconds
  { seconds := total.fdiv 1000000, microseconds := (total.fmod 1000000).toNat }

/-- The whole number that is nearest to a finite double; halves go to the even one. -/
def nearest (number : Float) : Int :=
  match (Value.float number).rational? with
  | some (numerator, denominator) =>
    let rounded : Int := Number.roundedQuotient numerator.natAbs denominator
    if numerator < 0 then -rounded else rounded
  | none => 0

/-- The moment of a finite double. The fraction of its seconds is scaled as a double before it is
rounded. -/
def ofFloat (number : Float) : Moment :=
  let whole := if number < 0.0 then number.ceil else number.floor
  ofParts (nearest whole) (nearest ((number - whole) * 1000000.0))

/-- No clock reaches the moment. -/
def tooFar : Failure := .fault .overflow "timestamp out of range for platform time_t"

/-- The moment of a number of seconds. Doubles reach one step further than whole numbers. -/
def ofValue : Value → Except Failure Moment
  | .float number =>
    if number.isNaN then .error (.fault .badValue "Invalid value NaN (not a number)")
    else if 9223372036854775808.0 < number.abs then .error tooFar
    else .ok (ofFloat number)
  | .int seconds =>
    if seconds < -0x8000000000000000 || 0x7fffffffffffffff < seconds then .error tooFar
    else .ok { seconds }
  | .bool truth => .ok { seconds := if truth then 1 else 0 }
  | other => .error (.fault .badType ("'" ++ other.qualifiedTypeName ++
      "' object cannot be interpreted as an integer"))

/-- Digits of a number in a fixed width. -/
def padded (width number : Nat) : String := String.ofList (Number.paddedDigits width number)

/-- Years are counted from 1900 in thirty-two bits with a sign. -/
def isCountable (year : Int) : Bool :=
  -0x80000000 ≤ year - 1900 && year - 1900 ≤ 0x7fffffff

/-- A year as it is reported: in thirty-two bits with a sign itself. -/
def reportedYear (year : Int) : Int := year.bmod 0x100000000

/-- The ISO form of a moment of the years one to 9999. -/
def iso (moment : Moment) : Except Failure String :=
  let day := Day.ofNumber (moment.seconds.fdiv 86400)
  let second := (moment.seconds.fmod 86400).toNat
  if !isCountable day.year then
    .error (.fault .system "[Errno 75] Value too large for defined data type")
  else if day.year < 1 || 9999 < day.year then
    .error (.fault .badValue ("year " ++ toString (reportedYear day.year) ++ " is out of range"))
  else
    let date := String.ofList day.iso
    let time := padded 2 (second / 3600) ++ ":" ++ padded 2 (second / 60 % 60) ++ ":" ++
      padded 2 (second % 60)
    let fraction := if moment.microseconds = 0 then "" else "." ++ padded 6 moment.microseconds
    .ok (date ++ "T" ++ time ++ fraction ++ "+00:00")

end Moment

end PortableSql.Log
