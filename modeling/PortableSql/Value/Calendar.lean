import PortableSql.Number.FixedText
import PortableSql.Text.Quoted

/-!
# Calendar days

Days are numbered from the beginning of 1970. A day is written by its year, month and day, and is
read from that form or from its year, week and weekday, with hyphens between the parts or without
them. A week belongs to the year that has its Thursday, so the first week has the fourth of January.
Reading looks no further than the day: ten characters may hold a day of eight.
-/

namespace PortableSql

/-- A calendar day. -/
structure Day where
  year : Int
  month : Nat
  day : Nat
deriving DecidableEq, Repr

namespace Day

/-- The day of a number. Years are counted from March within eras of four hundred years. -/
def ofNumber (number : Int) : Day :=
  let shifted := number + 719468
  let era := shifted.fdiv 146097
  let dayOfEra := (shifted.fmod 146097).toNat
  let yearOfEra :=
    (dayOfEra - dayOfEra / 1460 + dayOfEra / 36524 - dayOfEra / 146096) / 365
  let dayOfYear := dayOfEra - (365 * yearOfEra + yearOfEra / 4 - yearOfEra / 100)
  let marchMonth := (5 * dayOfYear + 2) / 153
  let month := if marchMonth < 10 then marchMonth + 3 else marchMonth - 9
  { year := yearOfEra + era * 400 + (if month ≤ 2 then 1 else 0)
    month
    day := dayOfYear - (153 * marchMonth + 2) / 5 + 1 }

/-- The number of a day. -/
def number (day : Day) : Int :=
  let year := if day.month ≤ 2 then day.year - 1 else day.year
  let era := year.fdiv 400
  let yearOfEra := (year.fmod 400).toNat
  let marchMonth := if day.month ≤ 2 then day.month + 9 else day.month - 3
  let dayOfYear := (153 * marchMonth + 2) / 5 + day.day - 1
  let dayOfEra := yearOfEra * 365 + yearOfEra / 4 - yearOfEra / 100 + dayOfYear
  era * 146097 + dayOfEra - 719468

/-- The position of a day in its week; Monday is the first. -/
def weekday (day : Day) : Nat := ((day.number + 3).fmod 7).toNat + 1

/-- Years that have a twenty-ninth of February. -/
def isLeap (year : Int) : Bool := year % 4 = 0 && (year % 100 ≠ 0 || year % 400 = 0)

/-- Years of fifty-three weeks. -/
def isLong (year : Int) : Bool :=
  let first := weekday { year, month := 1, day := 1 }
  first = 4 || (first = 3 && isLeap year)

/-- The day of a week of a year. The weeks before the year one have no months. -/
def ofWeek (year week weekday : Nat) : Day :=
  if year = 0 then { year := 1, month := 0, day := 0 }
  else
    let fourth := number { year, month := 1, day := 4 }
    let firstMonday := fourth - (fourth + 3).fmod 7
    ofNumber (firstMonday + ((week : Int) - 1) * 7 + weekday - 1)

/-- The number of days of a month. -/
def monthLength (year : Int) (month : Nat) : Nat :=
  if month = 2 then (if isLeap year then 29 else 28)
  else if [4, 6, 9, 11].contains month then 30 else 31

/-- Why a day is none of the calendar of the years one to 9999. -/
def fault? (day : Day) : Option String :=
  if day.year < 1 || 9999 < day.year then
    some ("year " ++ toString day.year ++ " is out of range")
  else if day.month < 1 || 12 < day.month then some "month must be in 1..12"
  else if day.day < 1 || monthLength day.year day.month < day.day then
    some "day is out of range for month"
  else none

/-- Skips a hyphen where one separates the parts. -/
def skipHyphen? (separated : Bool) : List Char → Option (List Char)
  | '-' :: rest => if separated then some rest else some ('-' :: rest)
  | rest => if separated then none else some rest

/-- Reads a week of a year and a weekday; a week alone stands for its Monday. -/
def readWeek? (year : Nat) (separated : Bool) (characters : List Char) : Option Day := do
  let (week, rest) ← Text.fixedDigits? 2 characters
  let weekday ← if rest.isEmpty then some 1 else
    (Text.fixedDigits? 1 (← skipHyphen? separated rest)).map Prod.fst
  let weeks := if isLong year then 53 else 52
  if week < 1 || weeks < week || weekday < 1 || 7 < weekday then none
  else some (ofWeek year week weekday)

/-- Reads an ISO form of a day. -/
def read? (characters : List Char) : Option Day := do
  let (year, rest) ← Text.fixedDigits? 4 characters
  let separated := rest.head? = some '-'
  match (← skipHyphen? separated rest) with
  | 'W' :: rest => readWeek? year separated rest
  | rest =>
    let (month, rest) ← Text.fixedDigits? 2 rest
    let (day, _) ← Text.fixedDigits? 2 (← skipHyphen? separated rest)
    pure { year, month, day }

/-- The ISO form of a day of the years to 9999. -/
def iso (day : Day) : List Char :=
  Number.paddedDigits 4 day.year.toNat ++ '-' :: Number.paddedDigits 2 day.month ++
    '-' :: Number.paddedDigits 2 day.day

/-- Why a text is no ISO form. -/
def unreadable (iso : String) : String := "Invalid isoformat string: " ++ Text.quoted iso

/-- The lengths of the ISO forms of a day. -/
def isoLengths : List Nat := [7, 8, 10]

/-- The day of an ISO form, or why it has none. -/
def ofIso (iso : String) : Except String Day :=
  if !isoLengths.contains iso.utf8ByteSize then .error (unreadable iso)
  else match read? iso.toList with
    | none => .error (unreadable iso)
    | some day => match day.fault? with
      | some fault => .error fault
      | none => .ok day

/-- The length of the day at the beginning of an ISO form. Between a week and a time any character
may stand: a hyphen before a digit that is followed by another one belongs to the time, and so does
a digit where the digits of the time come in pairs. -/
def isoLength (characters : List Char) : Nat :=
  let isDigitAt := fun (position : Nat) => characters[position]?.any Char.isDigit
  if characters.length = 7 then 7
  else if characters[4]? = some '-' then
    if characters[5]? ≠ some 'W' then 10
    else if characters[8]? = some '-' then (if isDigitAt 10 then 8 else 10)
    else 8
  else if characters[4]? ≠ some 'W' then 8
  else
    let digits := ((characters.drop 7).takeWhile Char.isDigit).length
    if digits < 2 then 7 + digits else if digits % 2 = 1 then 7 else 8

end Day

end PortableSql
