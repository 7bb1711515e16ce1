import PortableSql.Value.Calendar

/-!
# Times of day and moments

A time of day may say how far its clock is ahead of the one of Greenwich, and a moment is a day with
a time. Besides the ISO form there is a shown form, a call of the type with its numbers, in which
seconds and microseconds that are zero are left out. Shorter ISO forms are read as well: without
separators, without what is zero at the end, or with a T before the time.
-/

namespace PortableSql

/-- A time of day. -/
structure Clock where
  hour : Nat
  minute : Nat
  second : Nat
  microsecond : Nat
  /-- How many microseconds the clock is ahead of the one of Greenwich, if that is known. -/
  ahead? : Option Int := none
deriving DecidableEq, Repr

namespace Clock

/-- The parts of a clock face as they are written. -/
structure Face where
  /-- Hours, minutes and seconds, as many of them as there are. -/
  numbers : List Nat
  microsecond : Nat := 0
  /-- Something is left over behind the parts. -/
  remainder : Bool := false

/-- The seconds since midnight. -/
def Face.seconds (face : Face) : Nat :=
  (face.numbers[0]?.getD 0 * 60 + face.numbers[1]?.getD 0) * 60 + face.numbers[2]?.getD 0

/-- Reads the fraction of a second; its first six digits count. -/
def readFraction? (characters : List Char) : Option Face := do
  let width := min characters.length 6
  let (number, rest) ← Text.fixedDigits? width characters
  pure { numbers := [], microsecond := number * Nat.pow 10 (6 - width),
         remainder := !(rest.dropWhile Char.isDigit).isEmpty }

/-- Reads up to so many pairs of digits and a fraction. Colons stand between the pairs if one stands
behind the first of them; `separated?` tells whether one does, once that is known. A single ordinary
character behind a pair is left over. -/
def readFace? (separated? : Option Bool) : Nat → List Char → Option Face
  | 0, characters => readFraction? characters
  | count + 1, characters => do
    let (number, rest) ← Text.fixedDigits? 2 characters
    match rest with
    | [] => pure { numbers := [number] }
    | [mark] => if mark.toNat < 0x80 then pure { numbers := [number], remainder := true } else none
    | mark :: others =>
      let separated := separated?.getD (mark = ':')
      let face ←
        if mark = '.' || mark = ',' then readFraction? others
        else if !separated then readFace? (some false) count rest
        else if mark = ':' then readFace? (some true) count others
        else none
      pure { face with numbers := number :: face.numbers }

/-- Reads a distance from the clock of Greenwich. Less than a second is none. -/
def readAhead? (sign : Char) (characters : List Char) : Option Int := do
  let face ← readFace? none 3 characters
  if face.remainder then none
  else if face.seconds = 0 then pure 0
  else
    let ahead : Int := face.seconds * 1000000 + face.microsecond
    pure (if sign = '-' then -ahead else ahead)

/-- Reads an ISO form of a time of day. What is left over does no harm before a distance from
Greenwich. -/
def read? (characters : List Char) : Option Clock := do
  let isEnd := fun character => character = '+' || character = '-' || character = 'Z'
  let face ← readFace? none 3 (characters.takeWhile (!isEnd ·))
  let clock : Clock := {
    hour := face.numbers[0]?.getD 0
    minute := face.numbers[1]?.getD 0
    second := face.numbers[2]?.getD 0
    microsecond := face.microsecond }
  match characters.dropWhile (!isEnd ·) with
  | [] => if face.remainder then none else pure clock
  | ['Z'] => pure { clock with ahead? := some 0 }
  | 'Z' :: _ => none
  | sign :: rest => pure { clock with ahead? := some (← readAhead? sign rest) }

/-- Two digits. -/
def twoDigits (number : Nat) : List Char := Number.paddedDigits 2 number

/-- The microseconds after a point, when there are some. -/
def fractionText (microseconds : Nat) : List Char :=
  if microseconds = 0 then [] else '.' :: Number.paddedDigits 6 microseconds

/-- The distance from Greenwich in ISO form, with seconds only when there are some. -/
def aheadText (ahead : Int) : List Char :=
  let seconds := ahead.natAbs / 1000000
  let fraction := ahead.natAbs % 1000000
  let sign := if ahead < 0 then '-' else '+'
  sign :: twoDigits (seconds / 3600) ++ ':' :: twoDigits (seconds / 60 % 60) ++
    (if seconds % 60 = 0 && fraction = 0 then [] else ':' :: twoDigits (seconds % 60)) ++
    fractionText fraction

/-- The ISO form of a time of day. -/
def iso (clock : Clock) : List Char :=
  twoDigits clock.hour ++ ':' :: twoDigits clock.minute ++ ':' :: twoDigits clock.second ++
    fractionText clock.microsecond ++ ((clock.ahead?.map aheadText).getD [])

/-- The numbers that a shown time lists. -/
def numbers (clock : Clock) : List Nat :=
  let always := [clock.hour, clock.minute]
  if clock.microsecond ≠ 0 then always ++ [clock.second, clock.microsecond]
  else if clock.second ≠ 0 then always ++ [clock.second]
  else always

/-- The shown form of a span of microseconds: a negative one is some days back and the rest
forward. -/
def shownSpan (span : Int) : String :=
  let day := 86400000000
  let rest := (span.fmod day).toNat
  let named := fun (name : String) (number : Int) =>
    if number = 0 then [] else [name ++ "=" ++ toString number]
  let parts := named "days" (span.fdiv day) ++ named "seconds" (rest / 1000000) ++
    named "microseconds" (rest % 1000000)
  "datetime.timedelta(" ++ ", ".intercalate parts ++ ")"

/-- The shown form of a distance from Greenwich. -/
def shownAhead (ahead : Int) : String :=
  if ahead = 0 then "datetime.timezone.utc" else "datetime.timezone(" ++ shownSpan ahead ++ ")"

/-- What a shown time lists: its numbers, and its distance from Greenwich if that is known. -/
def shownFields (clock : Clock) : List String :=
  clock.numbers.map toString ++
    match clock.ahead? with
    | some ahead => ["tzinfo=" ++ shownAhead ahead]
    | none => []

/-- The shown form of a time of day. -/
def shown (clock : Clock) : String :=
  "datetime.time(" ++ ", ".intercalate clock.shownFields ++ ")"

/-- The microseconds since midnight. -/
def sinceMidnight (clock : Clock) : Int :=
  ((clock.hour * 60 + clock.minute) * 60 + clock.second) * 1000000 + clock.microsecond

/-- Clocks of known distances from Greenwich are equal when they tell the same time there, and
others when all their parts are. -/
def agrees (first second : Clock) : Bool :=
  match first.ahead?, second.ahead? with
  | some ahead, some other => first.sinceMidnight - ahead == second.sinceMidnight - other
  | none, none => first == second
  | _, _ => false

/-- Why a distance from Greenwich is too great. -/
def aheadFault? (ahead : Int) : Option String :=
  if ahead.natAbs < 86400000000 then none
  else some ("offset must be a timedelta strictly between -timedelta(hours=24) and " ++
    "timedelta(hours=24), not " ++ shownSpan ahead ++ ".")

/-- Why a time is none of a day, apart from its distance from Greenwich. -/
def fault? (clock : Clock) : Option String :=
  if 23 < clock.hour then some "hour must be in 0..23"
  else if 59 < clock.minute then some "minute must be in 0..59"
  else if 59 < clock.second then some "second must be in 0..59"
  else none

/-- The time of an ISO form, which may begin with a T, or why it has none. -/
def ofIso (iso : String) : Except String Clock :=
  let characters := if iso.startsWith "T" then iso.toList.drop 1 else iso.toList
  match read? characters with
  | none => .error (Day.unreadable iso)
  | some clock =>
    match (clock.ahead?.bind aheadFault?).orElse fun _ => clock.fault? with
    | some fault => .error fault
    | none => .ok clock

end Clock

namespace Day

/-- What a shown day lists. -/
def shownFields (day : Day) : List String :=
  [toString day.year, toString day.month, toString day.day]

/-- The shown form of a day. -/
def shown (day : Day) : String := "datetime.date(" ++ ", ".intercalate day.shownFields ++ ")"

end Day

/-- A day and a time of it. -/
structure Moment where
  day : Day
  clock : Clock
deriving DecidableEq, Repr

namespace Moment

/-- The ISO form of a moment, with a character between day and time. -/
def iso (between : Char) (moment : Moment) : List Char :=
  moment.day.iso ++ between :: moment.clock.iso

/-- The shown form of a moment. -/
def shown (moment : Moment) : String :=
  "datetime.datetime(" ++ ", ".intercalate (moment.day.shownFields ++ moment.clock.shownFields) ++
    ")"

/-- The microseconds since the beginning of 1970 on the clock itself. -/
def microseconds (moment : Moment) : Int :=
  moment.day.number * 86400000000 + moment.clock.sinceMidnight

/-- Moments of known distances from Greenwich are equal when they are the same there, and others
when all their parts are. -/
def agrees (first second : Moment) : Bool :=
  match first.clock.ahead?, second.clock.ahead? with
  | some ahead, some other => first.microseconds - ahead == second.microseconds - other
  | none, none => first == second
  | _, _ => false

/-- Reads an ISO form of a moment: a day, and a time after any character. -/
def read? (characters : List Char) : Option Moment := do
  let length := Day.isoLength characters
  let day ← Day.read? (characters.take length)
  match characters.drop length with
  | [] => pure { day, clock := { hour := 0, minute := 0, second := 0, microsecond := 0 } }
  | _ :: rest => pure { day, clock := ← Clock.read? rest }

/-- The moment of an ISO form, or why it has none. -/
def ofIso (iso : String) : Except String Moment :=
  match read? iso.toList with
  | none => .error (Day.unreadable iso)
  | some moment =>
    match ((moment.clock.ahead?.bind Clock.aheadFault?).orElse fun _ => moment.day.fault?).orElse
        fun _ => moment.clock.fault? with
    | some fault => .error fault
    | none => .ok moment

end Moment

end PortableSql
