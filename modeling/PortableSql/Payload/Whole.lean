import PortableSql.Text.Digit

/-!
# Whole numbers written as text

A whole number is read from its plain form, which is an optional minus sign and ordinary digits
without leading zeros. A text in another form is first tidied: white space around it, a plus sign,
leading zeros, a fraction of zeros and single underscores between digits are left out. Only a
plain form that is too long is told apart from other faults.
-/

namespace PortableSql.Payload

/-- Reads a plain form. The sign counts with the digits for its length. -/
def plainWhole (characters : List Char) : Except Text.NumeralFault Int :=
  let (negative, unsigned) := match characters with
    | '-' :: rest => (true, rest)
    | rest => (false, rest)
  let digits := unsigned.takeWhile Char.isDigit
  let length := digits.length + (if negative then 1 else 0)
  match digits with
  | [] => .error .malformed
  | first :: others =>
    if first = '0' && !others.isEmpty then .error .malformed
    else if length > Text.longestNumeral then .error (.tooLong digits.length)
    else if unsigned.length ≠ digits.length then .error .malformed
    else
      let number : Int := Text.ofDigits (digits.map fun digit => digit.toNat - 48)
      .ok (if negative then -number else number)

/-- What follows leading zeros, given the character before: everything from the first digit that
is not zero, or from a minus sign, and also the last zero where a point or nothing follows. -/
def afterZeros (last : Char) : List Char → Option (List Char)
  | [] => some [last]
  | '.' :: rest => some (last :: '.' :: rest)
  | character :: rest =>
    if character = '0' || character = '_' then afterZeros character rest
    else if character = '-' || character.isDigit then some (character :: rest)
    else none

/-- A text without leading zeros. -/
def withoutLeadingZeros : List Char → Option (List Char)
  | [] => none
  | first :: rest =>
    if first = '0' then afterZeros first rest
    else if first = '-' || first.isDigit then some (first :: rest)
    else none

/-- A text without a fraction of zeros. -/
def withoutZeroFraction (characters : List Char) : List Char :=
  let whole := characters.takeWhile (· ≠ '.')
  if (characters.drop (whole.length + 1)).all (· = '0') then whole else characters

/-- Underscores stand alone: before and after each of them there is another character. -/
def lonelyUnderscores : List Char → Bool
  | [] => true
  | ['_'] => false
  | '_' :: '_' :: _ => false
  | _ :: rest => lonelyUnderscores rest

/-- A text without the single underscores inside it. -/
def withoutUnderscores (characters : List Char) : List Char :=
  if characters.head? ≠ some '_' && lonelyUnderscores characters then characters.filter (· ≠ '_')
  else characters

/-- The plain form that a text stands for, if it can stand for one. -/
def tidied (characters : List Char) : Option (List Char) :=
  let trimmed := Text.trimPadding characters
  let unsigned := match trimmed with
    | '+' :: '-' :: _ => none
    | '+' :: rest => some rest
    | rest => some rest
  (unsigned.bind withoutLeadingZeros).map fun digits =>
    withoutUnderscores (withoutZeroFraction digits)

/-- Reads a whole number from text. -/
def wholeOf (text : String) : Except Text.NumeralFault Int :=
  match plainWhole text.toList with
  | .ok number => .ok number
  | .error (.tooLong digits) => .error (.tooLong digits)
  | .error .malformed => match (tidied text.toList).map plainWhole with
    | some (.ok number) => .ok number
    | _ => .error .malformed

end PortableSql.Payload
