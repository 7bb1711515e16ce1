import PortableSql.Text.Blank
import PortableSql.Text.Ranges

/-!
# Digits and numerals

Decimal digits of every script carry a value from zero to nine. A numeral is an optional sign
and decimal digits, in which single underscores may separate digits; white space around it does
not count. Numerals of more than `longestNumeral` digits are neither read nor written; reading
refuses them, with the count of their digits, before it looks at what follows them.
-/

namespace PortableSql.Text

/-- The zero of each script's ten consecutive decimal digits. -/
def zeros : List Nat := [
    0x30, 0x660, 0x6f0, 0x7c0, 0x966, 0x9e6, 0xa66, 0xae6, 0xb66, 0xbe6, 0xc66, 0xce6, 0xd66,
    0xde6, 0xe50, 0xed0, 0xf20, 0x1040, 0x1090, 0x17e0, 0x1810, 0x1946, 0x19d0, 0x1a80, 0x1a90,
    0x1b50, 0x1bb0, 0x1c40, 0x1c50, 0xa620, 0xa8d0, 0xa900, 0xa9d0, 0xa9f0, 0xaa50, 0xabf0,
    0xff10, 0x104a0, 0x10d30, 0x11066, 0x110f0, 0x11136, 0x111d0, 0x112f0, 0x11450, 0x114d0,
    0x11650, 0x116c0, 0x11730, 0x118e0, 0x11950, 0x11c50, 0x11d50, 0x11da0, 0x16a60, 0x16ac0,
    0x16b50, 0x1d7ce, 0x1d7d8, 0x1d7e2, 0x1d7ec, 0x1d7f6, 0x1e140, 0x1e2f0, 0x1e950, 0x1fbf0]

/-- Digits that are no decimal digits: superscripts, subscripts and circled forms. -/
def otherDigitRanges : List (Nat × Nat) := [
    (0xb2, 0xb3), (0xb9, 0xb9), (0x1369, 0x1371), (0x19da, 0x19da), (0x2070, 0x2070),
    (0x2074, 0x2079), (0x2080, 0x2089), (0x2460, 0x2468), (0x2474, 0x247c), (0x2488, 0x2490),
    (0x24ea, 0x24ea), (0x24f5, 0x24fd), (0x24ff, 0x24ff), (0x2776, 0x277e), (0x2780, 0x2788),
    (0x278a, 0x2792), (0x10a40, 0x10a43), (0x10e60, 0x10e68), (0x11052, 0x1105a),
    (0x1f100, 0x1f10a)]

/-- The value of a decimal digit. -/
def decimalValue? (character : Char) : Option Nat :=
  (zeros.find? fun start => start ≤ character.toNat && character.toNat < start + 10).map
    (character.toNat - ·)

/-- Decimal digits of every script. -/
def isDecimal (character : Char) : Bool := (decimalValue? character).isSome

/-- Decimal digits and the other forms of digits. -/
def isDigit (character : Char) : Bool :=
  isDecimal character || inRanges otherDigitRanges character

/-- Every character is a digit, and there is one. -/
def allDigits (characters : List Char) : Bool :=
  !characters.isEmpty && characters.all isDigit

/-- The most digits that a numeral may have. -/
def longestNumeral : Nat := 4300

/-- Why a text is no integer. -/
inductive NumeralFault where
  /-- It is not written as a numeral. -/
  | malformed
  /-- It has this many digits, more than a numeral may have. -/
  | tooLong (digits : Nat)
deriving DecidableEq, Repr

/-- The values of decimal digits with single underscores between them; `separated` says that an
underscore may come next. -/
def digitValues (separated : Bool) : List Char → Option (List Nat)
  | [] => if separated then some [] else none
  | character :: rest =>
    match decimalValue? character with
    | some value => (digitValues true rest).map (value :: ·)
    | none => if character = '_' && separated then digitValues false rest else none

/-- The number with the given digits, most significant first. -/
def ofDigits (digits : List Nat) : Nat := digits.foldl (fun number digit => number * 10 + digit) 0

/-- Decimal digits and the underscores between them. -/
def inNumeral (character : Char) : Bool := isDecimal character || character = '_'

/-- Reads unsigned digits. -/
def readDigits (characters : List Char) : Except NumeralFault Nat :=
  match digitValues false (characters.takeWhile inNumeral) with
  | none => .error .malformed
  | some digits =>
    if digits.length > longestNumeral then .error (.tooLong digits.length)
    else if (characters.dropWhile inNumeral).isEmpty then .ok (ofDigits digits)
    else .error .malformed

/-- Splits off a sign, and says whether it is a minus. -/
def splitSign : List Char → Bool × List Char
  | '-' :: rest => (true, rest)
  | '+' :: rest => (false, rest)
  | rest => (false, rest)

/-- Reads a numeral, ignoring white space around it. -/
def readInteger (characters : List Char) : Except NumeralFault Int :=
  let (negative, digits) := splitSign (trimPadding characters)
  (readDigits digits).map fun number => if negative then -(number : Int) else number

/-- Decimal digits of every script as ordinary ones. -/
def ordinaryDigits (characters : List Char) : List Char :=
  characters.map fun character =>
    match decimalValue? character with
    | some value => Char.ofNat (48 + value)
    | none => character

/-- Takes out the underscores, if each of them stands between two ordinary digits; `afterDigit` says
that a digit stands before the characters. -/
def withoutSeparators? (afterDigit : Bool) : List Char → Option (List Char)
  | [] => some []
  | '_' :: next :: rest =>
    if afterDigit && next.isDigit then withoutSeparators? false (next :: rest) else none
  | character :: rest =>
    if character = '_' then none
    else (withoutSeparators? character.isDigit rest).map (character :: ·)

/-- A number of exactly so many ordinary digits, and what follows them. -/
def fixedDigits? (width : Nat) (characters : List Char) : Option (Nat × List Char) :=
  let digits := characters.take width
  if digits.length = width && digits.all Char.isDigit then
    some (ofDigits (digits.map fun digit => digit.toNat - 48), characters.drop width)
  else none

/-- The numeral of a number, unless it has too many digits. -/
def numeral? (number : Int) : Option String :=
  if number.natAbs < Nat.pow 10 longestNumeral then some (toString number) else none

/-- Why a number cannot be written as a numeral. -/
def unwritable : String :=
  "Exceeds the limit (" ++ toString longestNumeral ++
    " digits) for integer string conversion; use sys.set_int_max_str_digits() to increase the limit"

/-- A sentence that ends with a number, or why the number cannot be written. -/
def endingWith (sentence : String) (number : Int) : String :=
  match numeral? number with
  | some shown => sentence ++ shown
  | none => unwritable

end PortableSql.Text
