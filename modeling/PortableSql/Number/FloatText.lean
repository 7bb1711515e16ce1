import PortableSql.Number.Shortest
import PortableSql.Text.Digit

/-!
# The text of a double

Doubles are written with the fewest digits that read back: positionally when the leading digit
stands for a power of ten from -4 to 15, and with an exponent of at least two digits otherwise.
A whole number keeps one zero after the point.
-/

namespace PortableSql.Number

/-- The least power of ten that is written positionally. -/
def leastPositional : Int := -4

/-- The greatest power of ten that is written positionally. -/
def greatestPositional : Int := 15

/-- The digits of an exponent, at least two of them. -/
def exponentDigits (power : Nat) : List Char :=
  let digits := Nat.toDigits 10 power
  if digits.length < 2 then '0' :: digits else digits

/-- Digits with a point after the first and the power of ten of the first. -/
def scientific (digits : List Char) (power : Int) : List Char :=
  let mantissa := match digits with
    | [] => ['0']
    | [digit] => [digit]
    | digit :: rest => digit :: '.' :: rest
  let sign := if power < 0 then '-' else '+'
  mantissa ++ 'e' :: sign :: exponentDigits power.natAbs

/-- Digits written out with a point, given the power of ten of the first. -/
def positional (digits : List Char) (power : Int) : List Char :=
  match power with
  | .negSucc below => '0' :: '.' :: (List.replicate below '0' ++ digits)
  | .ofNat above =>
    let whole := digits.take (above + 1)
    let rest := digits.drop (above + 1)
    let padded := whole ++ List.replicate (above + 1 - whole.length) '0'
    padded ++ '.' :: (if rest.isEmpty then ['0'] else rest)

/-- The text of a positive finite value. -/
def positiveText (significand : Nat) (exponent : Int) : List Char :=
  if significand = 0 then ['0', '.', '0']
  else
    let (digits, power) := (shortest significand exponent).normal
    if leastPositional ≤ power && power ≤ greatestPositional then positional digits power
    else scientific digits power

/-- The text of a double. -/
def floatText (number : Float) : String :=
  match Binary64.ofFloat number with
  | .notANumber => "nan"
  | .infinite negative => if negative then "-inf" else "inf"
  | .finite negative significand exponent =>
    let text := positiveText significand exponent
    String.ofList (if negative then '-' :: text else text)

/-- Reads the digits of an exponent with an optional sign. -/
def readExponent? (characters : List Char) : Option Int :=
  let (negative, digits) := Text.splitSign characters
  if digits.isEmpty || !digits.all Char.isDigit then none
  else
    let power := Text.ofDigits (digits.map fun digit => digit.toNat - 48)
    some (if negative then -(power : Int) else power)

/-- Unsigned decimal text with an optional fraction and exponent, as digits and a power of ten. -/
def readDecimal? (characters : List Char) : Option (Nat × Int) :=
  let whole := characters.takeWhile Char.isDigit
  let afterWhole := characters.dropWhile Char.isDigit
  let (fraction, afterFraction) := match afterWhole with
    | '.' :: rest => (rest.takeWhile Char.isDigit, rest.dropWhile Char.isDigit)
    | rest => ([], rest)
  let exponent := match afterFraction with
    | [] => some 0
    | letter :: rest => if letter = 'e' || letter = 'E' then readExponent? rest else none
  let number := Text.ofDigits ((whole ++ fraction).map fun digit => digit.toNat - 48)
  if whole.isEmpty && fraction.isEmpty then none
  else exponent.map fun power => (number, power - fraction.length)

/-- The number of decimal digits of a number; zero has one. -/
def decimalWidth (number : Nat) : Nat := (Nat.toDigits 10 number).length

/-- The least power of ten that the leading digit of a double can stand for. -/
def leastPower : Int := -324

/-- The greatest power of ten that the leading digit of a double can stand for. -/
def greatestPower : Int := 308

/-- The double that is nearest to `coefficient * 10 ^ exponent`: zero or infinite where the leading
digit is out of reach, so that no power of ten beyond reach is built. -/
def nearestDouble (coefficient : Nat) (exponent : Int) : Float :=
  let leading := exponent + decimalWidth coefficient - 1
  if coefficient = 0 || leading < leastPower then 0.0
  else if greatestPower < leading then 1.0 / 0.0
  else match exponent with
    | .ofNat power => Float.ofScientific coefficient false power
    | .negSucc power => Float.ofScientific coefficient true (power + 1)

/-- Reads an unsigned double, correctly rounded; letters of both cases mean the same. -/
def readUnsignedFloat? (characters : List Char) : Option Float :=
  match (String.ofList characters).toLower with
  | "inf" | "infinity" => some (1.0 / 0.0)
  | "nan" => some (0.0 / 0.0)
  | _ => (readDecimal? characters).map fun (number, power) => nearestDouble number power

/-- Reads a double, with digits of every script and with underscores between digits. White space
around it does not count. -/
def readFloat? (text : String) : Option Float := do
  let characters := Text.ordinaryDigits (Text.trimPadding text.toList)
  let (negative, unsigned) := Text.splitSign (← Text.withoutSeparators? false characters)
  let size ← readUnsignedFloat? unsigned
  pure (if negative then -size else size)

end PortableSql.Number
