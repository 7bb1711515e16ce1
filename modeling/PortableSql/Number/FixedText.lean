import PortableSql.Number.FloatText

/-!
# Doubles with a fixed number of digits

A double is rounded to a number of places or of significant digits; a value halfway between two
neighbours goes to the even one. The exact value of the double decides.
-/

namespace PortableSql.Number

/-- A quotient rounded to the nearest number, halves to the even one. -/
def roundedQuotient (numerator denominator : Nat) : Nat :=
  let quotient := numerator / denominator
  let twice := 2 * (numerator % denominator)
  if twice < denominator then quotient
  else if denominator < twice then quotient + 1
  else if quotient % 2 = 0 then quotient else quotient + 1

/-- A fraction in units of a power of ten, rounded. -/
def Fraction.inUnits (value : Fraction) : Int → Nat
  | .ofNat power => roundedQuotient value.numerator (value.denominator * Nat.pow 10 power)
  | .negSucc power => roundedQuotient (value.numerator * Nat.pow 10 (power + 1)) value.denominator

/-- At least so many decimal digits. -/
def paddedDigits (width number : Nat) : List Char :=
  let digits := Nat.toDigits 10 number
  List.replicate (width - digits.length) '0' ++ digits

/-- A point before digits; without digits there is one only when it is asked for. -/
def withPoint (always : Bool) (digits : List Char) : List Char :=
  if digits.isEmpty && !always then [] else '.' :: digits

/-- A fraction with a fixed number of places. -/
def fixedText (value : Fraction) (places : Nat) (point : Bool) : List Char :=
  let digits := paddedDigits (places + 1) (value.inUnits (-places))
  let whole := digits.take (digits.length - places)
  whole ++ withPoint point (digits.drop whole.length)

/-- The digits of a positive fraction, rounded to a number of them, and the power of ten of the
first. -/
def significantDigits (value : Fraction) (count : Nat) : List Char × Int :=
  let leading := leadingPower value
  let digits := Nat.toDigits 10 (value.inUnits (leading - count + 1))
  if digits.length ≤ count then (digits, leading)
  else (digits.take count, leading + 1)

/-- The digits of a fraction and the power of ten of the first; zero has only zeros. -/
def roundedDigits (value : Fraction) (count : Nat) : List Char × Int :=
  if value.numerator = 0 then (List.replicate count '0', 0) else significantDigits value count

/-- Digits with a point after the first and the power of ten of the first. -/
def exponentText (digits : List Char) (power : Int) (point : Bool) : List Char :=
  digits.take 1 ++ withPoint point (digits.drop 1) ++
    'e' :: (if power < 0 then '-' else '+') :: exponentDigits power.natAbs

/-- A fraction with an exponent and a fixed number of places. -/
def scientificText (value : Fraction) (places : Nat) (point : Bool) : List Char :=
  let (digits, power) := roundedDigits value (places + 1)
  exponentText digits power point

/-- Digits without the zeros at their end. -/
def withoutZeros (digits : List Char) : List Char :=
  (digits.reverse.dropWhile (· = '0')).reverse

/-- A fraction with a number of significant digits, with an exponent where that is shorter. Zeros
at the end are left out, unless all digits are asked for. -/
def generalText (value : Fraction) (precision : Nat) (full : Bool) : List Char :=
  let count := max precision 1
  let (digits, power) := roundedDigits value count
  if power < -4 || count ≤ power then
    exponentText (if full then digits else digits.take 1 ++ withoutZeros (digits.drop 1)) power
      full
  else
    match power with
    | .negSucc below =>
      let places := List.replicate below '0' ++ digits
      '0' :: withPoint full (if full then places else withoutZeros places)
    | .ofNat above =>
      let places := digits.drop (above + 1)
      digits.take (above + 1) ++ withPoint full (if full then places else withoutZeros places)

/-- A double as a letter says: `f` with a number of places, `e` with an exponent, `g` in the shorter
of both forms; a capital letter writes capital letters. The sign stands apart. -/
def lettered (letter : Char) (precision : Nat) (full : Bool) (number : Float) :
    Bool × List Char :=
  let small := letter.toLower
  let (negative, body) := match Binary64.ofFloat number with
    | .notANumber => (false, "nan".toList)
    | .infinite negative => (negative, "inf".toList)
    | .finite negative significand exponent =>
      let value := Fraction.scaled significand 2 exponent
      (negative,
        if small = 'f' then fixedText value precision full
        else if small = 'e' then scientificText value precision full
        else generalText value precision full)
  (negative, if small = letter then body else body.map Char.toUpper)

end PortableSql.Number
