import PortableSql.Number.FloatText

/-!
# Decimal numbers

A decimal keeps its coefficient and its exponent, so that trailing zeros survive. It is written
positionally while the exponent is not positive and the leading digit stands for a power of ten
of at least -6, and with an exponent otherwise. Its exponent may be of any size: no operation that
answers with a double, a truth value or nothing builds the power of ten before it is known to be
of use.
-/

namespace PortableSql.Number

/-- A decimal number of any precision. -/
inductive Decimal where
  /-- The value `coefficient * 10 ^ exponent`, with its sign. -/
  | finite (negative : Bool) (coefficient : Nat) (exponent : Int)
  | infinite (negative : Bool)
  /-- No number, with digits that tell what it stands for; a signalling one cannot become a
  double. -/
  | notANumber (negative signalling : Bool) (payload : String)
deriving DecidableEq, Repr

namespace Decimal

/-- The text of an unsigned finite decimal. -/
def unsignedText (coefficient : Nat) (exponent : Int) : List Char :=
  let digits := Nat.toDigits 10 coefficient
  let leading := exponent + digits.length
  if exponent ≤ 0 && leading > -6 then
    match leading with
    | .negSucc below => '0' :: '.' :: (List.replicate (below + 1) '0' ++ digits)
    | .ofNat 0 => '0' :: '.' :: digits
    | .ofNat whole =>
      let rest := digits.drop whole
      digits.take whole ++ (if rest.isEmpty then [] else '.' :: rest)
  else
    let mantissa := match digits with
      | digit :: next :: rest => digit :: '.' :: next :: rest
      | single => single
    let power := leading - 1
    let sign := if power < 0 then '-' else '+'
    mantissa ++ (if power = 0 then [] else 'E' :: sign :: Nat.toDigits 10 power.natAbs)

/-- The text of a decimal. -/
def text : Decimal → String
  | .finite negative coefficient exponent =>
    let body := unsignedText coefficient exponent
    String.ofList (if negative then '-' :: body else body)
  | .infinite negative => if negative then "-Infinity" else "Infinity"
  | .notANumber negative signalling payload =>
    (if negative then "-" else "") ++ (if signalling then "sNaN" else "NaN") ++ payload

/-- Reads an unsigned decimal; letters of both cases mean the same. Zeros before the digits of what
is no number do not count. -/
def readUnsigned? (negative : Bool) (characters : List Char) : Option Decimal :=
  let letters := (String.ofList (characters.takeWhile (!·.isDigit))).toLower
  let digits := characters.dropWhile (!·.isDigit)
  let payload := String.ofList (digits.dropWhile (· = '0'))
  if letters = "nan" || letters = "snan" then
    if digits.all Char.isDigit then some (.notANumber negative (letters = "snan") payload) else none
  else if digits.isEmpty && (letters = "inf" || letters = "infinity") then some (.infinite negative)
  else (readDecimal? characters).map fun (coefficient, exponent) =>
    .finite negative coefficient exponent

/-- Reads a decimal, with digits of every script. White space around it and underscores anywhere do
not count. -/
def read? (source : String) : Option Decimal :=
  let characters := (Text.trim source.toList).filter (· ≠ '_')
  let (negative, unsigned) := Text.splitSign (Text.ordinaryDigits characters)
  readUnsigned? negative unsigned

/-- The greatest power of ten that the leading digit of a decimal can stand for. -/
def greatestLeading : Int := 999999999999999999

/-- The least power of ten that the last digit of a decimal can stand for. -/
def leastTrailing : Int := -1999999999999999997

/-- The powers of ten of its digits are within the bounds. -/
def inBounds : Decimal → Bool
  | .finite _ coefficient exponent =>
    leastTrailing ≤ exponent && exponent + decimalWidth coefficient - 1 ≤ greatestLeading
  | _ => true

/-- The whole part of a finite decimal. -/
def wholePart (negative : Bool) (coefficient : Nat) (exponent : Int) : Int :=
  let size := match exponent with
    | .ofNat power => coefficient * Nat.pow 10 power
    | .negSucc power =>
      if decimalWidth coefficient ≤ power then 0 else coefficient / Nat.pow 10 (power + 1)
  if negative then -(size : Int) else size

/-- The whole number that a finite decimal is, if it is one. -/
def whole? : Decimal → Option Int
  | .finite negative coefficient exponent =>
    match exponent with
    | .ofNat _ => some (wholePart negative coefficient exponent)
    | .negSucc power =>
      if coefficient = 0 then some 0
      else if decimalWidth coefficient ≤ power || coefficient % Nat.pow 10 (power + 1) ≠ 0 then none
      else some (wholePart negative coefficient exponent)
  | _ => none

/-- The nearest double; a signalling decimal has none. -/
def toFloat? : Decimal → Option Float
  | .finite negative coefficient exponent =>
    let size := nearestDouble coefficient exponent
    some (if negative then -size else size)
  | .infinite negative => some (if negative then -1.0 / 0.0 else 1.0 / 0.0)
  | .notANumber _ signalling _ => if signalling then none else some (0.0 / 0.0)

/-- The coefficient without trailing zeros, and the exponent that makes up for them. -/
def normal (coefficient : Nat) (exponent : Int) : List Char × Int :=
  let digits := Nat.toDigits 10 coefficient
  let kept := (digits.reverse.dropWhile (· = '0')).reverse
  (kept, exponent + digits.length - kept.length)

/-- Finite decimals are equal when their values are, and infinite ones when their signs are. -/
def agrees : Decimal → Decimal → Bool
  | .finite negative coefficient exponent, .finite other second power =>
    if coefficient = 0 || second = 0 then coefficient == second
    else negative == other && normal coefficient exponent == normal second power
  | .infinite negative, .infinite other => negative == other
  | _, _ => false

/-- Zero of either sign and any exponent. -/
def isZero : Decimal → Bool
  | .finite _ coefficient _ => coefficient == 0
  | _ => false

end Decimal

end PortableSql.Number
