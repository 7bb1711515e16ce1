import PortableSql.Number.Binary64

/-!
# The shortest decimal that reads back

Among the decimals that round to a given double, the one with the fewest digits is taken, and
among those the nearest to it. All comparisons are made on exact fractions.
-/

namespace PortableSql.Number

/-- A nonnegative fraction; the denominator is positive wherever one is built here. -/
structure Fraction where
  numerator : Nat
  denominator : Nat
deriving Repr

namespace Fraction

/-- The fraction `number * base ^ power`. -/
def scaled (number base : Nat) : Int → Fraction
  | .ofNat power => ⟨number * Nat.pow base power, 1⟩
  | .negSucc power => ⟨number, Nat.pow base (power + 1)⟩

/-- Comparison by cross multiplication. -/
def le (left right : Fraction) : Bool :=
  left.numerator * right.denominator ≤ right.numerator * left.denominator

/-- Strict comparison by cross multiplication. -/
def lt (left right : Fraction) : Bool :=
  left.numerator * right.denominator < right.numerator * left.denominator

/-- The distance between two fractions. -/
def distance (left right : Fraction) : Fraction :=
  let first := left.numerator * right.denominator
  let second := right.numerator * left.denominator
  ⟨max first second - min first second, left.denominator * right.denominator⟩

end Fraction

/-- The decimals that round to a double: all between the two ends, which belong to it when the
significand is even. -/
structure Rounding where
  low : Fraction
  value : Fraction
  high : Fraction
  closed : Bool

/-- The interval of a positive finite double. Below a power of two the next double is only half as
far away as above it. -/
def Rounding.of (significand : Nat) (exponent : Int) : Rounding :=
  let narrow := significand = 0x10000000000000 && exponent > -1074
  { low := .scaled (4 * significand - (if narrow then 1 else 2)) 2 (exponent - 2)
    value := .scaled (4 * significand) 2 (exponent - 2)
    high := .scaled (4 * significand + 2) 2 (exponent - 2)
    closed := significand % 2 == 0 }

/-- Membership in the interval. -/
def Rounding.contains (rounding : Rounding) (candidate : Fraction) : Bool :=
  if rounding.closed then rounding.low.le candidate && candidate.le rounding.high
  else rounding.low.lt candidate && candidate.lt rounding.high

/-- The power of ten of the leading digit: the largest whose power is at most the value. -/
def leadingPower (value : Fraction) : Int :=
  let whole := value.numerator / value.denominator
  if whole = 0 then
    match (List.range 400).find? fun power =>
        value.denominator ≤ value.numerator * Nat.pow 10 power with
    | some power => -(power : Int)
    | none => 0
  else ((Nat.toDigits 10 whole).length : Int) - 1

/-- A decimal `digits * 10 ^ power`. -/
structure Candidate where
  digits : Nat
  power : Int
deriving Repr

/-- The exact value of a decimal. -/
def Candidate.fraction (candidate : Candidate) : Fraction :=
  .scaled candidate.digits 10 candidate.power

/-- The decimal with `count` digits that lies in the interval, the nearer of two; an even last
digit settles a tie. -/
def Rounding.withDigits? (rounding : Rounding) (leading : Int) (count : Nat) : Option Candidate :=
  let power := leading - (count : Int) + 1
  let unit := Fraction.scaled 1 10 power
  let below := rounding.value.numerator * unit.denominator /
    (rounding.value.denominator * unit.numerator)
  let lower : Candidate := ⟨below, power⟩
  let upper : Candidate := ⟨below + 1, power⟩
  match rounding.contains lower.fraction, rounding.contains upper.fraction with
  | false, false => none
  | true, false => some lower
  | false, true => some upper
  | true, true =>
    let down := lower.fraction.distance rounding.value
    let up := upper.fraction.distance rounding.value
    if down.lt up then some lower
    else if up.lt down then some upper
    else if below % 2 = 0 then some lower else some upper

/-- The shortest decimal of a positive finite double. Seventeen digits always suffice. -/
def shortest (significand : Nat) (exponent : Int) : Candidate :=
  let rounding := Rounding.of significand exponent
  let leading := leadingPower rounding.value
  ((List.range 17).findSome? fun count => rounding.withDigits? leading (count + 1)).getD
    ⟨significand, exponent⟩

/-- The digits without trailing zeros, and the power of ten of the first of them. -/
def Candidate.normal (candidate : Candidate) : List Char × Int :=
  let digits := Nat.toDigits 10 candidate.digits
  let kept := (digits.reverse.dropWhile (· = '0')).reverse
  (kept, candidate.power + (digits.length : Int) - 1)

end PortableSql.Number
