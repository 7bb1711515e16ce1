/-!
# Double-precision numbers as exact values

A finite double is a signed significand times a power of two. The bits are taken apart here once;
every question about the exact value is then one about natural numbers and integers.
-/

namespace PortableSql.Number

/-- What the bits of a double stand for. -/
inductive Binary64 where
  /-- The value `significand * 2 ^ exponent`, with its sign. -/
  | finite (negative : Bool) (significand : Nat) (exponent : Int)
  | infinite (negative : Bool)
  | notANumber
deriving DecidableEq, Repr

/-- Takes the bits of a double apart: one sign bit, eleven of exponent and fifty-two of
significand, whose leading one is not stored for normal numbers. -/
def Binary64.ofBits (bits : Nat) : Binary64 :=
  let negative := bits / 0x8000000000000000 % 2 == 1
  let biased : Nat := bits / 0x10000000000000 % 0x800
  let fraction : Nat := bits % 0x10000000000000
  if biased = 2047 then
    if fraction = 0 then .infinite negative else .notANumber
  else if biased = 0 then .finite negative fraction (-1074)
  else .finite negative (fraction + 0x10000000000000) ((biased : Int) - 1075)

/-- The exact value of a double. -/
def Binary64.ofFloat (number : Float) : Binary64 := .ofBits number.toBits.toNat

/-- The whole number that a finite value is, if it is one. -/
def Binary64.whole? : Binary64 → Option Int
  | .finite negative significand exponent =>
    let sign : Int := if negative then -1 else 1
    match exponent with
    | .ofNat power => some (sign * (significand * Nat.pow 2 power : Nat))
    | .negSucc power =>
      if significand % Nat.pow 2 (power + 1) = 0 then some (sign * (significand / Nat.pow 2 (power + 1) : Nat))
      else none
  | _ => none

end PortableSql.Number
