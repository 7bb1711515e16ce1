/-!
# Tables of case mappings

Most case mappings move every character of an arithmetic progression of code points by one
distance.
-/

namespace PortableSql.Text

/-- Code points from `first` to `last` in steps of `step`, each moved by `distance`. -/
structure Shift where
  first : Nat
  last : Nat
  step : Nat
  distance : Int
deriving Repr

/-- The character that a progression moves to another place. -/
def Shift.target? (shift : Shift) (character : Char) : Option Char :=
  let code := character.toNat
  if shift.first ≤ code && code ≤ shift.last && (code - shift.first) % shift.step == 0 then
    some (Char.ofNat (code + shift.distance).toNat)
  else none

/-- The character moved by the first progression that contains it. -/
def shifted (shifts : List Shift) (character : Char) : Char :=
  (shifts.findSome? (·.target? character)).getD character

end PortableSql.Text
