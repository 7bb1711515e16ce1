/-!
# Sets of code points as ranges

Properties of characters are tables of inclusive ranges of code points.
-/

namespace PortableSql.Text

/-- Membership of a character in a union of inclusive ranges of code points. -/
def inRanges (ranges : List (Nat × Nat)) (character : Char) : Bool :=
  ranges.any fun range => range.1 ≤ character.toNat && character.toNat ≤ range.2

end PortableSql.Text
