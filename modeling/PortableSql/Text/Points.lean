/-!
# Texts as code points

A text that may hold lone surrogates, which are no characters, is a list of code points.
-/

namespace PortableSql.Text

/-- A text as its code points. -/
abbrev Points := List Nat

/-- The code points of a text. -/
def points (text : String) : Points := text.toList.map Char.toNat

/-- The number of code points is the length of the text. -/
@[simp] theorem length_points (text : String) : (points text).length = text.length := by
  simp [points, String.length_toList]

end PortableSql.Text
