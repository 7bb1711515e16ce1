/-!
# White space

The characters that separate words in a command, and the operations that cut a text at them or
at a given separator. The set is the Unicode one together with the four information separators
U+001C to U+001F. Cutting at a separator keeps every empty part; cutting into words keeps none.
-/

namespace PortableSql.Text

/-- The code points that count as white space. -/
def blanks : List Nat :=
  [0x9, 0xa, 0xb, 0xc, 0xd, 0x1c, 0x1d, 0x1e, 0x1f, 0x20, 0x85, 0xa0, 0x1680, 0x2000, 0x2001,
   0x2002, 0x2003, 0x2004, 0x2005, 0x2006, 0x2007, 0x2008, 0x2009, 0x200a, 0x2028, 0x2029,
   0x202f, 0x205f, 0x3000]

/-- White space in the sense of every rule of this library. -/
def isBlank (character : Char) : Bool := blanks.contains character.toNat

/-- The characters without leading and trailing white space. -/
def trim (characters : List Char) : List Char :=
  ((characters.dropWhile isBlank).reverse.dropWhile isBlank).reverse

/-- White space around a number: the separators of information do not belong to it. -/
def isPadding (character : Char) : Bool :=
  isBlank character && !(0x1c ≤ character.toNat && character.toNat ≤ 0x1f)

/-- The characters without the white space that may stand around a number. -/
def trimPadding (characters : List Char) : List Char :=
  ((characters.dropWhile isPadding).reverse.dropWhile isPadding).reverse

/-- The text without leading and trailing white space. -/
def trimmed (text : String) : String := String.ofList (trim text.toList)

/-- The maximal runs without white space, after a run already begun (kept reversed). -/
def wordsFrom (begun : List Char) : List Char → List (List Char)
  | [] => if begun.isEmpty then [] else [begun.reverse]
  | character :: rest =>
    if isBlank character then
      if begun.isEmpty then wordsFrom [] rest else begun.reverse :: wordsFrom [] rest
    else wordsFrom (character :: begun) rest

/-- The maximal runs of characters that are no white space. -/
def words (characters : List Char) : List (List Char) := wordsFrom [] characters

/-- Every run of white space becomes one space, and none is left at the ends. -/
def collapsed (text : String) : String :=
  " ".intercalate ((words text.toList).map String.ofList)

/-- The parts between the occurrences of a separator; there is one more of them than of it. -/
def cut (separator : Char) : List Char → List (List Char)
  | [] => [[]]
  | character :: rest =>
    if character = separator then [] :: cut separator rest
    else match cut separator rest with
      | [] => [[character]]
      | first :: others => (character :: first) :: others

/-- The parts of a text between the occurrences of a separator. -/
def parts (separator : Char) (text : String) : List String :=
  (cut separator text.toList).map String.ofList

/-- The last part of a dotted name. -/
def lastPart (name : String) : String := (parts '.' name).getLastD ""

/-- The text before the first occurrence of a separator word, or all of it. -/
def before (separator : List Char) : List Char → List Char
  | [] => []
  | character :: rest =>
    if separator.isPrefixOf (character :: rest) then [] else character :: before separator rest

/-- The text begins with the given characters. -/
def begins (start text : String) : Bool := start.toList.isPrefixOf text.toList

/-- Texts joined by a comma and a space. -/
def listed (items : List String) : String := ", ".intercalate items

/-- The text repeated a number of times. -/
def repeated (text : String) (times : Nat) : String :=
  String.join (List.replicate times text)

/-- The first `count` characters, counted by code points. -/
def taken (count : Nat) (text : String) : String := String.ofList (text.toList.take count)

theorem cut_ne_nil (separator : Char) (characters : List Char) : cut separator characters ≠ [] := by
  induction characters with
  | nil => simp [cut]
  | cons character rest inductionHypothesis =>
    unfold cut
    split
    · simp
    · split <;> simp

/-- Cutting at a separator loses nothing but the separators. -/
theorem intercalate_cut (separator : Char) (characters : List Char) :
    [separator].intercalate (cut separator characters) = characters := by
  induction characters with
  | nil => simp [cut]
  | cons character rest inductionHypothesis =>
    unfold cut
    split
    · rename_i isSeparator
      rw [List.intercalate_cons_of_ne_nil (cut_ne_nil separator rest), inductionHypothesis]
      simp [isSeparator]
    · cases others : cut separator rest with
      | nil => exact absurd others (cut_ne_nil separator rest)
      | cons first more =>
        rw [others] at inductionHypothesis
        cases more <;> simp_all [List.intercalate]

end PortableSql.Text
