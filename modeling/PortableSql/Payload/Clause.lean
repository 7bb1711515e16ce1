import PortableSql.Payload.Field
import PortableSql.Text.Word

/-!
# Collapsed clauses

A payload key such as `WHERE id = 1` merges a clause keyword with its value. Passed over, it
would leave an update or a delete without its restriction, so it is refused before anything
else. A keyword is recognised in any letter case, after leading white space, with any white
space between its words, and ends at a word boundary; the value is any further text that is not
blank.
-/

namespace PortableSql.Payload

/-- The keywords that must stand alone, as their words. -/
def clauseKeywords : List (List (List Char)) :=
  [["WHERE"], ["ORDER", "BY"], ["GROUP", "BY"], ["HAVING"], ["LIMIT"]].map fun keyword =>
    keyword.map String.toList

/-- A character that stands for a capital letter of a keyword. The letter I has two further
forms, with a dot above the capital and without one above the small letter. -/
def standsFor (letter character : Char) : Bool :=
  character = letter || character = Char.ofNat (letter.toNat + 32) ||
    (letter = 'I' && (character.toNat = 0x130 || character.toNat = 0x131))

/-- The characters split after a word, if they begin with it. -/
def splitWord : List Char → List Char → Option (List Char × List Char)
  | [], characters => some ([], characters)
  | _ :: _, [] => none
  | letter :: letters, character :: rest =>
    if standsFor letter character then
      (splitWord letters rest).map fun (word, left) => (character :: word, left)
    else none

/-- The characters split after the words of a keyword, if they begin with them. -/
def splitKeyword : List (List Char) → List Char → Option (List Char × List Char)
  | [], characters => some ([], characters)
  | [word], characters => splitWord word characters
  | word :: next :: words, characters => do
    let (first, rest) ← splitWord word characters
    let gap := rest.takeWhile Text.isBlank
    if gap.isEmpty then none
    else
      let (others, left) ← splitKeyword (next :: words) (rest.dropWhile Text.isBlank)
      pure (first ++ gap ++ others, left)

/-- What follows a keyword is its value: it begins at a word boundary and is not blank. -/
def isValueText : List Char → Bool
  | [] => false
  | character :: rest =>
    !Text.isWord character && (character :: rest).any fun other => !Text.isBlank other

/-- The keyword, as it is spelt, that a key merges with its value. -/
def collapsedKeyword? (key : String) : Option String :=
  let characters := key.toList.dropWhile Text.isBlank
  clauseKeywords.findSome? fun keyword =>
    match splitKeyword keyword characters with
    | some (spelt, rest) => if isValueText rest then some (String.ofList spelt) else none
    | none => none

/-- The report about a key that merges a keyword with its value. -/
def collapsedReport (command key keyword : String) : Failure :=
  let canonical := Text.collapsed (Text.upper keyword)
  .validation
    (command ++ " payload key " ++ Text.quoted key ++ " combines the " ++ canonical ++
      " keyword with its value; pass " ++ Text.quoted canonical ++
      " as the key and the condition as its value")
    key .null .collapsedClause

/-- The report about the first key of a payload that merges a keyword with its value. -/
def collapsedIn? (command : String) : Entries → Option Failure
  | [] => none
  | (.text key, _) :: rest => match collapsedKeyword? key with
    | some keyword => some (collapsedReport command key keyword)
    | none => collapsedIn? command rest
  | _ :: rest => collapsedIn? command rest

end PortableSql.Payload
