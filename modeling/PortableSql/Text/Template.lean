import PortableSql.Text.Layout

/-!
# Templates

A template is a text in which fields between braces stand for named values; a doubled brace stands
for the brace itself. A field is a name, which may be followed by properties and positions of the
value, a conversion after an exclamation mark, and a layout after a colon. Fields inside a layout
are filled first, but theirs have no fields of their own.
-/

namespace PortableSql.Text

/-- A value for a template. -/
inductive Term where
  | text (characters : String)
  | whole (number : Int)
  /-- The type of a value, by its name. -/
  | type (name : String)

namespace Term

/-- The name of the type of a value. -/
def typeName : Term → String
  | text _ => "str"
  | whole _ => "int"
  | type _ => "type"

/-- The plain text of a value. -/
def plain : Term → Except Failure String
  | text characters => .ok characters
  | whole number => numeral number
  | type name => .ok ("<class '" ++ name ++ "'>")

/-- The shown form of a value: a text has quotes. -/
def shown : Term → Except Failure String
  | text characters => .ok (quoted characters)
  | other => other.plain

/-- A property of a value, if it has one of that name: whole numbers are complex numbers and
quotients too, and every value has a type. -/
def property? : Term → String → Option Term
  | whole number, "real" | whole number, "numerator" => some (.whole number)
  | whole _, "imag" => some (.whole 0)
  | whole _, "denominator" => some (.whole 1)
  | type name, "__name__" | type name, "__qualname__" => some (.text name)
  | type _, "__module__" => some (.text "builtins")
  | value, "__class__" => some (.type value.typeName)
  | _, _ => none

/-- A property of a value. -/
def property (value : Term) (name : String) : Except Failure Term :=
  match value.property? name with
  | some found => .ok found
  | none =>
    let subject := match value with
      | type typeName => "type object '" ++ typeName ++ "'"
      | other => "'" ++ other.typeName ++ "' object"
    .error (.fault .missingProperty (subject ++ " has no attribute '" ++ name ++ "'"))

/-- There are no positions in a value. -/
def notIndexed (subject : String) : Failure :=
  .fault .badType (subject ++ " is not subscriptable")

/-- What stands at a position of a value. A position that is no number is a key. -/
def item (value : Term) (position? : Option Nat) : Except Failure Term :=
  match value, position? with
  | text characters, some position => match characters.toList[position]? with
    | some character => .ok (.text character.toString)
    | none => .error (.fault .badIndex "string index out of range")
  | text _, none => .error (.fault .badType "string indices must be integers, not 'str'")
  | whole _, _ => .error (notIndexed "'int' object")
  | type name, _ => .error (notIndexed ("type '" ++ name ++ "'"))

/-- The value that a conversion makes of a value. -/
def converted (value : Term) : Char → Except Failure Term
  | 's' => value.plain.map text
  | 'r' => value.shown.map text
  | 'a' => value.shown.map fun shown => text (ascii shown)
  | other =>
    let code := other.toNat
    let name := if 32 < code && code < 127 then other.toString
      else "\\x" ++ String.ofList (Nat.toDigits 16 code)
    .error (.fault .badValue ("Unknown conversion specifier " ++ name))

/-- Writes a value in a layout; an empty one leaves the plain text. -/
def written (value : Term) (layout : List Char) : Except Failure (List Char) :=
  if layout.isEmpty then value.plain.map String.toList
  else match value with
    | text characters => do (← Layout.read .text layout).writeText characters.toList
    | whole number => do (← Layout.read .whole layout).writeWhole number
    | type _ => .error (.fault .badType "unsupported format string passed to type.__format__")

end Term

namespace Template

/-- The failure of a template. -/
def fault (message : String) : Failure := .fault .badValue message

/-- The name of a field up to the character that ends it, that character, and what follows.
`indexed` says that a square bracket is open, inside which every character counts as another. -/
def splitName (indexed : Bool) : List Char → Except Failure (List Char × Char × List Char)
  | [] => .error (fault "expected '\x7d' before end of string")
  | first :: rest =>
    if !indexed && first = '\x7b' then .error (fault "unexpected '\x7b' in field name")
    else if !indexed && ['\x7d', ':', '!'].contains first then .ok ([], first, rest)
    else do
      let (name, ending, after) ←
        splitName (if indexed then first != ']' else first == '[') rest
      pure (first :: name, ending, after)

theorem splitName_length {indexed : Bool} {characters name after : List Char} {ending : Char}
    (found : splitName indexed characters = .ok (name, ending, after)) :
    after.length < characters.length := by
  fun_induction splitName indexed characters generalizing name with
  | case1 => simp at found
  | case2 => simp at found
  | case3 =>
    simp only [Except.ok.injEq, Prod.mk.injEq] at found
    simp [found.2.2]
  | case4 indexed first rest _ _ inductionHypothesis =>
    cases inner : splitName (if indexed then first != ']' else first == '[') rest with
    | error failure => simp [inner, bind, Except.bind] at found
    | ok triple =>
      obtain ⟨begun, stop, others⟩ := triple
      simp only [inner, bind, Except.bind, pure, Except.pure, Except.ok.injEq,
        Prod.mk.injEq] at found
      have shorter := @inductionHypothesis begun (by rw [inner, found.2.1, found.2.2])
      simp only [List.length_cons]
      omega

/-- How many braces are open after a character. -/
def depthAfter (depth : Nat) (character : Char) : Nat :=
  if character = '\x7b' then depth + 1 else if character = '\x7d' then depth - 1 else depth

/-- A layout up to the brace that closes its field, inside `depth` further ones, and what follows
that brace. -/
def splitLayout (depth : Nat) : List Char → Except Failure (List Char × List Char)
  | [] => .error (fault "unmatched '\x7b' in format spec")
  | first :: rest =>
    if first = '\x7d' && depth = 0 then .ok ([], rest)
    else do
      let (layout, after) ← splitLayout (depthAfter depth first) rest
      pure (first :: layout, after)

theorem splitLayout_length {depth : Nat} {characters layout after : List Char}
    (found : splitLayout depth characters = .ok (layout, after)) :
    after.length < characters.length := by
  fun_induction splitLayout depth characters generalizing layout with
  | case1 => simp at found
  | case2 =>
    simp only [Except.ok.injEq, Prod.mk.injEq] at found
    simp [found.2]
  | case3 depth first rest _ inductionHypothesis =>
    cases inner : splitLayout (depthAfter depth first) rest with
    | error failure => simp [inner, bind, Except.bind] at found
    | ok pair =>
      obtain ⟨begun, others⟩ := pair
      simp only [inner, bind, Except.bind, pure, Except.pure, Except.ok.injEq,
        Prod.mk.injEq] at found
      have shorter := @inductionHypothesis begun (by rw [inner, found.2])
      simp only [List.length_cons]
      omega

/-- A field of a template. -/
structure Field where
  name : List Char
  conversion? : Option Char := none
  layout : List Char := []

/-- The rest of a field after its name, and what follows its closing brace. -/
def readTail (name : List Char) (ending : Char) (rest : List Char) :
    Except Failure (Field × List Char) :=
  match ending, rest with
  | ':', _ => (splitLayout 0 rest).map fun (layout, after) => ({ name, layout }, after)
  | '!', [] => .error (fault "end of string while looking for conversion specifier")
  | '!', conversion :: '\x7d' :: after => .ok ({ name, conversion? := some conversion }, after)
  | '!', conversion :: ':' :: others => (splitLayout 0 others).map fun (layout, after) =>
      ({ name, conversion? := some conversion, layout }, after)
  | '!', [_] => .error (fault "unmatched '\x7b' in format spec")
  | '!', _ => .error (fault "expected ':' after conversion specifier")
  | _, _ => .ok ({ name }, rest)

theorem readTail_length {name rest after : List Char} {ending : Char} {field : Field}
    (found : readTail name ending rest = .ok (field, after)) : after.length ≤ rest.length := by
  unfold readTail at found
  split at found
  · cases inner : splitLayout 0 rest with
    | error failure => simp [inner, Except.map] at found
    | ok pair =>
      have shorter := @splitLayout_length 0 rest pair.1 pair.2 inner
      simp only [inner, Except.map, Except.ok.injEq, Prod.mk.injEq] at found
      rw [← found.2]
      omega
  · simp at found
  · simp only [Except.ok.injEq, Prod.mk.injEq] at found
    simp only [List.length_cons, found.2]
    omega
  · rename_i conversion others
    cases inner : splitLayout 0 others with
    | error failure => simp [inner, Except.map] at found
    | ok pair =>
      have shorter := @splitLayout_length 0 others pair.1 pair.2 inner
      simp only [inner, Except.map, Except.ok.injEq, Prod.mk.injEq] at found
      simp only [List.length_cons, ← found.2]
      omega
  · simp at found
  · simp at found
  · simp only [Except.ok.injEq, Prod.mk.injEq] at found
    simp [found.2]

/-- Reads a field after its opening brace, and says what follows its closing brace. -/
def readField (characters : List Char) : Except Failure (Field × List Char) :=
  match splitName false characters with
  | .error failure => .error failure
  | .ok (name, ending, rest) => readTail name ending rest

theorem readField_length {characters after : List Char} {field : Field}
    (found : readField characters = .ok (field, after)) : after.length < characters.length := by
  unfold readField at found
  split at found
  · simp at found
  · rename_i name ending rest split
    exact Nat.lt_of_le_of_lt (readTail_length found) (splitName_length split)

/-- A position that is written in digits. -/
def position? (characters : List Char) : Except Failure (Option Nat) :=
  if characters.isEmpty || !characters.all isDecimal then .ok none
  else
    let position := ofDigits (characters.filterMap decimalValue?)
    if Layout.greatestCount < position then
      .error (fault "Too many decimal digits in format string")
    else .ok (some position)

/-- The value of a name. Values have names only, so a number or an empty name finds none. -/
def lookup (values : List (String × Term)) (name : List Char) : Except Failure Term := do
  let position? ← if name.isEmpty then pure (some 0) else position? name
  match position?, values.lookup (String.ofList name) with
  | some position, _ => .error (.fault .badIndex
      ("Replacement index " ++ toString position ++ " out of range for positional args tuple"))
  | none, some value => .ok value
  | none, none => .error (.fault .missingKey (quoted (String.ofList name)))

/-- A step from a value to a part of it. -/
inductive Step where
  | property (name : List Char)
  | item (position : List Char)

/-- The characters that begin a step. -/
def beginsStep (character : Char) : Bool := character = '.' || character = '['

/-- Reads the next step. -/
def readStep : List Char → Except Failure (Step × List Char)
  | '.' :: rest =>
    .ok (.property (rest.takeWhile (!beginsStep ·)), rest.dropWhile (!beginsStep ·))
  | '[' :: rest => match rest.dropWhile (· ≠ ']') with
    | [] => .error (fault "Missing ']' in format string")
    | _ :: after => .ok (.item (rest.takeWhile (· ≠ ']')), after)
  | _ => .error (fault "Only '.' or '[' may follow ']' in format field specifier")

/-- Takes a step. -/
def Step.take (value : Term) : Step → Except Failure Term
  | .property [] | .item [] => .error (fault "Empty attribute in format string")
  | .property name => value.property (String.ofList name)
  | .item name => do value.item (← position? name)

/-- Takes all steps; each leaves fewer characters, and `most` bounds their number. -/
def follow (most : Nat) (value : Term) (characters : List Char) : Except Failure Term :=
  match most, characters with
  | _, [] => .ok value
  | 0, _ => .ok value
  | more + 1, characters => do
    let (step, rest) ← readStep characters
    follow more (← step.take value) rest

/-- The value of a field, before its layout. -/
def Field.value (values : List (String × Term)) (field : Field) : Except Failure Term := do
  let steps := field.name.dropWhile (!beginsStep ·)
  let found ← lookup values (field.name.takeWhile (!beginsStep ·))
  let value ← follow steps.length found steps
  match field.conversion? with
  | none => pure value
  | some conversion => value.converted conversion

/-- Writes a field; `expand` fills the fields inside its layout. -/
def Field.write (expand : List Char → Except Failure (List Char))
    (values : List (String × Term)) (field : Field) : Except Failure (List Char) := do
  let value ← field.value values
  let layout ← if field.layout.contains '\x7b' then expand field.layout else pure field.layout
  value.written layout

/-- Puts values in the place of the fields of a template. -/
def fillFields (expand : List Char → Except Failure (List Char))
    (values : List (String × Term)) : List Char → Except Failure (List Char)
  | [] => .ok []
  | '\x7b' :: '\x7b' :: rest => do pure ('\x7b' :: (← fillFields expand values rest))
  | '\x7d' :: '\x7d' :: rest => do pure ('\x7d' :: (← fillFields expand values rest))
  | ['\x7b'] => .error (fault "Single '\x7b' encountered in format string")
  | '\x7b' :: rest =>
    match _found : readField rest with
    | .error failure => .error failure
    | .ok (field, after) => do
      let written ← field.write expand values
      pure (written ++ (← fillFields expand values after))
  | '\x7d' :: _ => .error (fault "Single '\x7d' encountered in format string")
  | first :: rest => do pure (first :: (← fillFields expand values rest))
termination_by characters => characters.length
decreasing_by
  all_goals simp_wf
  all_goals first
    | omega
    | (have shorter := readField_length _found
       omega)

/-- Fills a template whose layouts have fields up to a depth. -/
def fillNested (values : List (String × Term)) : Nat → List Char → Except Failure (List Char)
  | 0 => fun _ => .error (fault "Max string recursion exceeded")
  | depth + 1 => fillFields (fillNested values depth) values

/-- How deep templates are filled: the template itself and the layouts of its fields. -/
def depth : Nat := 2

end Template

/-- Puts values in the place of their names. -/
def fill (values : List (String × Term)) (template : String) : Except Failure String :=
  (Template.fillNested values Template.depth template.toList).map String.ofList

end PortableSql.Text
