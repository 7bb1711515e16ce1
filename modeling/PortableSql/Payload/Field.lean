import PortableSql.Command.Basic
import PortableSql.Payload.Checked
import PortableSql.Payload.Whole

/-!
# Payload fields

How the fields of a model are found in a payload and how plain values are read. A field has a
name and may have a clause keyword; the keyword wins when both are given. Keys that belong to no
field are not permitted.

Plain values are read leniently where nothing is lost: text also from bytes, lists also from
tuples and from views of bytes, truth values from their usual spellings, whole numbers from other
spellings of them.
-/

namespace PortableSql.Payload

/-- The entries of a payload, in order. -/
abbrev Entries := List (Value × Value)

/-- The name of a field and the keyword that a payload may use for it. -/
structure Key where
  name : String
  keyword : String := name

/-- The value of a text key. -/
def valueOf? (key : String) : Entries → Option Value
  | [] => none
  | (.text known, value) :: rest => if known = key then some value else valueOf? key rest
  | _ :: rest => valueOf? key rest

/-- The spelling used for a field and its value. -/
def Key.locate (key : Key) (entries : Entries) : Option (String × Value) :=
  match valueOf? key.keyword entries with
  | some value => some (key.keyword, value)
  | none => (valueOf? key.name entries).map fun value => (key.name, value)

/-- A key as it appears in the place of an issue. -/
def keyText : Value → String
  | .text characters => characters
  | .int number => toString number
  | .bool truth => if truth then "1" else "0"
  | value => value.shown

/-- The issues with keys that belong to no field. -/
def strayKeys (keys : List Key) (entries : Entries) : List Issue :=
  let known := keys.filterMap fun key => (key.locate entries).map Prod.fst
  entries.filterMap fun (key, _) => match key with
    | .text spelling =>
      if known.contains spelling then none
      else some { path := [spelling], text := "Extra inputs are not permitted" }
    | other => some { path := [keyText other], text := "Keys should be strings" }

/-- A field that must be given. -/
def required {α : Type} (entries : Entries) (key : Key) (read : Value → Checked α) : Checked α :=
  match key.locate entries with
  | some (spelling, value) => (read value).inside spelling
  | none => .rejected [{ path := [key.keyword], text := "Field required" }]

/-- A field that has a usual value. -/
def optional {α : Type} (entries : Entries) (key : Key) (usual : α) (read : Value → Checked α) :
    Checked α :=
  match key.locate entries with
  | some (spelling, value) => (read value).inside spelling
  | none => .accepted usual

/-- A model whose fields are read: no key may be left over, and the whole is checked last. -/
def modelOf {α : Type} (keys : List Key) (entries : Entries) (fields : Checked α)
    (reason? : α → Option String := fun _ => none) : Checked α :=
  (fields.also (strayKeys keys entries)).checkedBy reason?

/-- A value in the place of a model that is none. -/
def notModel {α : Type} (name : String) : Checked α :=
  .refused ("Input should be a valid dictionary or instance of " ++ name)

/-- Null, or a value to be read. -/
def nullable {α : Type} (read : Value → Checked α) : Value → Checked (Option α)
  | .null => .accepted none
  | value => (read value).map some

/-- Any value as it is. -/
def readAny : Value → Checked Value := .accepted

/-- The text of bytes, if they are text. -/
def decoded? (bytes : List UInt8) : Option String := String.fromUTF8? ⟨bytes.toArray⟩

/-- Reads text, also from bytes. -/
def readText : Value → Checked String
  | .text characters => .accepted characters
  | .binary form bytes =>
    if form = .view then .refused "Input should be a valid string"
    else match decoded? bytes with
      | some characters => .accepted characters
      | none => .refused
        "Input should be a valid string, unable to parse raw data as a unicode string"
  | _ => .refused "Input should be a valid string"

/-- Reads text that is not empty. -/
def readFullText (value : Value) : Checked String :=
  (readText value).andThen fun characters =>
    if characters.isEmpty then .refused "String should have at least 1 character"
    else .accepted characters

/-- The truth values in their spellings, without regard to the case of letters. -/
def truthOf? (spelling : String) : Option Bool :=
  let small := spelling.toLower
  if ["0", "off", "f", "false", "n", "no"].contains small then some false
  else if ["1", "on", "t", "true", "y", "yes"].contains small then some true
  else none

/-- Why a value of a suitable type is no truth value. -/
def uninterpretable : String := "Input should be a valid boolean, unable to interpret input"

/-- Numbers that fit into sixty-four bits with a sign. -/
def isWord64 (number : Int) : Bool := -0x8000000000000000 ≤ number && number < 0x8000000000000000

/-- The whole number that a double is, if it lies strictly between the ends of sixty-four bits with
a sign; both ends are doubles themselves and stand for everything beyond. -/
def wordOfFloat? (number : Float) : Option Int :=
  (Number.Binary64.ofFloat number).whole?.filter fun whole =>
    -0x8000000000000000 < whole && whole < 0x8000000000000000

/-- Reads a truth value; a decimal counts as the double that is nearest to it. -/
def readBool : Value → Checked Bool
  | .bool truth => .accepted truth
  | .int number => if isWord64 number then ofNumber number else unsuitable
  | .float number => ofFloat? (some number)
  | .decimal number => ofFloat? number.toFloat?
  | .text spelling => ofSpelling (truthOf? spelling)
  | .binary .fixed bytes => ofSpelling ((decoded? bytes).bind truthOf?)
  | _ => unsuitable
where
  /-- The value has the wrong type or is out of reach. -/
  unsuitable : Checked Bool := .refused "Input should be a valid boolean"
  /-- A number that means a truth value. -/
  ofNumber (number : Int) : Checked Bool :=
    if number = 0 then .accepted false
    else if number = 1 then .accepted true
    else .refused uninterpretable
  /-- A whole double that means a truth value. -/
  ofFloat? (number? : Option Float) : Checked Bool :=
    match number?.bind wordOfFloat? with
    | some whole => ofNumber whole
    | none => unsuitable
  /-- A spelling that means a truth value. -/
  ofSpelling : Option Bool → Checked Bool
    | some truth => .accepted truth
    | none => .refused uninterpretable

/-- Why text is no whole number. -/
def unparsable : String :=
  "Input should be a valid integer, unable to parse string as an integer"

/-- Why a number is out of reach. -/
def tooLarge : String := "Unable to parse input string as an integer, exceeded maximum size"

/-- Reads a whole number. -/
def readInt : Value → Checked Int
  | .int number => .accepted number
  | .bool truth => .accepted (if truth then 1 else 0)
  | .float number => match Number.Binary64.ofFloat number with
    | .finite negative significand exponent =>
      match (Number.Binary64.finite negative significand exponent).whole?, wordOfFloat? number with
      | none, _ => .refused fractional
      | some _, none => .refused tooLarge
      | some _, some whole => .accepted whole
    | _ => .refused "Input should be a finite number"
  | .decimal number => match number with
    | .finite .. => match number.whole? with
      | some whole => .accepted whole
      | none => .refused fractional
    | _ => .refused "Input should be a finite number"
  | .text spelling => ofText (wholeOf spelling)
  | .binary .fixed bytes => match decoded? bytes with
    | some spelling => ofText (wholeOf spelling)
    | none => .refused unparsable
  | _ => .refused "Input should be a valid integer"
where
  /-- Why a number that is not whole is refused. -/
  fractional : String := "Input should be a valid integer, got a number with a fractional part"
  /-- What was read from text. -/
  ofText : Except Text.NumeralFault Int → Checked Int
    | .ok whole => .accepted whole
    | .error (.tooLong _) => .refused tooLarge
    | .error .malformed => .refused unparsable

/-- Reads a whole number that is at least the given one. -/
def readIntFrom (least : Int) (value : Value) : Checked Int :=
  (readInt value).andThen fun number =>
    if number < least then
      .refused ("Input should be greater than or equal to " ++ toString least)
    else .accepted number

/-- The items of a list or tuple. -/
def itemsOf? : Value → Option (List Value)
  | .list items | .tuple items => some items
  | _ => none

/-- The items of a list, a tuple or a view of bytes. -/
def sequenceOf? : Value → Option (List Value)
  | .binary .view bytes => some (bytes.map fun byte => .int byte.toNat)
  | value => itemsOf? value

/-- Reads a list whose items are read one by one. -/
def readList {α : Type} (read : Value → Checked α) (value : Value) : Checked (List α) :=
  match sequenceOf? value with
  | some items => .items read 0 items
  | none => .refused "Input should be a valid list"

/-- Reads a list that is not empty. -/
def readFullList {α : Type} (read : Value → Checked α) (value : Value) : Checked (List α) :=
  (readList read value).andThen fun items =>
    if items.isEmpty then .refused "List should have at least 1 item after validation, not 0"
    else .accepted items

/-- A single name stands for the list of it. -/
def wrapped : Value → Value
  | .text name => .list [.text name]
  | value => value

/-- Reads the entries of a dictionary, side by side. -/
def readEntries {κ α : Type} (readKey : Value → Checked κ) (read : Value → Checked α) :
    Entries → Checked (List (κ × α))
  | [] => .accepted []
  | (key, value) :: rest =>
    let place := keyText key
    let first := (((readKey key).inside "[key]").both fun _ => read value).inside place
    (first.both fun _ => readEntries readKey read rest).map fun (entry, others) => entry :: others

/-- Reads a dictionary with text keys. -/
def readDictionary {α : Type} (read : Value → Checked α) : Value → Checked (List (String × α))
  | .dictionary entries => (readEntries readText read entries).map entriesOf
  | _ => .refused "Input should be a valid dictionary"

/-- Names joined for a choice, with single quotes around each. -/
def choices (spellings : List String) : String :=
  let shown := spellings.map fun spelling => "'" ++ spelling ++ "'"
  match shown.reverse with
  | [] => ""
  | [only] => only
  | last :: others => Text.listed others.reverse ++ " or " ++ last

/-- Reads one of several spellings. -/
def readSpelling {α : Type} (spellings : List String) (ofSpelling? : String → Option α)
    (value : Value) : Checked α :=
  match readText value with
  | .accepted characters => match ofSpelling? characters with
    | some meaning => .accepted meaning
    | none => .refused ("Input should be " ++ choices spellings)
  | _ => .refused ("Input should be " ++ choices spellings)

/-- Reads the tag that a payload repeats. -/
def readTag (tag : Tag) : Value → Checked Unit
  | .text spelling =>
    if spelling = tag.spelling then .accepted () else .refused (expected tag)
  | _ => .refused (expected tag)
where
  /-- The only acceptable tag. -/
  expected (tag : Tag) : String :=
    "Input should be <CommandType." ++ tag.symbol ++ ": '" ++ tag.spelling ++ "'>"

end PortableSql.Payload
