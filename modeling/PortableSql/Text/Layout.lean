import PortableSql.Number.FixedText
import PortableSql.Value.Integer

/-!
# Layouts

A layout says how a text or a whole number is written in a place: how it is aligned and what fills
the place, which sign it has, how many digits, whether they are grouped, and in which base or form
a number is written. It is itself written as a short text, in which every part may be missing:

    fill and alignment, sign, z, #, 0, width, grouping, .precision, form
-/

namespace PortableSql.Text

/-- Where a text stands in a wider place. -/
inductive Alignment where
  | left
  | right
  | center
  /-- The filling stands between the sign of a number and its digits. -/
  | spread
deriving DecidableEq, Repr

/-- The alignment that a mark stands for. -/
def Alignment.ofMark? : Char → Option Alignment
  | '<' => some left
  | '>' => some right
  | '^' => some center
  | '=' => some spread
  | _ => none

/-- What is written: it decides the usual form and alignment, and what is said about faults. -/
inductive LayoutSubject where
  | text
  | whole
deriving DecidableEq, Repr

namespace LayoutSubject

/-- The name of the type of a subject. -/
def typeName : LayoutSubject → String
  | text => "str"
  | whole => "int"

/-- The form of a layout that names none. -/
def form : LayoutSubject → Char
  | text => 's'
  | whole => 'd'

/-- The alignment of a layout that names none. -/
def alignment : LayoutSubject → Alignment
  | text => .left
  | whole => .right

end LayoutSubject

/-- How something is written in a place. -/
structure Layout where
  fill : Char := ' '
  alignment : Alignment
  sign : Option Char := none
  /-- A zero has no minus sign. -/
  positiveZero : Bool := false
  /-- The other form of a number: with the mark of its base, or with all its digits. -/
  alternate : Bool := false
  width : Nat := 0
  grouping : Option Char := none
  precision : Option Nat := none
  form : Char

namespace Layout

/-- The failure of a layout. -/
def fault (message : String) : Failure := .fault .badValue message

/-- The name of a form inside a message: by its code where it is no visible ASCII character. -/
def formName (form : Char) : String :=
  let code := form.toNat
  if 32 < code && code < 128 then form.toString
  else "\\x" ++ String.ofList (Nat.toDigits 16 code)

/-- There is no such form for a subject. -/
def unknownForm (form : Char) (subject : LayoutSubject) : Failure :=
  fault ("Unknown format code '" ++ formName form ++ "' for object of type '" ++
    subject.typeName ++ "'")

/-- The greatest width and the greatest precision that can be read. -/
def greatestCount : Nat := 0x7fffffffffffffff

/-- Reads a count, and says what follows it; without digits there is none. -/
def readCount (characters : List Char) : Except Failure (Option Nat × List Char) :=
  let digits := characters.takeWhile isDecimal
  let count := ofDigits (digits.filterMap decimalValue?)
  if greatestCount < count then .error (fault "Too many decimal digits in format string")
  else .ok (if digits.isEmpty then none else some count, characters.drop digits.length)

/-- Leaves out a character where it comes next, and says whether it did. -/
def skip (expected : Char) : List Char → Bool × List Char
  | first :: rest => if first = expected then (true, rest) else (false, first :: rest)
  | [] => (false, [])

/-- Reads a filling character and an alignment. -/
def readAlignment : List Char → Option Char × Option Alignment × List Char
  | [] => (none, none, [])
  | first :: rest =>
    match rest.head?.bind Alignment.ofMark?, Alignment.ofMark? first with
    | some alignment, _ => (some first, some alignment, rest.drop 1)
    | none, some alignment => (none, some alignment, rest)
    | none, none => (none, none, first :: rest)

/-- Reads a sign. -/
def readSign : List Char → Option Char × List Char
  | first :: rest =>
    if [' ', '+', '-'].contains first then (some first, rest) else (none, first :: rest)
  | [] => (none, [])

/-- Reads the grouping of digits; only one can be given. -/
def readGrouping (characters : List Char) : Except Failure (Option Char × List Char) :=
  let both : Failure := fault "Cannot specify both ',' and '_'."
  match characters with
  | ',' :: '_' :: _ => .error both
  | '_' :: ',' :: _ => .error both
  | ',' :: rest => .ok (some ',', rest)
  | '_' :: rest => .ok (some '_', rest)
  | rest => .ok (none, rest)

/-- Reads a precision after a point. -/
def readPrecision : List Char → Except Failure (Option Nat × List Char)
  | '.' :: rest => do
    match ← readCount rest with
    | (none, _) => .error (fault "Format specifier missing precision")
    | found => pure found
  | rest => .ok (none, rest)

/-- Digits can be grouped in decimal forms, and with underscores also in the other bases. -/
def groupingFits (grouping form : Char) : Bool :=
  ['d', 'e', 'f', 'g', 'E', 'G', '%', 'F'].contains form ||
    (grouping = '_' && ['b', 'o', 'x', 'X'].contains form)

/-- Refuses a grouping that its form does not have. -/
def checkGrouping (grouping? : Option Char) (form : Char) : Except Failure Unit :=
  match grouping? with
  | none => .ok ()
  | some grouping =>
    if groupingFits grouping form then .ok ()
    else .error (fault ("Cannot specify '" ++ grouping.toString ++ "' with '" ++ formName form ++
      "'."))

/-- Reads a layout for a subject. -/
def read (subject : LayoutSubject) (characters : List Char) : Except Failure Layout := do
  let (fill?, alignment?, rest) := readAlignment characters
  let (sign, rest) := readSign rest
  let (positiveZero, rest) := skip 'z' rest
  let (alternate, rest) := skip '#' rest
  let (zero, rest) := if fill?.isSome then (false, rest) else skip '0' rest
  let (width?, rest) ← readCount rest
  let (grouping, rest) ← readGrouping rest
  let (precision, rest) ← readPrecision rest
  let form ← match rest with
    | [] => pure subject.form
    | [form] => pure form
    | _ => .error (fault ("Invalid format specifier '" ++ String.ofList characters ++
        "' for object of type '" ++ subject.typeName ++ "'"))
  checkGrouping grouping form
  let usual := if zero && subject.alignment = .right then .spread else subject.alignment
  pure {
    fill := fill?.getD (if zero then '0' else ' ')
    alignment := alignment?.getD usual
    sign, positiveZero, alternate, grouping, precision, form
    width := width?.getD 0 }

/-- Writes a text with what fills its place, in front of it and behind it. -/
def placed (layout : Layout) (characters : List Char) : List Char :=
  let missing := layout.width - characters.length
  let front := match layout.alignment with
    | .right => missing
    | .center => missing / 2
    | .left | .spread => 0
  List.replicate front layout.fill ++ characters ++ List.replicate (missing - front) layout.fill

/-- Why a text cannot be written in a layout, if it cannot. -/
def textFault? (layout : Layout) : Option String :=
  if layout.sign = some ' ' then some "Space not allowed in string format specifier"
  else if layout.sign.isSome then some "Sign not allowed in string format specifier"
  else if layout.positiveZero then
    some "Negative zero coercion (z) not allowed in string format specifier"
  else if layout.alternate then
    some "Alternate form (#) not allowed in string format specifier"
  else if layout.alignment = .spread then
    some "'=' alignment not allowed in string format specifier"
  else none

/-- Writes a text, cut by the precision. -/
def writeText (layout : Layout) (text : List Char) : Except Failure (List Char) :=
  if layout.form ≠ 's' then .error (unknownForm layout.form .text)
  else match layout.textFault? with
    | some message => .error (fault message)
    | none => .ok (layout.placed (match layout.precision with
      | some longest => text.take longest
      | none => text))

/-- Digits, the last one first, in groups with a separator between them; zeros are added until
there are at least so many characters. `steps` bounds the number of groups. -/
def groupedFrom (separator : Char) (size : Nat) : Nat → Nat → List Char → List Char
  | 0, _, digits => digits
  | steps + 1, least, digits =>
    let length := min size (max (max digits.length least) 1)
    let group := digits.take length ++ List.replicate (length - digits.length) '0'
    if digits.length ≤ length && least ≤ length then group
    else group ++ separator :: groupedFrom separator size steps (least - length - 1)
      (digits.drop length)

/-- Digits in groups of a size. -/
def grouped (separator : Char) (size least : Nat) (digits : List Char) : List Char :=
  (groupedFrom separator size (digits.length + least + 1) least digits.reverse).reverse

/-- A number that is ready to be written: its sign, the mark of its base, the digits of its whole
part, and what follows them. -/
structure NumberParts where
  negative : Bool
  mark : List Char := []
  digits : List Char
  rest : List Char := []

/-- The sign that is written before a number. -/
def signOf (layout : Layout) (negative : Bool) : List Char :=
  if negative then ['-']
  else match layout.sign with
    | some '+' => ['+']
    | some ' ' => [' ']
    | _ => []

/-- The digits of a whole part with their separators, at least so many characters. -/
def wholeDigits (layout : Layout) (least : Nat) (digits : List Char) : List Char :=
  if digits.isEmpty then []
  else match layout.grouping with
    | some separator =>
      let size := if ['b', 'o', 'x', 'X'].contains layout.form then 4 else 3
      grouped separator size least digits
    | none => List.replicate (least - digits.length) '0' ++ digits

/-- Writes a number. Zeros that fill the place between the sign and the digits are digits too. -/
def placedNumber (layout : Layout) (parts : NumberParts) : List Char :=
  let start := layout.signOf parts.negative ++ parts.mark
  let filling := layout.alignment = .spread && layout.fill = '0'
  let least := if filling then layout.width - start.length - parts.rest.length else 0
  let body := layout.wholeDigits least parts.digits ++ parts.rest
  if layout.alignment = .spread then
    start ++ List.replicate (layout.width - start.length - body.length) layout.fill ++ body
  else layout.placed (start ++ body)

/-- Why a whole number cannot be written in a layout of an integer form, if it cannot. -/
def wholeFault? (layout : Layout) : Option String :=
  if layout.precision.isSome then some "Precision not allowed in integer format specifier"
  else if layout.positiveZero then
    some "Negative zero coercion (z) not allowed in integer format specifier"
  else if layout.form ≠ 'c' then none
  else if layout.sign.isSome then some "Sign not allowed with integer format specifier 'c'"
  else if layout.alternate then
    some "Alternate form (#) not allowed with integer format specifier 'c'"
  else none

/-- Writes the character with a code. -/
def writeCode (layout : Layout) (number : Int) : Except Failure (List Char) :=
  if number < -0x8000000000000000 || 0x7fffffffffffffff < number then
    .error (.fault .overflow "Python int too large to convert to C long")
  else if number < 0 || 0x110000 ≤ number then
    .error (.fault .overflow "%c arg not in range(0x110000)")
  else .ok (layout.placedNumber
    { negative := false, digits := [], rest := [Char.ofNat number.toNat] })

/-- Writes a whole number in a base. -/
def writeBase (layout : Layout) (number : Int) (base : Nat) (mark : Char) : List Char :=
  let capital := fun characters : List Char =>
    if layout.form = 'X' then characters.map Char.toUpper else characters
  layout.placedNumber {
    negative := number < 0
    mark := if layout.alternate then capital ['0', mark] else []
    digits := capital (Nat.toDigits base number.natAbs) }

/-- Writes a whole number in decimal digits, unless they are too many. -/
def writeDecimal (layout : Layout) (number : Int) : Except Failure (List Char) := do
  let shown ← numeral number.natAbs
  pure (layout.placedNumber { negative := number < 0, digits := shown.toList })

/-- The greatest number of places of a real number. -/
def greatestPlaces : Nat := 0x7fffffff

/-- Writes a whole number as a real number; a percentage is a hundred times as much. -/
def writeReal (layout : Layout) (number : Int) : Except Failure (List Char) := do
  let near ← Number.ofInteger number
  let places := layout.precision.getD 6
  if greatestPlaces < places then throw (fault "precision too big")
  let percent := layout.form = '%'
  let (negative, characters) :=
    if percent then Number.lettered 'f' places layout.alternate (near * 100.0)
    else Number.lettered layout.form places layout.alternate near
  let digits := characters.takeWhile Char.isDigit
  pure (layout.placedNumber {
    negative, digits
    rest := characters.drop digits.length ++ (if percent then ['%'] else []) })

/-- The forms in which a whole number is written as such. -/
def wholeForms : List Char := ['b', 'c', 'd', 'n', 'o', 'x', 'X']

/-- Writes a whole number. -/
def writeWhole (layout : Layout) (number : Int) : Except Failure (List Char) :=
  if ['e', 'E', 'f', 'F', 'g', 'G', '%'].contains layout.form then layout.writeReal number
  else if !wholeForms.contains layout.form then
    .error (unknownForm layout.form .whole)
  else match layout.wholeFault? with
    | some message => .error (fault message)
    | none => match layout.form with
      | 'c' => layout.writeCode number
      | 'b' => .ok (layout.writeBase number 2 'b')
      | 'o' => .ok (layout.writeBase number 8 'o')
      | 'x' | 'X' => .ok (layout.writeBase number 16 'x')
      | _ => layout.writeDecimal number

end Layout

end PortableSql.Text
