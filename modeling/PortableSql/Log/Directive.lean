import PortableSql.Number.FixedText
import PortableSql.Text.Points
import PortableSql.Value.Integer

/-!
# Directives

A directive says how one argument is written into a message: as text or as a number, with a sign,
a least width and a precision.
-/

namespace PortableSql.Log

/-- How one argument is written. -/
structure Directive where
  /-- The other form of a number: with the mark of its base, or with all its digits. -/
  alternate : Bool := false
  /-- A number is filled with zeros. -/
  zero : Bool := false
  /-- The text stands at the left. -/
  left : Bool := false
  /-- A number that is not negative has a blank in the place of its sign. -/
  blank : Bool := false
  /-- Every number has a sign. -/
  sign : Bool := false
  width : Nat := 0
  precision : Option Nat := none
  letter : Char

/-- A written number: its sign, the mark of its base, and the rest. -/
structure WrittenNumber where
  negative : Bool := false
  mark : List Char := []
  body : List Char

namespace Directive

/-- A text in its width, after its precision cut it; a blank fills its place. -/
def placed {α : Type} (directive : Directive) (blank : α) (text : List α) : List α :=
  let filling := List.replicate (directive.width - text.length) blank
  if directive.left then text ++ filling else filling ++ text

/-- The text of an argument, cut by the precision. -/
def cut (directive : Directive) (text : String) : List Char :=
  match directive.precision with
  | some longest => text.toList.take longest
  | none => text.toList

/-- A number with its sign in its width. -/
def placedNumber (directive : Directive) (number : WrittenNumber) : List Char :=
  let sign := if number.negative then ['-'] else if directive.sign then ['+']
    else if directive.blank then [' '] else []
  let start := sign ++ number.mark
  if directive.zero && !directive.left then
    start ++ List.replicate (directive.width - start.length - number.body.length) '0' ++
      number.body
  else directive.placed ' ' (start ++ number.body)

/-- The number has the wrong type for a directive. -/
def wrongNumber (directive : Directive) (kind : String) (value : Value) : Failure :=
  .fault .badType ("%" ++ directive.letter.toString ++ " format: " ++ kind ++
    " is required, not " ++ value.qualifiedTypeName)

/-- The directive writes a number in a base other than ten. -/
def based (directive : Directive) : Bool := ['o', 'x', 'X'].contains directive.letter

/-- The whole number of an argument; only decimal directives drop fractions. A decimal with more
digits than can be written is refused before its power of ten is built. -/
def whole (directive : Directive) (value : Value) : Except Failure Int :=
  let based := directive.based
  match value with
  | .int _ | .bool _ => value.toInteger
  | .decimal (.finite negative coefficient exponent) =>
    if based then .error (directive.wrongNumber "an integer" value)
    else if coefficient ≠ 0 && (Text.longestNumeral : Int) ≤ exponent then
      .error (.fault .badValue Text.unwritable)
    else .ok (Number.Decimal.wholePart negative coefficient exponent)
  | .float _ | .decimal _ =>
    if based then .error (directive.wrongNumber "an integer" value) else value.toInteger
  | _ => .error (directive.wrongNumber (if based then "an integer" else "a real number") value)

/-- A whole number in the base of a directive; only in base ten there is a greatest length. -/
def writtenWhole (directive : Directive) (number : Int) : Except Failure WrittenNumber := do
  if !directive.based then let _ ← Text.numeral number
  let (base, mark) : Nat × List Char := match directive.letter with
    | 'o' => (8, ['0', 'o'])
    | 'x' => (16, ['0', 'x'])
    | 'X' => (16, ['0', 'X'])
    | _ => (10, [])
  let digits := Nat.toDigits base number.natAbs
  let digits := if directive.letter = 'X' then digits.map Char.toUpper else digits
  let least := directive.precision.getD 0
  pure {
    negative := number < 0
    mark := if directive.alternate then mark else []
    body := List.replicate (least - digits.length) '0' ++ digits }

/-- The real number of an argument. -/
def real (value : Value) : Except Failure Float :=
  match value with
  | .float number => .ok number
  | .bool truth => .ok (if truth then 1.0 else 0.0)
  | .int number => Number.ofInteger number
  | .decimal number => match number.toFloat? with
    | some near => .ok near
    | none => .error (.fault .badValue "cannot convert signaling NaN to float")
  | other => .error (.fault .badType ("must be real number, not " ++ other.qualifiedTypeName))

/-- A real number as a directive says. -/
def writtenReal (directive : Directive) (number : Float) : WrittenNumber :=
  let (negative, body) := Number.lettered directive.letter (directive.precision.getD 6)
    directive.alternate number
  { negative, body }

/-- One character: a text of one, or a code point, which may be a lone surrogate. -/
def character (value : Value) : Except Failure Text.Points :=
  let number := fun (code : Int) =>
    if 0 ≤ code && code < 0x110000 then Except.ok [code.toNat]
    else .error (.fault .overflow "%c arg not in range(0x110000)")
  match value with
  | .int code => number code
  | .bool truth => number (if truth then 1 else 0)
  | .text text => match text.toList with
    | [only] => .ok [only.toNat]
    | _ => .error needed
  | _ => .error needed
where
  /-- The argument is no character. -/
  needed : Failure := .fault .badType "%c requires int or char"

/-- There is no such directive; the position is that of its letter. -/
def unknown (directive : Directive) (position : Nat) : Failure :=
  let code := directive.letter.toNat
  let shown := if 31 ≤ code && code ≤ 126 then directive.letter else '?'
  .fault .badValue ("unsupported format character '" ++ shown.toString ++ "' (0x" ++
    String.ofList (Nat.toDigits 16 code) ++ ") at index " ++ toString position)

/-- Writes an argument; the position is that of the letter in the message. -/
def apply (directive : Directive) (position : Nat) (value : Value) :
    Except Failure Text.Points :=
  let text := fun (characters : String) =>
    Text.points (String.ofList (directive.placed ' ' (directive.cut characters)))
  let number := fun (written : WrittenNumber) =>
    (directive.placedNumber written).map Char.toNat
  match directive.letter with
  | 's' => .ok (text value.plain)
  | 'r' => .ok (text value.shown)
  | 'a' => .ok (text (Text.ascii value.shown))
  | 'c' => (character value).map (directive.placed ' '.toNat)
  | 'd' | 'i' | 'u' | 'o' | 'x' | 'X' => do
    pure (number (← directive.writtenWhole (← directive.whole value)))
  | 'e' | 'E' | 'f' | 'F' | 'g' | 'G' =>
    (real value).map fun near => number (directive.writtenReal near)
  | _ => .error (directive.unknown position)

end Directive

end PortableSql.Log
