import PortableSql.Value.Integer

/-!
# Values of one text

Some kinds of values are written as one text each: numbers, binary data in hexadecimal digits, and
days, times and moments in ISO form. What is no text of its kind is refused with a fault.
-/

namespace PortableSql

/-- The kinds of values that are written as one text. -/
inductive Scalar where
  | integer
  | double
  | decimal
  | binary (form : BufferForm)
  | date
  | time
  | datetime
deriving DecidableEq, Repr

namespace Scalar

/-- Reads a decimal; one whose digits stand for powers of ten out of bounds is refused as well. -/
def readDecimal (text : String) : Except Failure Number.Decimal :=
  match Number.Decimal.read? text with
  | none => .error (.fault .badDecimal "[<class 'decimal.ConversionSyntax'>]")
  | some number =>
    if number.inBounds then .ok number
    else .error (.fault .badDecimal "[<class 'decimal.InvalidOperation'>]")

/-- Reads a double. -/
def readDouble (text : String) : Except Failure Float :=
  match Number.readFloat? text with
  | some number => .ok number
  | none => .error (.fault .badValue ("could not convert string to float: " ++ Text.quoted text))

/-- Why hexadecimal digits cannot be read, given the position of the first fault. -/
def hexFault (position : Nat) : Failure :=
  .fault .badValue
    ("non-hexadecimal number found in fromhex() arg at position " ++ toString position)

/-- Reads a value of a kind. -/
def read (kind : Scalar) (text : String) : Except Failure Value :=
  match kind with
  | integer => (Text.integer text).map .int
  | double => (readDouble text).map .float
  | decimal => (readDecimal text).map .decimal
  | binary form => ((Text.readHexText text).mapError hexFault).map (.binary form)
  | date => ((Day.ofIso text).mapError (.fault .badValue)).map .date
  | time => ((Clock.ofIso text).mapError (.fault .badValue)).map .time
  | datetime => ((Moment.ofIso text).mapError (.fault .badValue)).map .datetime

end Scalar

end PortableSql
