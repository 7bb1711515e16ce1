import PortableSql.Failure
import PortableSql.Text.Digit

/-!
# Whole numbers of values

A value stands for a whole number when it is a number, whose fraction is dropped, or a text or
binary data with a numeral.
-/

namespace PortableSql

/-- Why a text, in its shown form, is no integer. -/
def Text.NumeralFault.failure (shown : String) : Text.NumeralFault → Failure
  | .malformed => .fault .badValue
      ("invalid literal for int() with base 10: " ++ Text.taken 200 shown)
  | .tooLong digits => .fault .badValue
      ("Exceeds the limit (" ++ toString Text.longestNumeral ++
        " digits) for integer string conversion: value has " ++ toString digits ++
        " digits; use sys.set_int_max_str_digits() to increase the limit")

/-- Reads a hexadecimal number, failing with a fault. -/
def Text.hexInteger (text : String) : Except Failure Int :=
  match Text.readHexInteger? text.toList with
  | some number => .ok number
  | none => .error (.fault .badValue
      ("invalid literal for int() with base 16: " ++ Text.taken 200 (Text.quoted text)))

/-- Reads an integer, failing with a fault. -/
def Text.integer (text : String) : Except Failure Int :=
  (Text.readInteger text.toList).mapError (Text.NumeralFault.failure (Text.quoted text))

/-- The numeral of a number, failing with a fault. -/
def Text.numeral (number : Int) : Except Failure String :=
  match Text.numeral? number with
  | some shown => .ok shown
  | none => .error (.fault .badValue Text.unwritable)

/-- The double that is nearest to a whole number. -/
def Number.ofInteger (number : Int) : Except Failure Float :=
  let near := Float.ofInt number
  if near.isInf then .error (.fault .overflow "int too large to convert to float") else .ok near

namespace Value

/-- The characters of a numeral in binary data; only the ordinary white space and digits count. -/
def numeralCharacters (bytes : List UInt8) : List Char :=
  bytes.map fun byte => if 0x80 ≤ byte then '?' else Char.ofNat byte.toNat

/-- The whole part of a double; it is zero for what is no number. -/
def wholePart (number : Float) : Int :=
  match (Value.float number).rational? with
  | some (numerator, denominator) => numerator.tdiv denominator
  | none => 0

/-- The whole number that a value stands for. -/
def toInteger (value : Value) : Except Failure Int :=
  match value with
  | .bool truth => .ok (if truth then 1 else 0)
  | .int number => .ok number
  | .text digits => Text.integer digits
  | .binary _ bytes => (Text.readInteger (numeralCharacters bytes)).mapError
      (Text.NumeralFault.failure (Text.quotedBytes bytes))
  | .float number =>
    if number.isNaN then .error (.fault .badValue "cannot convert float NaN to integer")
    else if number.isInf then
      .error (.fault .overflow "cannot convert float infinity to integer")
    else .ok (wholePart number)
  | .decimal (.notANumber ..) => .error (.fault .badValue "cannot convert NaN to integer")
  | .decimal (.infinite _) => .error (.fault .overflow "cannot convert Infinity to integer")
  | .decimal (.finite negative coefficient exponent) =>
    .ok (Number.Decimal.wholePart negative coefficient exponent)
  | other => .error (.fault .badType
      ("int() argument must be a string, a bytes-like object or a real number, not '" ++
        other.qualifiedTypeName ++ "'"))

end Value

end PortableSql
