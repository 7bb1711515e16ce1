import PortableSql.Value.Integer

/-!
# Bytes of values

What is bound as binary data: binary data itself, a count of zero bytes, or a list of numbers
below 256.
-/

namespace PortableSql.Value

/-- The greatest index of a sequence. -/
def greatestIndex : Int := 0x7fffffffffffffff

/-- One byte of a list of numbers. -/
def toByte : Value → Except Failure UInt8
  | .bool truth => .ok (if truth then 1 else 0)
  | .int number =>
    if 0 ≤ number && number < 256 then .ok (UInt8.ofNat number.toNat)
    else .error (.fault .badValue "bytes must be in range(0, 256)")
  | other => .error (.fault .badType
      ("'" ++ other.qualifiedTypeName ++ "' object cannot be interpreted as an integer"))

/-- What binary data takes beside its bytes. -/
def bufferOverhead : Int := 33

/-- The most zero bytes that are made; no memory has room for more. -/
def memoryBound : Int := 0x1000000000

/-- A count of zero bytes. -/
def zeroBytes (count : Int) : Except Failure (List UInt8) :=
  if count < -greatestIndex - 1 || greatestIndex < count then
    .error (.fault .overflow "cannot fit 'int' into an index-sized integer")
  else if count < 0 then .error (.fault .badValue "negative count")
  else if greatestIndex - bufferOverhead < count then
    .error (.fault .overflow "byte string is too large")
  else if memoryBound < count then .error (.fault .exhausted "")
  else .ok (List.replicate count.toNat 0)

/-- The bytes that a value stands for. -/
def toBytes : Value → Except Failure (List UInt8)
  | .binary _ bytes => .ok bytes
  | .text _ => .error (.fault .badType "string argument without an encoding")
  | .bool truth => zeroBytes (if truth then 1 else 0)
  | .int count => zeroBytes count
  | .list items => items.mapM toByte
  | .tuple items => items.mapM toByte
  | .dictionary entries => (entries.map Prod.fst).mapM toByte
  | other => .error (.fault .badType
      ("cannot convert '" ++ other.qualifiedTypeName ++ "' object to bytes"))

end PortableSql.Value
