import PortableSql.Text.Digit

/-!
# Hexadecimal text

Bytes are written as two small hexadecimal digits each and code points as a fixed number of
them. Reading accepts both cases of letters and white space between bytes, and refuses a lone digit.
-/

namespace PortableSql.Text

/-- The small hexadecimal digit of a number below sixteen. -/
def hexDigit (number : Nat) : Char :=
  if number < 10 then Char.ofNat (48 + number) else Char.ofNat (87 + number)

/-- The value of a hexadecimal digit. -/
def hexValue? (character : Char) : Option Nat :=
  if '0' ≤ character && character ≤ '9' then some (character.toNat - 48)
  else if 'a' ≤ character && character ≤ 'f' then some (character.toNat - 87)
  else if 'A' ≤ character && character ≤ 'F' then some (character.toNat - 55)
  else none

/-- The last `width` hexadecimal digits of a number. -/
def hexDigits : Nat → Nat → List Char
  | 0, _ => []
  | width + 1, number => hexDigits width (number / 16) ++ [hexDigit (number % 16)]

/-- Two hexadecimal digits for one byte. -/
def hexByte (byte : UInt8) : List Char :=
  [hexDigit (byte.toNat / 16), hexDigit (byte.toNat % 16)]

/-- Two hexadecimal digits per byte. -/
def hexBytes (bytes : List UInt8) : String := String.ofList (bytes.flatMap hexByte)

/-- White space that may stand between bytes. -/
def isGap (character : Char) : Bool :=
  character = ' ' || (0x9 ≤ character.toNat && character.toNat ≤ 0xd)

/-- Reads two hexadecimal digits per byte, from a position on. What stands where a digit should be
is refused, with its position. -/
def readHexBytes (position : Nat) : List Char → Except Nat (List UInt8)
  | [] => .ok []
  | [single] =>
    if isGap single then .ok []
    else if (hexValue? single).isSome then .error (position + 1) else .error position
  | high :: low :: rest =>
    if isGap high then readHexBytes (position + 1) (low :: rest)
    else match hexValue? high, hexValue? low with
      | none, _ => .error position
      | some _, none => .error (position + 1)
      | some first, some second =>
        (readHexBytes (position + 2) rest).map (UInt8.ofNat (first * 16 + second) :: ·)

/-- Reads two hexadecimal digits per byte. The first character that is none of the ordinary ones is
refused before any other. -/
def readHexText (text : String) : Except Nat (List UInt8) :=
  match text.toList.findIdx? fun character => 0x80 ≤ character.toNat with
  | some position => .error position
  | none => readHexBytes 0 text.toList

/-- A digit is read as the number that it was written for. -/
theorem hexValue?_hexDigit {number : Nat} (small : number < 16) :
    hexValue? (hexDigit number) = some number := by
  revert number
  decide

/-- A digit is no gap. -/
theorem isGap_hexDigit {number : Nat} (small : number < 16) : isGap (hexDigit number) = false := by
  revert number
  decide

/-- Bytes are read back from their digits. -/
theorem readHexBytes_flatMap_hexByte (position : Nat) (bytes : List UInt8) :
    readHexBytes position (bytes.flatMap hexByte) = .ok bytes := by
  induction bytes generalizing position with
  | nil => rfl
  | cons byte rest inductionHypothesis =>
    have bound : byte.toNat < 256 := byte.toNat_lt
    have high := hexValue?_hexDigit (show byte.toNat / 16 < 16 by omega)
    have low := hexValue?_hexDigit (show byte.toNat % 16 < 16 by omega)
    have noGap := isGap_hexDigit (show byte.toNat / 16 < 16 by omega)
    have whole : UInt8.ofNat (byte.toNat / 16 * 16 + byte.toNat % 16) = byte := by
      rw [show byte.toNat / 16 * 16 + byte.toNat % 16 = byte.toNat by omega, UInt8.ofNat_toNat]
    simp [hexByte, readHexBytes, high, low, noGap, inductionHypothesis, Except.map, whole]

/-- The values of hexadecimal digits with single underscores between them; `separated` says that an
underscore may come next. -/
def hexValues? (separated : Bool) : List Char → Option (List Nat)
  | [] => if separated then some [] else none
  | character :: rest =>
    match hexValue? character with
    | some value => (hexValues? true rest).map (value :: ·)
    | none => if character = '_' && separated then hexValues? false rest else none

/-- Reads unsigned hexadecimal digits, which may begin with a zero and an X and then with an
underscore. -/
def readHexDigits? (characters : List Char) : Option Nat :=
  let values := match characters with
    | '0' :: 'x' :: '_' :: rest | '0' :: 'X' :: '_' :: rest => hexValues? false rest
    | '0' :: 'x' :: rest | '0' :: 'X' :: rest => hexValues? false rest
    | rest => hexValues? false rest
  values.map fun digits => digits.foldl (fun number digit => number * 16 + digit) 0

/-- Reads a hexadecimal number with an optional sign, ignoring white space around it. -/
def readHexInteger? (characters : List Char) : Option Int :=
  let (negative, digits) := splitSign (ordinaryDigits (trimPadding characters))
  (readHexDigits? digits).map fun number => if negative then -(number : Int) else number

end PortableSql.Text
