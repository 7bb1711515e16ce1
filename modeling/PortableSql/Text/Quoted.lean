import PortableSql.Text.Hex
import PortableSql.Text.Printable

/-!
# Quoted text

The form in which messages show a text: between quotes, with escapes for the quote used, the
backslash and characters that are not printable. Single quotes are used unless the text holds a
single quote and no double quote.
-/

namespace PortableSql.Text

/-- The quote that needs the fewer escapes, and the single one when both need some. -/
def quoteFor (characters : List Char) : Char :=
  if characters.contains '\'' && !characters.contains '"' then '"' else '\''

/-- An escape with the code point in hexadecimal, as short as it can be. -/
def escapedCode (code : Nat) : List Char :=
  if code < 0x100 then '\\' :: 'x' :: hexDigits 2 code
  else if code < 0x10000 then '\\' :: 'u' :: hexDigits 4 code
  else '\\' :: 'U' :: hexDigits 8 code

/-- One character as it stands between the given quotes. -/
def escaped (quote character : Char) : List Char :=
  if character = quote || character = '\\' then ['\\', character]
  else if character = '\n' then ['\\', 'n']
  else if character = '\r' then ['\\', 'r']
  else if character = '\t' then ['\\', 't']
  else if isPrintable character then [character]
  else escapedCode character.toNat

/-- The text between quotes. -/
def quoted (text : String) : String :=
  let quote := quoteFor text.toList
  String.ofList (quote :: text.toList.flatMap (escaped quote) ++ [quote])

/-- The text with escapes for all but printable ASCII characters; what needs escapes for other
reasons has them already. -/
def ascii (shown : String) : String :=
  String.ofList (shown.toList.flatMap fun character =>
    if character.toNat < 0x7f then [character] else escapedCode character.toNat)

/-- One byte as it stands between the given quotes. -/
def escapedByte (quote : Char) (byte : UInt8) : List Char :=
  let character := Char.ofNat byte.toNat
  if character = quote || character = '\\' then ['\\', character]
  else if character = '\n' then ['\\', 'n']
  else if character = '\r' then ['\\', 'r']
  else if character = '\t' then ['\\', 't']
  else if 0x20 ≤ byte && byte < 0x7f then [character]
  else '\\' :: 'x' :: hexByte byte

/-- Bytes between quotes, with the letter b in front of them. -/
def quotedBytes (bytes : List UInt8) : String :=
  let quote := quoteFor (bytes.map fun byte => Char.ofNat byte.toNat)
  String.ofList ('b' :: quote :: bytes.flatMap (escapedByte quote) ++ [quote])

/-- Bytes between quotes, with a backslash before every single quote, also where the other quote is
used; a double quote has none. -/
def quotedGrowable (bytes : List UInt8) : String :=
  let quote := quoteFor (bytes.map fun byte => Char.ofNat byte.toNat)
  String.ofList ('b' :: quote :: bytes.flatMap (escapedByte '\'') ++ [quote])

end PortableSql.Text
