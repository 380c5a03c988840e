import TableExport.Text.Printable

/-!
Quoted display of text and of bytes. A single quote delimits, unless the text
holds a single quote and no double quote. Backslash, the delimiter, controls and
every character that cannot be shown are escaped, so the display is one line.
-/

set_option autoImplicit false

namespace TableExport.Text

def hexDigit (value : Nat) : Char :=
  if value < 10 then Char.ofNat (48 + value) else Char.ofNat (87 + value)

def hexDigits : Nat → Nat → List Char
  | 0, _ => []
  | count + 1, value => hexDigits count (value / 16) ++ [hexDigit (value % 16)]

/-- The double quote delimits only where it saves an escape. -/
def delimiter (text : List Char) : Char :=
  if text.contains '\'' && !text.contains '"' then '"' else '\''

def escaped (quote character : Char) : List Char :=
  if character == quote || character == '\\' then ['\\', character]
  else if character == '\t' then ['\\', 't']
  else if character == '\n' then ['\\', 'n']
  else if character == '\r' then ['\\', 'r']
  else if isPrintable character then [character]
  else if character.toNat < 0x100 then '\\' :: 'x' :: hexDigits 2 character.toNat
  else if character.toNat < 0x10000 then '\\' :: 'u' :: hexDigits 4 character.toNat
  else '\\' :: 'U' :: hexDigits 8 character.toNat

def quoted (text : String) : String :=
  let characters := text.toList
  let quote := delimiter characters
  String.ofList (quote :: characters.flatMap (escaped quote) ++ [quote])

def escapedByte (quote : Char) (byte : UInt8) : List Char :=
  let character := Char.ofNat byte.toNat
  if character == quote || character == '\\' then ['\\', character]
  else if character == '\t' then ['\\', 't']
  else if character == '\n' then ['\\', 'n']
  else if character == '\r' then ['\\', 'r']
  else if 0x20 ≤ byte.toNat && byte.toNat < 0x7f then [character]
  else '\\' :: 'x' :: hexDigits 2 byte.toNat

def quotedBytes (bytes : List UInt8) : String :=
  let quote := delimiter (bytes.map fun byte => Char.ofNat byte.toNat)
  String.ofList ('b' :: quote :: bytes.flatMap (escapedByte quote) ++ [quote])

end TableExport.Text
