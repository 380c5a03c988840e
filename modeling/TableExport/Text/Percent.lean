import TableExport.Text.Utf8

/-!
Percent escapes in parts of an address. An escape stands for one byte; the
bytes of a run of ASCII characters are decoded together, with replacement
characters for what is no UTF-8. A percent sign without two hexadecimal digits
stands for itself.
-/

set_option autoImplicit false

namespace TableExport.Text.Percent

def hexValue? (character : Char) : Option Nat :=
  if character.isDigit then some (character.toNat - 48)
  else if 'a' ≤ character && character ≤ 'f' then some (character.toNat - 87)
  else if 'A' ≤ character && character ≤ 'F' then some (character.toNat - 55)
  else none

def byte? (high low : Char) : Option UInt8 := do
  let high ← hexValue? high
  let low ← hexValue? low
  pure (UInt8.ofNat (high * 16 + low))

def decodeAfter (run : List UInt8) : List Char → List Char
  | [] => Utf8.decodeLossy run.reverse
  | '%' :: high :: low :: rest =>
      match byte? high low with
      | some byte => decodeAfter (byte :: run) rest
      | none => decodeAfter (0x25 :: run) (high :: low :: rest)
  | character :: rest =>
      if character.toNat < 0x80 then
        decodeAfter (UInt8.ofNat character.toNat :: run) rest
      else Utf8.decodeLossy run.reverse ++ character :: decodeAfter [] rest

def decode (text : String) : String :=
  String.ofList (decodeAfter [] text.toList)

end TableExport.Text.Percent
