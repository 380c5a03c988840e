import TableExport.Text.Blank
import TableExport.Text.Digit

/-!
Integers as text. Reading takes the digits of every script, blank margins, one
sign and single underscores between digits; writing gives plain decimal digits.
Both refuse an integer of more than 4300 digits, so neither is the inverse of
the other without a bound on the size.
-/

set_option autoImplicit false

namespace TableExport.Text.Numeral

inductive Fault where
  | tooManyToRead (digits : Nat)
  | tooManyToWrite
deriving DecidableEq, Repr

def digitLimit : Nat := 4300

def firstUnwritable : Nat := Nat.pow 10 digitLimit

def ofNat (value : Nat) : String :=
  Nat.repr value

/-- The decimal digits of an integer, with a minus sign in front when it is negative. -/
def ofInt (value : Int) : String :=
  if value < 0 then "-" ++ ofNat value.natAbs else ofNat value.natAbs

def write (value : Int) : Except Fault String :=
  if value.natAbs < firstUnwritable then .ok (ofInt value) else .error .tooManyToWrite

def padded (width : Nat) (value : Nat) : String :=
  let digits := (ofNat value).toList
  String.ofList (List.replicate (width - digits.length) '0' ++ digits)

/-- Reads a digit string unless it is too long; leading zeros count. -/
def readDigits (digits : List Nat) : Except Fault Nat :=
  if digits.length ≤ digitLimit then .ok (digitsValue digits)
  else .error (.tooManyToRead digits.length)

def asciiForm (character : Char) : Char :=
  if character.toNat < 127 then character
  else if isBlank character then ' '
  else
    match digitValue? character with
    | some value => Char.ofNat (48 + value)
    | none => '?'

def isMargin (character : Char) : Bool :=
  [' ', '\t', '\n', '\u000b', '\u000c', '\r'].contains character

def asciiDigit? (character : Char) : Option Nat :=
  if character.isDigit then some (character.toNat - 48) else none

/-- Reads the digits that follow a first digit, each with at most one underscore before it. -/
def moreDigits? : List Char → Option (List Nat)
  | [] => some []
  | '_' :: character :: rest => do
      let digit ← asciiDigit? character
      let digits ← moreDigits? rest
      pure (digit :: digits)
  | character :: rest => do
      let digit ← asciiDigit? character
      let digits ← moreDigits? rest
      pure (digit :: digits)

/-- Reads a whole text as digits with single underscores between them. -/
def groupedDigits? : List Char → Option (List Nat)
  | [] => none
  | character :: rest => do
      let digit ← asciiDigit? character
      let digits ← moreDigits? rest
      pure (digit :: digits)

/-- Reads a natural number from grouped digits, when it is not too long. -/
def readNat? (text : List Char) : Option Nat := do
  let digits ← groupedDigits? text
  if digits.length ≤ digitLimit then some (digitsValue digits) else none

def readInt? (text : String) : Option Int :=
  let form := dropTrailing isMargin ((text.toList.map asciiForm).dropWhile isMargin)
  match form with
  | '-' :: digits => (readNat? digits).map fun value => -(value : Int)
  | '+' :: digits => (readNat? digits).map fun value => (value : Int)
  | digits => (readNat? digits).map fun value => (value : Int)

def Fault.message : Fault → String
  | .tooManyToRead digits =>
      "Exceeds the limit (4300 digits) for integer string conversion: value has " ++
        ofNat digits ++ " digits; use sys.set_int_max_str_digits() to increase the limit"
  | .tooManyToWrite =>
      "Exceeds the limit (4300 digits) for integer string conversion; " ++
        "use sys.set_int_max_str_digits() to increase the limit"

end TableExport.Text.Numeral
