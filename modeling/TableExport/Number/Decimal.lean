import TableExport.Number.Scientific

/-!
Decimal numbers as a database holds them: digits with a power of ten, kept as
given, so that 1.50 and 1.5 differ in display and not in value. The same text
form also reads binary numbers.
-/

set_option autoImplicit false

namespace TableExport.Number

open TableExport.Text

inductive Decimal where
  | nan (negative signaling : Bool) (payload : Nat)
  | infinite (negative : Bool)
  | finite (negative : Bool) (digits : Nat) (power : Int)
deriving DecidableEq, Repr

namespace Decimal

structure Parts where
  whole : List Nat
  decimals : List Nat
  exponent : Int

def spanDigits (text : List Char) : List Char × List Char :=
  text.span fun character => character.isDigit || character == '_'

def optionalDigits? (text : List Char) : Option (List Nat) :=
  if text.isEmpty then some [] else Numeral.groupedDigits? text

/-- Reads a signed exponent behind its mark, zero when there is no text left. -/
def exponent? : List Char → Option Int
  | [] => some 0
  | mark :: rest =>
      if mark == 'e' || mark == 'E' then
        match rest with
        | '-' :: digits =>
            (Numeral.groupedDigits? digits).map fun digits => -(digitsValue digits : Int)
        | '+' :: digits =>
            (Numeral.groupedDigits? digits).map fun digits => (digitsValue digits : Int)
        | digits =>
            (Numeral.groupedDigits? digits).map fun digits => (digitsValue digits : Int)
      else none

def parts? (text : List Char) : Option Parts := do
  let (whole, rest) := spanDigits text
  let (decimals, rest) :=
    match rest with
    | '.' :: rest => spanDigits rest
    | rest => ([], rest)
  let whole ← optionalDigits? whole
  let decimals ← optionalDigits? decimals
  let exponent ← exponent? rest
  if whole.isEmpty && decimals.isEmpty then none
  else some ⟨whole, decimals, exponent⟩

def ofParts (negative : Bool) (parts : Parts) : Decimal :=
  .finite negative (digitsValue (parts.whole ++ parts.decimals))
    (parts.exponent - parts.decimals.length)

/-- A word without regard to case at the start of a text; gives what follows it. -/
def afterWord? : List Char → List Char → Option (List Char)
  | [], text => some text
  | _, [] => none
  | letter :: word, character :: rest =>
      if character.toLower = letter then afterWord? word rest else none

def isWord (word text : List Char) : Bool :=
  afterWord? word text == some []

def isInfinityWord (text : List Char) : Bool :=
  isWord "inf".toList text || isWord "infinity".toList text

/-- Reads the digits behind a word for no number; they tell such words apart. -/
def payload? (word text : List Char) : Option Nat :=
  match afterWord? word text with
  | none => none
  | some digits => if digits.all Char.isDigit then some (digitsValue (digits.map digit)) else none
where
  digit (character : Char) : Nat := character.toNat - 48

def readUnsigned? (negative : Bool) (text : List Char) : Option Decimal :=
  if isInfinityWord text then some (.infinite negative)
  else
    match payload? "nan".toList text, payload? "snan".toList text with
    | some payload, _ => some (.nan negative false payload)
    | none, some payload => some (.nan negative true payload)
    | none, none => (parts? text).map (ofParts negative)

/-- Splits a sign off the front of a text; a minus sign is told apart. -/
def splitSign : List Char → Bool × List Char
  | '-' :: rest => (true, rest)
  | '+' :: rest => (false, rest)
  | rest => (false, rest)

/-- A text without blank margins and with ASCII forms only. -/
def normalForm (text : String) : List Char :=
  strip (text.toList.map Numeral.asciiForm)

def digitCount (value : Nat) : Int :=
  ((Numeral.ofNat value).length : Int)

def leadOf (digits : Nat) (power : Int) : Int :=
  power + digitCount digits - 1

/-- The display of a number: positional unless its power is positive or it is tiny. -/
def display : Decimal → String
  | .nan negative signaling payload =>
      (if negative then "-" else "") ++ (if signaling then "sNaN" else "NaN") ++
        (if payload = 0 then "" else Numeral.ofNat payload)
  | .infinite negative => if negative then "-Infinity" else "Infinity"
  | .finite negative digits power =>
      let lead := leadOf digits power
      let magnitude :=
        if power ≤ 0 && -6 ≤ lead then pointed (-power).toNat digits
        else
          let point :=
            match (Numeral.ofNat digits).toList with
            | [] => ""
            | [only] => String.ofList [only]
            | first :: rest => String.ofList (first :: '.' :: rest)
          point ++ "E" ++ (if lead < 0 then "-" else "+") ++ Numeral.ofNat lead.natAbs
      if negative then "-" ++ magnitude else magnitude

/-- The binary number nearest to a decimal number. Beyond the range of binary numbers
the powers of ten are not computed. -/
def toBinary64 : Decimal → Binary64
  | .nan .. => .nan
  | .infinite negative => .infinite negative
  | .finite negative digits power =>
      let lead := leadOf digits power
      if digits = 0 then .finite negative 0 Binary64.leastExponent
      else if 310 < lead then .infinite negative
      else if lead < -330 then .finite negative 0 Binary64.leastExponent
      else Binary64.ofRatio negative (digits * Nat.pow 10 power.toNat) (Nat.pow 10 (-power).toNat)

inductive Fault where
  | notNumber
  | invalid
  | overflow
  | divisionByZero
  | nanToInteger
  | infiniteToInteger
  | signalingToReal
  | tooLong
deriving DecidableEq, Repr

/-- The wording of a fault; a number that is too long to be written out is refused without
a word. -/
def Fault.message : Fault → String
  | .notNumber => "[<class 'decimal.ConversionSyntax'>]"
  | .invalid => "[<class 'decimal.InvalidOperation'>]"
  | .overflow => "[<class 'decimal.Overflow'>]"
  | .divisionByZero => "[<class 'decimal.DivisionByZero'>]"
  | .nanToInteger => "cannot convert NaN to integer"
  | .infiniteToInteger => "cannot convert Infinity to integer"
  | .signalingToReal => "cannot convert signaling NaN to float"
  | .tooLong => ""

def greatestHeldLead : Int := 999999999999999999

def leastHeldPower : Int := -1999999999999999997

def isInRange : Decimal → Bool
  | .finite _ digits power => leastHeldPower ≤ power && leadOf digits power ≤ greatestHeldLead
  | _ => true

/-- Reads a decimal number with an optional sign and blank margins; underscores are passed
over wherever they stand. -/
def read (text : String) : Except Fault Decimal :=
  let (negative, rest) := splitSign ((normalForm text).filter (· != '_'))
  match readUnsigned? negative rest with
  | none => .error .notNumber
  | some value => if value.isInRange then .ok value else .error .invalid

/-- Most digits that a number may have when it is written out without an exponent. -/
def lengthLimit : Int := 100000000

/-- Whether a number is too long to be written out without an exponent. -/
def isTooLong : Decimal → Bool
  | .finite _ digits power => digits != 0 && lengthLimit < power
  | _ => false

/-- Applies an integer rounding of quotients, which must treat all numbers between zero and
one alike: of those only the sign is looked at. -/
def toIntegerBy (rounding : Int → Int → Int) : Decimal → Except Fault Int
  | .nan .. => .error .nanToInteger
  | .infinite _ => .error .infiniteToInteger
  | .finite negative digits power =>
      if digits = 0 then .ok 0
      else if leadOf digits power < 0 then .ok (rounding (if negative then -1 else 1) 10)
      else if lengthLimit < power then .error .tooLong
      else
        let magnitude : Int := (digits * Nat.pow 10 power.toNat : Nat)
        .ok (rounding (if negative then -magnitude else magnitude)
          ((Nat.pow 10 (-power).toNat : Nat) : Int))

end Decimal

/-- Reads a binary number from decimal text, where single underscores may stand between
digits. -/
def Binary64.read? (text : String) : Option Binary64 :=
  let (negative, rest) := Decimal.splitSign (Decimal.normalForm text)
  if Decimal.isInfinityWord rest then some (.infinite negative)
  else if Decimal.isWord "nan".toList rest then some .nan
  else (Decimal.parts? rest).map fun parts => (Decimal.ofParts negative parts).toBinary64

end TableExport.Number
