import TableExport.Number.Decimal

/-!
Order, sums and quotients of decimal numbers. Comparison is exact. A sum or a
quotient is the exact result rounded once, to 28 digits with ties to even, and
never below the least power; a result beyond the greatest exponent is refused.
What is no number takes part in no comparison, and passes through the rest.
-/

set_option autoImplicit false

namespace TableExport.Number.Decimal

open TableExport.Text

def precision : Nat := 28

def greatestLead : Int := 999999

def leastPower : Int := -1000026

/-- Digits counted in units of another power of ten, to nearest with ties to even. -/
def rescaled (digits : Nat) (power target : Int) : Nat :=
  if digits = 0 then 0
  else if target ≤ power then digits * Nat.pow 10 (power - target).toNat
  else if leadOf digits power + 1 < target then 0
  else roundedQuotient digits (Nat.pow 10 (target - power).toNat)

def fitted (negative : Bool) (digits : Nat) (power : Int) : Except Fault Decimal :=
  if digits = 0 then .ok (.finite negative 0 (max leastPower (min greatestLead power)))
  else
    let lead := leadOf digits power
    let unit := max power (max (lead - precision + 1) leastPower)
    let rounded := rescaled digits power unit
    let carried := rounded = Nat.pow 10 precision
    let digits := if carried then Nat.pow 10 (precision - 1) else rounded
    let power := if carried then unit + 1 else unit
    if greatestLead < lead || greatestLead < leadOf digits power then .error .overflow
    else .ok (.finite negative digits power)

def ofInt (value : Int) : Decimal :=
  .finite (value < 0) value.natAbs 0

def ofBinary64 : Binary64 → Decimal
  | .nan => .nan false false 0
  | .infinite negative => .infinite negative
  | .finite negative mantissa exponent =>
      if 0 ≤ exponent then .finite negative (Binary64.numerator mantissa exponent) 0
      else .finite negative (mantissa * Nat.pow 5 (-exponent).toNat) exponent

def lessMagnitude (first : Nat) (firstPower : Int) (second : Nat) (secondPower : Int) :
    Bool :=
  if second = 0 then false
  else if first = 0 then true
  else
    let firstLead := leadOf first firstPower
    let secondLead := leadOf second secondPower
    if firstLead = secondLead then
      let unit := min firstPower secondPower
      rescaled first firstPower unit < rescaled second secondPower unit
    else firstLead < secondLead

def less : Decimal → Decimal → Except Fault Bool
  | .nan .., _ => .error .invalid
  | _, .nan .. => .error .invalid
  | .infinite first, .infinite second => .ok (first && !second)
  | .infinite negative, .finite .. => .ok negative
  | .finite .., .infinite negative => .ok !negative
  | .finite firstSign first firstPower, .finite secondSign second secondPower =>
      let firstBelow := firstSign && first != 0
      let secondBelow := secondSign && second != 0
      .ok
        (if firstBelow != secondBelow then firstBelow
        else if firstBelow then lessMagnitude second secondPower first firstPower
        else lessMagnitude first firstPower second secondPower)

/-- What an operation gives when an operand is no number; a signaling one is refused. -/
def ofNan (negative signaling : Bool) (payload : Nat) : Except Fault Decimal :=
  if signaling then .error .invalid
  else .ok (.nan negative false (payload % Nat.pow 10 precision))

/-- A place below every digit that decides how a sum beside a number is rounded. -/
def floorBeside (digits : Nat) (power : Int) : Int :=
  min power (leadOf digits power - precision - 2)

/-- A magnitude brought near a floor: what lies wholly below the floor becomes one unit
below it, so that no sum is written out further than its rounding needs. -/
def raised (floor : Int) (digits : Nat) (power : Int) : Nat × Int :=
  if digits = 0 then (0, max power floor)
  else if leadOf digits power < floor then (1, floor - 1)
  else (digits, power)

def beside (other : Nat) (otherPower : Int) (digits : Nat) (power : Int) : Nat × Int :=
  if other = 0 then (digits, power) else raised (floorBeside other otherPower) digits power

def signed (negative : Bool) (digits : Nat) : Int :=
  if negative then -(digits : Int) else digits

def addFinite (firstSign : Bool) (first : Nat) (firstPower : Int) (secondSign : Bool)
    (second : Nat) (secondPower : Int) : Except Fault Decimal :=
  let (left, leftPower) := beside second secondPower first firstPower
  let (right, rightPower) := beside first firstPower second secondPower
  let unit := min leftPower rightPower
  let sum := signed firstSign (rescaled left leftPower unit) +
    signed secondSign (rescaled right rightPower unit)
  fitted (sum < 0 || (sum = 0 && firstSign && secondSign)) sum.natAbs unit

def add : Decimal → Decimal → Except Fault Decimal
  | .nan firstSign signaling payload, .nan _ other _ =>
      ofNan firstSign (signaling || other) payload
  | .nan negative signaling payload, _ => ofNan negative signaling payload
  | _, .nan negative signaling payload => ofNan negative signaling payload
  | .infinite first, .infinite second =>
      if first = second then .ok (.infinite first) else .error .invalid
  | .infinite negative, .finite .. => .ok (.infinite negative)
  | .finite .., .infinite negative => .ok (.infinite negative)
  | .finite firstSign first firstPower, .finite secondSign second secondPower =>
      addFinite firstSign first firstPower secondSign second secondPower

/-- Removes zeros at the end until a power is reached, at most as many as the fuel says. -/
def trimmed (target : Int) : Nat → Nat → Int → Nat × Int
  | 0, digits, power => (digits, power)
  | fuel + 1, digits, power =>
      if power < target && digits % 10 = 0 then trimmed target fuel (digits / 10) (power + 1)
      else (digits, power)

/-- The quotient of two finite numbers. An exact quotient keeps the difference of the powers
as far as its digits allow. -/
def divideFinite (negative : Bool) (first : Nat) (firstPower : Int) (second : Nat)
    (secondPower : Int) : Except Fault Decimal :=
  let ideal := firstPower - secondPower
  if second = 0 then .error .divisionByZero
  else if first = 0 then fitted negative 0 ideal
  else
    let shift := digitCount second - digitCount first + precision + 1
    let dividend := first * Nat.pow 10 shift.toNat
    let divisor := second * Nat.pow 10 (-shift).toNat
    let quotient := dividend / divisor
    if dividend % divisor = 0 then
      let (digits, power) := trimmed ideal (shift.toNat + 1) quotient (ideal - shift)
      fitted negative digits power
    else
      fitted negative (if quotient % 5 = 0 then quotient + 1 else quotient) (ideal - shift)

def divide : Decimal → Decimal → Except Fault Decimal
  | .nan firstSign signaling payload, .nan _ other _ =>
      ofNan firstSign (signaling || other) payload
  | .nan negative signaling payload, _ => ofNan negative signaling payload
  | _, .nan negative signaling payload => ofNan negative signaling payload
  | .infinite _, .infinite _ => .error .invalid
  | .infinite first, .finite second _ _ => .ok (.infinite (first != second))
  | .finite first _ _, .infinite second => .ok (.finite (first != second) 0 leastPower)
  | .finite firstSign first firstPower, .finite secondSign second secondPower =>
      divideFinite (firstSign != secondSign) first firstPower second secondPower

def magnitudeFixed (places digits : Nat) (power : Int) : String :=
  if digits = 0 || power < 0 then pointed places (rescaled digits power (-places))
  else
    Numeral.ofNat digits ++ String.ofList (List.replicate power.toNat '0') ++
      (if places = 0 then "" else "." ++ String.ofList (List.replicate places '0'))

def fixed (places : Nat) : Decimal → Except Fault String
  | .finite negative digits power =>
      if isTooLong (.finite negative digits power) then .error .tooLong
      else .ok ((if negative then "-" else "") ++ magnitudeFixed places digits power)
  | special => .ok special.display

end TableExport.Number.Decimal
