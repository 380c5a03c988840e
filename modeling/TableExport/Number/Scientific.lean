import TableExport.Number.FixedPoint

/-!
Decimal digits of a number beside a power of ten: a given count of significant
digits, or the fewest digits that read back as the same number. Both round the
exact value; of two shortest digit strings the nearer one wins.
-/

set_option autoImplicit false

namespace TableExport.Number

open TableExport.Text

/-- Significant digits as one natural number, and the power of ten of its last digit. -/
structure Scientific where
  digits : Nat
  power : Int
deriving DecidableEq, Repr

namespace Scientific

def lead (value : Scientific) : Int :=
  value.power + ((Numeral.ofNat value.digits).length : Int) - 1

/-- Raises a guess until the power of ten above it exceeds the quotient. -/
def raiseLead (numerator denominator : Nat) : Nat → Int → Int
  | 0, guess => guess
  | fuel + 1, guess =>
      let above := guess + 1
      if denominator * Nat.pow 10 above.toNat ≤ numerator * Nat.pow 10 (-above).toNat then
        raiseLead numerator denominator fuel above
      else guess

def leadOf (numerator denominator : Nat) : Int :=
  let bits : Int := (numerator.log2 : Int) - denominator.log2 - 1
  raiseLead numerator denominator 4 ((bits * 30103).fdiv 100000 - 1)

def inUnits (numerator denominator : Nat) (power : Int) : Nat × Nat :=
  (numerator * Nat.pow 10 (-power).toNat, denominator * Nat.pow 10 power.toNat)

def rounded (count numerator denominator : Nat) : Scientific :=
  let power := leadOf numerator denominator - count + 1
  let units := inUnits numerator denominator power
  let digits := roundedQuotient units.1 units.2
  if digits = Nat.pow 10 count then ⟨Nat.pow 10 (count - 1), power + 1⟩ else ⟨digits, power⟩

/-- The positive numbers that round to one mantissa and exponent, counted in quarter units. -/
structure Basin where
  lowest : Nat
  highest : Nat
  closed : Bool

def basin (mantissa : Nat) (exponent : Int) : Basin :=
  { lowest :=
      if mantissa = Binary64.leastFullMantissa && Binary64.leastExponent < exponent then
        4 * mantissa - 1
      else 4 * mantissa - 2
    highest := 4 * mantissa + 2
    closed := mantissa % 2 = 0 }

def readsBack (mantissa : Nat) (exponent : Int) (digits : Nat) (power : Int) : Bool :=
  let limits := basin mantissa exponent
  let quarter := exponent - 2
  let shown := digits * Nat.pow 10 power.toNat * Nat.pow 2 (-quarter).toNat
  let unit := Nat.pow 10 (-power).toNat * Nat.pow 2 quarter.toNat
  if limits.closed then limits.lowest * unit ≤ shown && shown ≤ limits.highest * unit
  else limits.lowest * unit < shown && shown < limits.highest * unit

/-- The nearest digits on one decimal grid that read back, if any do. -/
def onGrid? (mantissa : Nat) (exponent : Int) (power : Int) : Option Scientific :=
  let units := inUnits (Binary64.numerator mantissa exponent)
    (Binary64.denominator exponent) power
  let below := units.1 / units.2
  let nearest := roundedQuotient units.1 units.2
  let other := if nearest = below then below + 1 else below
  if readsBack mantissa exponent nearest power then some ⟨nearest, power⟩
  else if readsBack mantissa exponent other power then some ⟨other, power⟩
  else none

/-- Tries finer and finer grids, at most as many as the fuel says. -/
def firstGrid (mantissa : Nat) (exponent : Int) : Nat → Int → Scientific
  | 0, _ => rounded 17 (Binary64.numerator mantissa exponent) (Binary64.denominator exponent)
  | fuel + 1, power =>
      match onGrid? mantissa exponent power with
      | some value => value
      | none => firstGrid mantissa exponent fuel (power - 1)

def withoutZeros : Nat → Scientific → Scientific
  | 0, value => value
  | fuel + 1, value =>
      if value.digits % 10 = 0 && value.digits != 0 then
        withoutZeros fuel ⟨value.digits / 10, value.power + 1⟩
      else value

def shortest (mantissa : Nat) (exponent : Int) : Scientific :=
  let lead := leadOf (Binary64.numerator mantissa exponent) (Binary64.denominator exponent)
  withoutZeros 17 (firstGrid mantissa exponent 17 lead)

/-- Digits with the point at its place, and at least one decimal. -/
def positional (value : Scientific) : String :=
  if 0 ≤ value.power then
    Numeral.ofNat (value.digits * Nat.pow 10 value.power.toNat) ++ ".0"
  else pointed (-value.power).toNat value.digits

/-- A digit, the remaining digits behind a point, and a signed exponent of two digits or more. -/
def exponential (mark : String) (value : Scientific) : String :=
  let lead := value.lead
  let point :=
    match (Numeral.ofNat value.digits).toList with
    | [] => ""
    | [only] => String.ofList [only]
    | first :: rest => String.ofList (first :: '.' :: rest)
  point ++ mark ++ (if lead < 0 then "-" else "+") ++ Numeral.padded 2 lead.natAbs

end Scientific

/-- The fewest digits that read back; positional from 10^-4 up to 10^16. -/
def Binary64.shortest : Binary64 → String
  | .nan => "nan"
  | .infinite negative => if negative then "-inf" else "inf"
  | .finite negative mantissa exponent =>
      let magnitude :=
        if mantissa = 0 then "0.0"
        else
          let value := Scientific.shortest mantissa exponent
          if -4 ≤ value.lead && value.lead < 16 then value.positional
          else value.exponential "e"
      if negative then "-" ++ magnitude else magnitude

end TableExport.Number
