import TableExport.Number.Rounding

/-!
Binary floating-point numbers of 53 bits with exact arithmetic underneath. A
finite number is a signed natural number times a power of two; every operation
takes the exact result and rounds it once, to nearest with ties to even.
-/

set_option autoImplicit false

namespace TableExport.Number

inductive Binary64 where
  | nan
  | infinite (negative : Bool)
  | finite (negative : Bool) (mantissa : Nat) (exponent : Int)
deriving DecidableEq, Repr

namespace Binary64

inductive Fault where
  | integerTooLarge
  | quotientTooLarge
  | infiniteToInteger
  | nanToInteger
deriving DecidableEq, Repr

def Fault.message : Fault → String
  | .integerTooLarge => "int too large to convert to float"
  | .quotientTooLarge => "integer division result too large for a float"
  | .infiniteToInteger => "cannot convert float infinity to integer"
  | .nanToInteger => "cannot convert float NaN to integer"

def leastExponent : Int := -1074

def greatestExponent : Int := 971

def leastFullMantissa : Nat := 4503599627370496

def scaledNumerator (numerator : Nat) (exponent : Int) : Nat :=
  numerator * Nat.pow 2 (-exponent).toNat

def scaledDenominator (denominator : Nat) (exponent : Int) : Nat :=
  denominator * Nat.pow 2 exponent.toNat

/-- The exponent at which a positive quotient has 53 bits, or the least one. -/
def exponentOf (numerator denominator : Nat) : Int :=
  let guess : Int := (numerator.log2 : Int) - denominator.log2 - 52
  let fits := leastFullMantissa ≤
    scaledNumerator numerator guess / scaledDenominator denominator guess
  max leastExponent (if fits then guess else guess - 1)

/-- The number nearest to a quotient of natural numbers, with the given sign. -/
def ofRatio (negative : Bool) (numerator denominator : Nat) : Binary64 :=
  if numerator = 0 then .finite negative 0 leastExponent
  else
    let exponent := exponentOf numerator denominator
    let mantissa := roundedQuotient (scaledNumerator numerator exponent)
      (scaledDenominator denominator exponent)
    let carried := mantissa = 2 * leastFullMantissa
    let mantissa := if carried then leastFullMantissa else mantissa
    let exponent := if carried then exponent + 1 else exponent
    if greatestExponent < exponent then .infinite negative
    else .finite negative mantissa exponent

def zero : Binary64 := .finite false 0 leastExponent

def isInfinite : Binary64 → Bool
  | .infinite _ => true
  | _ => false

def ofInt (value : Int) : Except Fault Binary64 :=
  let nearest := ofRatio (value < 0) value.natAbs 1
  if nearest.isInfinite then .error .integerTooLarge else .ok nearest

def ofQuotient (dividend : Int) (divisor : Nat) : Except Fault Binary64 :=
  let nearest := ofRatio (dividend < 0) dividend.natAbs divisor
  if nearest.isInfinite then .error .quotientTooLarge else .ok nearest

def numerator (mantissa : Nat) (exponent : Int) : Nat :=
  mantissa * Nat.pow 2 exponent.toNat

def denominator (exponent : Int) : Nat :=
  Nat.pow 2 (-exponent).toNat

def signedNumerator (negative : Bool) (mantissa : Nat) (exponent : Int) : Int :=
  if negative then -(numerator mantissa exponent : Int) else numerator mantissa exponent

/-- Whether one number is below another; nothing compares with the number that is none. -/
def less : Binary64 → Binary64 → Bool
  | .nan, _ => false
  | _, .nan => false
  | .infinite first, .infinite second => first && !second
  | .infinite negative, .finite .. => negative
  | .finite .., .infinite negative => !negative
  | .finite firstSign first firstExponent, .finite secondSign second secondExponent =>
      signedNumerator firstSign first firstExponent * denominator secondExponent <
        signedNumerator secondSign second secondExponent * denominator firstExponent

def isAbove (value : Binary64) (bound : Int) : Bool :=
  match value with
  | .nan => false
  | .infinite negative => !negative
  | .finite negative mantissa exponent =>
      bound * denominator exponent < signedNumerator negative mantissa exponent

def isBelow (value : Binary64) (bound : Int) : Bool :=
  match value with
  | .nan => false
  | .infinite negative => negative
  | .finite negative mantissa exponent =>
      signedNumerator negative mantissa exponent < bound * denominator exponent

def add : Binary64 → Binary64 → Binary64
  | .nan, _ => .nan
  | _, .nan => .nan
  | .infinite first, .infinite second => if first = second then .infinite first else .nan
  | .infinite negative, .finite .. => .infinite negative
  | .finite .., .infinite negative => .infinite negative
  | .finite firstSign first firstExponent, .finite secondSign second secondExponent =>
      let sum :=
        signedNumerator firstSign first firstExponent * denominator secondExponent +
          signedNumerator secondSign second secondExponent * denominator firstExponent
      if sum = 0 then .finite (firstSign && secondSign) 0 leastExponent
      else
        ofRatio (sum < 0) sum.natAbs (denominator firstExponent * denominator secondExponent)

def divide : Binary64 → Binary64 → Binary64
  | .nan, _ => .nan
  | _, .nan => .nan
  | .infinite _, .infinite _ => .nan
  | .infinite first, .finite second _ _ => .infinite (first != second)
  | .finite first _ _, .infinite second => .finite (first != second) 0 leastExponent
  | .finite firstSign first firstExponent, .finite secondSign second secondExponent =>
      if second = 0 then
        if first = 0 then .nan else .infinite (firstSign != secondSign)
      else
        ofRatio (firstSign != secondSign)
          (numerator first firstExponent * denominator secondExponent)
          (denominator firstExponent * numerator second secondExponent)

def double : Binary64 → Binary64
  | .finite negative mantissa exponent =>
      ofRatio negative (2 * numerator mantissa exponent) (denominator exponent)
  | other => other

def ofNat (value : Nat) : Binary64 :=
  ofRatio false value 1

def toIntegerBy (rounding : Int → Int → Int) : Binary64 → Except Fault Int
  | .nan => .error .nanToInteger
  | .infinite _ => .error .infiniteToInteger
  | .finite negative mantissa exponent =>
      .ok (rounding (signedNumerator negative mantissa exponent) (denominator exponent))

def truncate : Binary64 → Except Fault Int :=
  toIntegerBy Int.tdiv

def quotientUp (dividend divisor : Int) : Int :=
  -((-dividend).fdiv divisor)

end Binary64

end TableExport.Number
