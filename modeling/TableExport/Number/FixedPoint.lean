import TableExport.Text.Numeral
import TableExport.Number.Binary64

/-!
Numbers written with a fixed count of decimals. The exact value is rounded, and
a tie goes to the even neighbour, so one decimal of 0.25 is 0.2.
-/

set_option autoImplicit false

namespace TableExport.Number

open TableExport.Text

def pointed (places scaled : Nat) : String :=
  if places = 0 then Numeral.ofNat scaled
  else
    Numeral.ofNat (scaled / Nat.pow 10 places) ++ "." ++
      Numeral.padded places (scaled % Nat.pow 10 places)

def Binary64.magnitudeFixed (places : Nat) : Binary64 → String
  | .nan => "nan"
  | .infinite _ => "inf"
  | .finite _ mantissa exponent =>
      pointed places (roundedQuotient (numerator mantissa exponent * Nat.pow 10 places)
        (denominator exponent))

def Binary64.isNegative : Binary64 → Bool
  | .nan => false
  | .infinite negative => negative
  | .finite negative _ _ => negative

/-- The number with a fixed count of decimals; zero keeps its sign. -/
def Binary64.fixed (places : Nat) (value : Binary64) : String :=
  if value.isNegative then "-" ++ value.magnitudeFixed places
  else value.magnitudeFixed places

end TableExport.Number
