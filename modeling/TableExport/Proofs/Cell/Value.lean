import Mathlib.Algebra.Order.Field.Power
import Mathlib.Data.Rat.Floor
import Mathlib.Tactic.Linarith
import TableExport.Cell

/-!
The exact number that a cell holds, as a rational. A cell that holds one rounds
to the integers around that number; decimals below one are rounded by their sign
alone, which comes to the same. Nothing is said about cells whose integers are
refused for their length.
-/

set_option autoImplicit false

namespace TableExport

open TableExport.Number

namespace Number

def withSign (negative : Bool) (magnitude : ℚ) : ℚ :=
  if negative then -magnitude else magnitude

def Binary64.number? : Binary64 → Option ℚ
  | .finite negative mantissa exponent => some (withSign negative (mantissa * 2 ^ exponent))
  | _ => none

def Decimal.number? : Decimal → Option ℚ
  | .finite negative digits power => some (withSign negative (digits * 10 ^ power))
  | _ => none

end Number

/-- The exact number that a cell holds; null holds none. -/
def Cell.number? : Cell → Option ℚ
  | .boolean value => some (if value then 1 else 0)
  | .integer value => some value
  | .real value => value.number?
  | .decimal value => value.number?
  | _ => none

namespace Number

private theorem zpow_eq_div {base : ℚ} (nonzero : base ≠ 0) (exponent : Int) :
    base ^ exponent = base ^ exponent.toNat / base ^ (-exponent).toNat := by
  have parts : exponent = (exponent.toNat : Int) - ((-exponent).toNat : Int) := by omega
  conv_lhs => rw [parts]
  rw [zpow_sub₀ nonzero, zpow_natCast, zpow_natCast]

theorem mul_zpow_eq_div (size : Nat) {base : Nat} (nonzero : (base : ℚ) ≠ 0)
    (exponent : Int) :
    (size : ℚ) * (base : ℚ) ^ exponent =
      ((size * Nat.pow base exponent.toNat : Nat) : ℚ) /
        ((Nat.pow base (-exponent).toNat : Nat) : ℚ) := by
  rw [zpow_eq_div nonzero, Nat.pow_eq, Nat.pow_eq]
  push_cast
  exact (mul_div_assoc _ _ _).symm

private theorem withSign_div (negative : Bool) (numerator denominator : ℚ) :
    withSign negative (numerator / denominator) = withSign negative numerator / denominator := by
  cases negative with
  | false => rfl
  | true => exact (neg_div denominator numerator).symm

private theorem withSign_natCast (negative : Bool) (magnitude : Nat) :
    withSign negative magnitude =
      ((if negative then -(magnitude : Int) else magnitude : Int) : ℚ) := by
  cases negative with
  | false => exact (Int.cast_natCast magnitude).symm
  | true =>
      change -(magnitude : ℚ) = ((-(magnitude : Int) : Int) : ℚ)
      rw [Int.cast_neg, Int.cast_natCast]

structure IsRounding (rounding : Int → Int → Int) (exact : ℚ → Int) : Prop where
  integer : ∀ value : Int, exact value = value
  quotient : ∀ (dividend : Int) (divisor : Nat),
    rounding dividend divisor = exact (dividend / divisor)
  small : ∀ value : ℚ, 0 < value → value < 1 → rounding 1 10 = exact value
  smallNegative : ∀ value : ℚ, 0 < value → value < 1 → rounding (-1) 10 = exact (-value)

theorem isRounding_fdiv : IsRounding Int.fdiv Int.floor where
  integer := Int.floor_intCast
  quotient := by
    intro dividend divisor
    rw [Int.fdiv_eq_ediv_of_nonneg _ (Int.natCast_nonneg divisor),
      Rat.floor_intCast_div_natCast]
  small := by
    intro value positive below
    exact (Int.floor_eq_zero_iff.mpr ⟨le_of_lt positive, below⟩).symm
  smallNegative := by
    intro value positive below
    have outcome : Int.fdiv (-1) 10 = -1 := by decide
    rw [outcome]
    refine (Int.floor_eq_iff.mpr ⟨?_, ?_⟩).symm
    · push_cast
      linarith
    · push_cast
      linarith

theorem isRounding_quotientUp : IsRounding Binary64.quotientUp Int.ceil where
  integer := Int.ceil_intCast
  quotient := by
    intro dividend divisor
    rw [Binary64.quotientUp, Int.fdiv_eq_ediv_of_nonneg _ (Int.natCast_nonneg divisor),
      Rat.ceil_intCast_div_natCast]
  small := by
    intro value positive below
    have outcome : Binary64.quotientUp 1 10 = 1 := by decide
    rw [outcome]
    refine (Int.ceil_eq_iff.mpr ⟨?_, ?_⟩).symm
    · push_cast
      linarith
    · push_cast
      linarith
  smallNegative := by
    intro value positive below
    have outcome : Binary64.quotientUp (-1) 10 = 0 := by decide
    rw [outcome]
    refine (Int.ceil_eq_iff.mpr ⟨?_, ?_⟩).symm
    · push_cast
      linarith
    · push_cast
      linarith

variable {rounding : Int → Int → Int} {exact : ℚ → Int}

private theorem Binary64.toIntegerBy_eq (rounds : IsRounding rounding exact) {value : Binary64}
    {number : ℚ} (held : value.number? = some number) :
    value.toIntegerBy rounding = .ok (exact number) := by
  cases value with
  | nan => cases held
  | infinite negative => cases held
  | finite negative mantissa exponent =>
      have same : number = withSign negative (mantissa * 2 ^ exponent) :=
        (Option.some.inj held).symm
      have quotient : (mantissa : ℚ) * 2 ^ exponent =
          (numerator mantissa exponent : ℚ) / (denominator exponent : ℚ) := by
        have base : ((2 : Nat) : ℚ) ≠ 0 := by norm_num
        exact mul_zpow_eq_div mantissa base exponent
      rw [same, quotient, withSign_div, withSign_natCast, ← rounds.quotient]
      rfl

private theorem Decimal.magnitude_lt_one {digits : Nat} {power : Int}
    (below : leadOf digits power < 0) : (digits : ℚ) * 10 ^ power < 1 := by
  unfold leadOf digitCount at below
  have filled : 0 < (Text.Numeral.ofNat digits).length := Nat.length_repr_pos
  have short : (Nat.repr digits).length ≤ (-power).toNat := by
    unfold Text.Numeral.ofNat at below
    omega
  have fewer : digits < 10 ^ (-power).toNat :=
    (Nat.length_repr_le_iff (by omega)).mp short
  have whole : power.toNat = 0 := by omega
  rw [zpow_eq_div (by norm_num), whole, pow_zero, mul_one_div]
  rw [div_lt_one (by positivity)]
  exact_mod_cast fewer

private theorem Decimal.toIntegerBy_eq (rounds : IsRounding rounding exact) {value : Decimal}
    {number : ℚ} (held : value.number? = some number) {integer : Int}
    (found : value.toIntegerBy rounding = .ok integer) : integer = exact number := by
  cases value with
  | nan negative signaling payload => cases held
  | infinite negative => cases held
  | finite negative digits power =>
      have same : number = withSign negative (digits * 10 ^ power) :=
        (Option.some.inj held).symm
      unfold toIntegerBy at found
      dsimp only at found
      by_cases zero : digits = 0
      · rw [if_pos zero] at found
        cases found
        have vanishes : number = ((0 : Int) : ℚ) := by
          rw [same, zero]
          cases negative <;> simp [withSign]
        rw [vanishes, rounds.integer]
      · rw [if_neg zero] at found
        have positive : (0 : ℚ) < digits * 10 ^ power := by
          have digitsPositive : (0 : ℚ) < digits := by
            exact_mod_cast Nat.pos_of_ne_zero zero
          positivity
        by_cases below : leadOf digits power < 0
        · -- the power of ten is not computed here, so the value is known to be small only
          rw [if_pos below] at found
          have small := magnitude_lt_one below
          rw [same]
          cases negative with
          | false =>
              cases found
              exact rounds.small _ positive small
          | true =>
              cases found
              exact rounds.smallNegative _ positive small
        · rw [if_neg below] at found
          by_cases long : lengthLimit < power
          · rw [if_pos long] at found
            cases found
          · rw [if_neg long] at found
            have quotient : (digits : ℚ) * 10 ^ power =
                ((digits * Nat.pow 10 power.toNat : Nat) : ℚ) /
                  ((Nat.pow 10 (-power).toNat : Nat) : ℚ) := by
              have base : ((10 : Nat) : ℚ) ≠ 0 := by norm_num
              exact mul_zpow_eq_div digits base power
            cases found
            rw [same, quotient, withSign_div, withSign_natCast, ← rounds.quotient]

end Number

namespace Cell

variable {cell : Cell} {number : ℚ} {integer : Int}

theorem rounded?_eq {rounding : Int → Int → Int} {exact : ℚ → Int}
    (rounds : IsRounding rounding exact) (held : cell.number? = some number)
    (found : cell.rounded? rounding = some integer) : integer = exact number := by
  cases cell with
  | null => cases held
  | text value => cases held
  | bytes value => cases held
  | date value => cases held
  | boolean value =>
      cases held
      cases found
      cases value with
      | false => exact_mod_cast (rounds.integer 0).symm
      | true => exact_mod_cast (rounds.integer 1).symm
  | integer value =>
      cases held
      cases found
      exact (rounds.integer _).symm
  | real value =>
      have rounded := Binary64.toIntegerBy_eq rounds held
      change (value.toIntegerBy rounding).toOption = some integer at found
      rw [rounded] at found
      exact (Option.some.inj found).symm
  | decimal value =>
      change (value.toIntegerBy rounding).toOption = some integer at found
      cases rounded : value.toIntegerBy rounding with
      | error fault =>
          rw [rounded] at found
          cases found
      | ok other =>
          rw [rounded] at found
          cases found
          exact Decimal.toIntegerBy_eq rounds held rounded

theorem floor?_eq (held : cell.number? = some number)
    (found : cell.floor? = some integer) : integer = ⌊number⌋ :=
  rounded?_eq isRounding_fdiv held found

theorem ceiling?_eq (held : cell.number? = some number)
    (found : cell.ceiling? = some integer) : integer = ⌈number⌉ :=
  rounded?_eq isRounding_quotientUp held found

end Cell

end TableExport
