import Mathlib.Algebra.Order.Round
import TableExport.Proofs.Cell.Value
import TableExport.Proofs.Text.Numeral

/-!
Cells whose number stays below a power of ten. The integers around such a number
reach the power at most, and with few enough digits the cell can be displayed and
the integers can be written out. Cells that hold no number are under no bound;
nothing is claimed about how they come to be bounds of a column.
-/

set_option autoImplicit false

namespace TableExport

open TableExport.Text
open TableExport.Number

/-- A cell whose number, if it holds one, is below a power of ten in magnitude. -/
def Cell.IsBelow (digits : Nat) (cell : Cell) : Prop :=
  ∀ number, cell.number? = some number → |number| < 10 ^ digits

/-- A cell that has integers around it: a number, or null, which counts as zero. -/
def Cell.IsNumeric (cell : Cell) : Prop :=
  cell = .null ∨ ∃ number, cell.number? = some number

/-- The number that a cell counts as among bounds; null counts as zero. -/
def Cell.boundNumber? : Cell → Option ℚ
  | .null => some 0
  | cell => cell.number?

namespace Number

variable {number : ℚ} {bound : Nat}

private theorem natAbs_le_of_monotone {exact : ℚ → Int}
    (monotone : ∀ first second, first ≤ second → exact first ≤ exact second)
    (integer : ∀ value : Int, exact value = value) (below : |number| < bound) :
    (exact number).natAbs ≤ bound := by
  obtain ⟨low, high⟩ := abs_lt.mp below
  have atLeast : exact (-(bound : Int) : Int) ≤ exact number := by
    apply monotone
    push_cast
    exact le_of_lt low
  have atMost : exact number ≤ exact ((bound : Int) : Int) := by
    apply monotone
    push_cast
    exact le_of_lt high
  rw [integer] at atLeast atMost
  omega

private theorem Binary64.number?_of_toIntegerBy {rounding : Int → Int → Int} {value : Binary64}
    {integer : Int} (found : value.toIntegerBy rounding = .ok integer) :
    ∃ number, value.number? = some number := by
  cases value with
  | nan => cases found
  | infinite negative => cases found
  | finite negative mantissa exponent => exact ⟨_, rfl⟩

private theorem Decimal.number?_of_toIntegerBy {rounding : Int → Int → Int} {value : Decimal}
    {integer : Int} (found : value.toIntegerBy rounding = .ok integer) :
    ∃ number, value.number? = some number := by
  cases value with
  | nan negative signaling payload => cases found
  | infinite negative => cases found
  | finite negative digits power => exact ⟨_, rfl⟩

/-- A number that is too long to be written out is not below a power of ten that is not. -/
theorem Decimal.le_abs_of_isTooLong {value : Decimal} (long : value.isTooLong = true)
    {digits : Nat} (few : (digits : Int) ≤ lengthLimit) :
    ∃ number, value.number? = some number ∧ (10 : ℚ) ^ digits ≤ |number| := by
  cases value with
  | nan negative signaling payload => cases long
  | infinite negative => cases long
  | finite negative size power =>
      obtain ⟨filled, above⟩ := Bool.and_eq_true_iff.mp long
      have positive : (1 : ℚ) ≤ size := by
        exact_mod_cast Nat.one_le_iff_ne_zero.mpr (bne_iff_ne.mp filled)
      have exponent : (digits : Int) ≤ power :=
        Int.le_of_lt (Int.lt_of_le_of_lt few (of_decide_eq_true above))
      have powers : (10 : ℚ) ^ (digits : Int) ≤ 10 ^ power :=
        zpow_le_zpow_right₀ (by norm_num) exponent
      have magnitude : |withSign negative (size * 10 ^ power)| = size * 10 ^ power := by
        have nonneg : (0 : ℚ) ≤ size * 10 ^ power := by positivity
        cases negative with
        | false => exact abs_of_nonneg nonneg
        | true => exact (abs_neg _).trans (abs_of_nonneg nonneg)
      refine ⟨_, rfl, ?_⟩
      rw [magnitude, ← zpow_natCast]
      exact le_trans powers (le_mul_of_one_le_left (by positivity) positive)

private theorem Decimal.toIntegerBy_isOk {negative : Bool} {size : Nat} {power : Int}
    (short : (Decimal.finite negative size power).isTooLong = false)
    (rounding : Int → Int → Int) :
    ∃ integer, (Decimal.finite negative size power).toIntegerBy rounding = .ok integer := by
  unfold toIntegerBy
  dsimp only
  by_cases zero : size = 0
  · exact ⟨0, if_pos zero⟩
  · rw [if_neg zero]
    by_cases below : leadOf size power < 0
    · rw [if_pos below]
      exact ⟨_, rfl⟩
    · have within : ¬ lengthLimit < power := by
        intro long
        have tooLong : (Decimal.finite negative size power).isTooLong = true :=
          Bool.and_eq_true_iff.mpr ⟨bne_iff_ne.mpr zero, decide_eq_true long⟩
        rw [short] at tooLong
        cases tooLong
      rw [if_neg below, if_neg within]
      exact ⟨_, rfl⟩

end Number

namespace Cell

variable {cell : Cell} {digits : Nat} {integer : Int}

theorem isNumeric_of_rounded? {rounding : Int → Int → Int}
    (found : cell.rounded? rounding = some integer) : cell.IsNumeric := by
  cases cell with
  | null => exact .inl rfl
  | boolean value => exact .inr ⟨_, rfl⟩
  | integer value => exact .inr ⟨_, rfl⟩
  | real value =>
      cases rounded : value.toIntegerBy rounding with
      | error fault =>
          rw [rounded?, rounded] at found
          cases found
      | ok other => exact .inr (Binary64.number?_of_toIntegerBy rounded)
  | decimal value =>
      cases rounded : value.toIntegerBy rounding with
      | error fault =>
          rw [rounded?, rounded] at found
          cases found
      | ok other => exact .inr (Decimal.number?_of_toIntegerBy rounded)
  | text value => cases found
  | bytes value => cases found
  | date value => cases found

/-- A numeric cell rounds to an integer unless that is too long. -/
theorem IsNumeric.rounded?_isSome (numeric : cell.IsNumeric) (short : cell.isTooLong = false)
    (rounding : Int → Int → Int) : ∃ integer, cell.rounded? rounding = some integer := by
  rcases numeric with rfl | ⟨number, held⟩
  · exact ⟨0, rfl⟩
  · cases cell with
    | null | boolean | integer => exact ⟨_, rfl⟩
    | text | bytes | date => cases held
    | real value =>
        cases value with
        | nan | infinite => cases held
        | finite negative mantissa exponent => exact ⟨_, rfl⟩
    | decimal value =>
        cases value with
        | nan | infinite => cases held
        | finite negative size power =>
            obtain ⟨integer, rounded⟩ := Decimal.toIntegerBy_isOk short rounding
            refine ⟨integer, ?_⟩
            rw [rounded?, rounded]
            rfl

theorem isNumeric_iff : cell.IsNumeric ↔ ∃ number, cell.boundNumber? = some number := by
  unfold IsNumeric
  cases cell with
  | null => exact iff_of_true (.inl rfl) ⟨0, rfl⟩
  | _ => exact or_iff_right nofun

/-- A cell that counts as a number rounds to an integer unless that is too long. -/
theorem rounded?_of_boundNumber? {rounding : Int → Int → Int} {exact : ℚ → Int} {number : ℚ}
    (rounds : IsRounding rounding exact) (held : cell.boundNumber? = some number)
    (short : cell.isTooLong = false) : cell.rounded? rounding = some (exact number) := by
  rcases isNumeric_iff.mpr ⟨number, held⟩ with rfl | ⟨other, found⟩
  · cases held
    have zero := rounds.integer 0
    rw [Int.cast_zero] at zero
    rw [zero]
    rfl
  · obtain ⟨integer, rounded⟩ :=
      IsNumeric.rounded?_isSome (.inr ⟨other, found⟩) short rounding
    have same : cell.boundNumber? = cell.number? := by
      cases cell with
      | null => cases found
      | _ => rfl
    rw [rounded, rounded?_eq rounds (same.symm.trans held) rounded]

theorem rounded?_of_not_boundNumber? (missing : cell.boundNumber? = none)
    (rounding : Int → Int → Int) : cell.rounded? rounding = none := by
  cases rounded : cell.rounded? rounding with
  | none => rfl
  | some integer =>
      obtain ⟨number, held⟩ := isNumeric_iff.mp (isNumeric_of_rounded? rounded)
      rw [missing] at held
      cases held

namespace IsBelow

theorem natAbs_rounded?_le {rounding : Int → Int → Int} {exact : ℚ → Int}
    (rounds : IsRounding rounding exact)
    (monotone : ∀ first second, first ≤ second → exact first ≤ exact second)
    (below : cell.IsBelow digits) (found : cell.rounded? rounding = some integer) :
    integer.natAbs ≤ Nat.pow 10 digits := by
  rcases isNumeric_of_rounded? found with rfl | ⟨number, held⟩
  · cases found
    exact Nat.zero_le _
  · rw [rounded?_eq rounds held found]
    apply natAbs_le_of_monotone monotone rounds.integer
    have bound := below number held
    push_cast [Nat.pow_eq]
    exact bound

theorem isTooLong_eq (below : cell.IsBelow digits) (few : (digits : Int) ≤ Decimal.lengthLimit) :
    cell.isTooLong = false := by
  cases cell with
  | decimal value =>
      apply Bool.eq_false_iff.mpr
      intro long
      obtain ⟨number, held, atLeast⟩ := Decimal.le_abs_of_isTooLong long few
      exact absurd (below number held) (not_lt.mpr atLeast)
  | _ => rfl

theorem quoted_isOk (below : cell.IsBelow digits) (few : digits ≤ Numeral.digitLimit) :
    ∃ text, cell.quoted = .ok text := by
  cases cell with
  | integer value =>
      have size : (value.natAbs : ℚ) < 10 ^ digits := by
        rw [Nat.cast_natAbs, Int.cast_abs]
        exact below value rfl
      have natural : value.natAbs < Nat.pow 10 digits := by
        rw [Nat.pow_eq]
        exact_mod_cast size
      have writable : Numeral.IsWritable value := by
        unfold Numeral.IsWritable Numeral.firstUnwritable
        exact Nat.lt_of_lt_of_le natural (Numeral.tenPow_le few)
      refine ⟨Numeral.ofInt value, ?_⟩
      change Numeral.write value = _
      exact Numeral.write_of_isWritable writable
  | _ => exact ⟨_, rfl⟩

end IsBelow

end Cell

end TableExport
