import TableExport.Proofs.Number.Magnitude

/-!
Whole numbers as binary numbers. A whole number of at most 52 bits is its own
nearest binary number, and so is its double. A longer one may change, but no
rounding takes more than a third of a quotient that is at least one, so a count
that is small after it was doubled was small before. What becomes of the counts
in between is not said here.
-/

set_option autoImplicit false

namespace TableExport.Number

private theorem roundedQuotient_mul (value : Nat) {divisor : Nat} (positive : 0 < divisor) :
    roundedQuotient (value * divisor) divisor = value := by
  unfold roundedQuotient
  rw [Nat.mul_mod_left, Nat.mul_div_cancel value positive]
  exact if_pos positive

namespace Binary64

theorem carried_value (exponent : Int) :
    ∃ factor, 0 < factor ∧
      numerator (2 * leastFullMantissa) exponent =
        factor * numerator leastFullMantissa (exponent + 1) ∧
      denominator exponent = factor * denominator (exponent + 1) := by
  unfold numerator denominator
  rcases Int.lt_or_le exponent 0 with fraction | whole
  · have up : exponent.toNat = 0 := by omega
    have upCarried : (exponent + 1).toNat = 0 := by omega
    have down : (-exponent).toNat = 1 + (-(exponent + 1)).toNat := by omega
    refine ⟨2, by decide, ?_, ?_⟩
    · rw [up, upCarried, Nat.mul_assoc]
    · rw [down]
      exact twoPow_add 1 _
  · have up : (exponent + 1).toNat = 1 + exponent.toNat := by omega
    have down : (-exponent).toNat = 0 := by omega
    have downCarried : (-(exponent + 1)).toNat = 0 := by omega
    refine ⟨1, by decide, ?_, ?_⟩
    · rw [up, twoPow_add, Nat.one_mul, Nat.mul_comm 2, Nat.mul_assoc]
    · rw [down, downCarried, Nat.one_mul]

/-- A finite number that is nearest to a quotient has the value of the rounded quotient at
the exponent that was chosen. -/
theorem ofRatio_value {negative sign : Bool} {dividend divisor mantissa : Nat} {exponent : Int}
    (present : dividend ≠ 0)
    (found : ofRatio negative dividend divisor = .finite sign mantissa exponent) :
    sign = negative ∧
      ∃ factor, 0 < factor ∧
        numerator (roundedQuotient (scaledNumerator dividend (exponentOf dividend divisor))
            (scaledDenominator divisor (exponentOf dividend divisor)))
            (exponentOf dividend divisor) =
          factor * numerator mantissa exponent ∧
        denominator (exponentOf dividend divisor) = factor * denominator exponent := by
  unfold ofRatio at found
  rw [if_neg present] at found
  dsimp only at found
  generalize exponentOf dividend divisor = chosen at found ⊢
  by_cases carried : roundedQuotient (scaledNumerator dividend chosen)
      (scaledDenominator divisor chosen) = 2 * leastFullMantissa
  · rw [if_pos carried, if_pos carried] at found
    split at found
    · cases found
    · cases found
      rw [carried]
      exact ⟨rfl, carried_value chosen⟩
  · rw [if_neg carried, if_neg carried] at found
    split at found
    · cases found
    · cases found
      exact ⟨rfl, 1, Nat.one_pos, (Nat.one_mul _).symm, (Nat.one_mul _).symm⟩

theorem ofRatio_whole (negative : Bool) {value divisor : Nat} (positive : 0 < divisor)
    (below : value < Nat.pow 2 52) :
    ∃ mantissa exponent,
      ofRatio negative (value * divisor) divisor = .finite negative mantissa exponent ∧
        numerator mantissa exponent = value * denominator exponent := by
  have product : value * divisor < Nat.pow 2 52 * divisor :=
    Nat.mul_lt_mul_of_pos_right below positive
  obtain ⟨mantissa, exponent, found, _⟩ := ofRatio_bounded negative positive product (by decide)
  refine ⟨mantissa, exponent, found, ?_⟩
  by_cases present : value * divisor = 0
  · have zero : value = 0 := (Nat.mul_eq_zero.mp present).resolve_right (Nat.ne_of_gt positive)
    unfold ofRatio at found
    rw [if_pos present] at found
    cases found
    rw [zero, numerator, Nat.zero_mul, Nat.zero_mul]
  · obtain ⟨_, factor, factorPositive, sameNumerator, sameDenominator⟩ :=
      ofRatio_value present found
    have chosen := exponentOf_le_of_lt product
    generalize exponentOf (value * divisor) divisor = exponentChosen at *
    -- nothing is divided away at an exponent that is not positive
    have up : exponentChosen.toNat = 0 := by omega
    have rounded : roundedQuotient (scaledNumerator (value * divisor) exponentChosen)
        (scaledDenominator divisor exponentChosen) = value * denominator exponentChosen := by
      have whole : scaledNumerator (value * divisor) exponentChosen =
          value * denominator exponentChosen * divisor :=
        Nat.mul_right_comm value divisor _
      have unscaled : scaledDenominator divisor exponentChosen = divisor := by
        unfold scaledDenominator
        rw [up]
        exact Nat.mul_one divisor
      rw [whole, unscaled, roundedQuotient_mul _ positive]
    have plain (size : Nat) : numerator size exponentChosen = size := by
      unfold numerator
      rw [up]
      exact Nat.mul_one size
    rw [rounded, plain, sameDenominator, Nat.mul_left_comm] at sameNumerator
    exact (Nat.eq_of_mul_eq_mul_left factorPositive sameNumerator).symm

theorem ofInt_whole {value : Int} (below : value.natAbs < Nat.pow 2 52) :
    ∃ mantissa exponent,
      ofInt value = .ok (.finite (decide (value < 0)) mantissa exponent) ∧
        numerator mantissa exponent = value.natAbs * denominator exponent := by
  obtain ⟨mantissa, exponent, held, whole⟩ :=
    ofRatio_whole (decide (value < 0)) Nat.one_pos below
  rw [Nat.mul_one] at held
  refine ⟨mantissa, exponent, ?_, whole⟩
  unfold ofInt
  dsimp only
  rw [held]
  rfl

/-- The exponent leaves a quotient of at least one above one. -/
theorem scaledDenominator_le {dividend divisor : Nat} (positive : 0 < divisor)
    (atLeast : divisor ≤ dividend) :
    scaledDenominator divisor (exponentOf dividend divisor) ≤
      scaledNumerator dividend (exponentOf dividend divisor) := by
  have bound := exponentOf_le dividend divisor
  generalize exponentOf dividend divisor = exponent at *
  unfold scaledDenominator scaledNumerator
  rcases Int.lt_or_le exponent 0 with fraction | whole
  · have up : exponent.toNat = 0 := by omega
    rw [up]
    calc divisor * Nat.pow 2 0 = divisor := Nat.mul_one divisor
      _ ≤ dividend := atLeast
      _ ≤ dividend * Nat.pow 2 (-exponent).toNat :=
        Nat.le_mul_of_pos_right dividend (twoPow_pos _)
  · have down : (-exponent).toNat = 0 := by omega
    have room : divisor.log2 + 1 + exponent.toNat ≤ dividend.log2 := by
      unfold leastExponent at bound
      omega
    rw [down]
    calc divisor * Nat.pow 2 exponent.toNat
        ≤ Nat.pow 2 (divisor.log2 + 1) * Nat.pow 2 exponent.toNat :=
          Nat.mul_le_mul_right _ (Nat.le_of_lt Nat.lt_log2_self)
      _ = Nat.pow 2 (divisor.log2 + 1 + exponent.toNat) := (twoPow_add _ _).symm
      _ ≤ Nat.pow 2 dividend.log2 := twoPow_le room
      _ ≤ dividend := Nat.log2_self_le (by omega)
      _ = dividend * Nat.pow 2 0 := (Nat.mul_one dividend).symm

/-- Rounding takes at most a third of a quotient that is at least one. -/
theorem ofRatio_least {negative sign : Bool} {dividend divisor mantissa : Nat} {exponent : Int}
    (positive : 0 < divisor) (atLeast : divisor ≤ dividend)
    (found : ofRatio negative dividend divisor = .finite sign mantissa exponent) :
    2 * (dividend * denominator exponent) ≤ 3 * (numerator mantissa exponent * divisor) := by
  obtain ⟨_, factor, factorPositive, sameNumerator, sameDenominator⟩ :=
    ofRatio_value (by omega) found
  have scaledPositive :
      0 < scaledDenominator divisor (exponentOf dividend divisor) :=
    Nat.mul_pos positive (twoPow_pos _)
  obtain ⟨half, _⟩ := roundedQuotient_near
    (scaledNumerator dividend (exponentOf dividend divisor)) _ scaledPositive
  have scaled := scaledDenominator_le positive atLeast
  generalize exponentOf dividend divisor = chosen at *
  generalize quotient : roundedQuotient (scaledNumerator dividend chosen)
    (scaledDenominator divisor chosen) = rounded at *
  have nonzero : 1 ≤ rounded := by
    apply Nat.one_le_iff_ne_zero.mpr
    rintro rfl
    omega
  have third : 2 * scaledNumerator dividend chosen ≤
      3 * (rounded * scaledDenominator divisor chosen) :=
    calc 2 * scaledNumerator dividend chosen
        ≤ (2 * rounded + 1) * scaledDenominator divisor chosen := half
      _ ≤ 3 * rounded * scaledDenominator divisor chosen :=
        Nat.mul_le_mul_right _ (by omega)
      _ = 3 * (rounded * scaledDenominator divisor chosen) := Nat.mul_assoc _ _ _
  have lower : scaledNumerator dividend chosen = factor * (dividend * denominator exponent) := by
    rw [Nat.mul_left_comm, ← sameDenominator]
    rfl
  have upper : rounded * scaledDenominator divisor chosen =
      factor * (numerator mantissa exponent * divisor) := by
    rw [← Nat.mul_assoc, ← sameNumerator]
    unfold scaledDenominator numerator
    rw [Nat.mul_left_comm, Nat.mul_comm divisor]
  rw [lower, upper, Nat.mul_left_comm 2, Nat.mul_left_comm 3] at third
  exact Nat.le_of_mul_le_mul_left third factorPositive

theorem truncate_ok {number : Binary64} {whole : Int} (found : number.truncate = .ok whole) :
    ∃ sign mantissa exponent, number = .finite sign mantissa exponent ∧
      whole.natAbs = numerator mantissa exponent / denominator exponent := by
  cases number with
  | nan => cases found
  | infinite sign => cases found
  | finite sign mantissa exponent =>
      cases found
      refine ⟨sign, mantissa, exponent, rfl, ?_⟩
      rw [Int.natAbs_tdiv, Int.natAbs_natCast]
      unfold signedNumerator
      cases sign with
      | false => rfl
      | true =>
          rw [if_pos rfl, Int.natAbs_neg, Int.natAbs_natCast]
          rfl

theorem double_finite {number : Binary64} {sign : Bool} {mantissa : Nat} {exponent : Int}
    (doubled : number.double = .finite sign mantissa exponent) :
    ∃ negative single singleExponent, number = .finite negative single singleExponent ∧
      ofRatio negative (2 * numerator single singleExponent) (denominator singleExponent) =
        .finite sign mantissa exponent := by
  cases number with
  | nan => cases doubled
  | infinite negative => cases doubled
  | finite negative single singleExponent => exact ⟨_, _, _, rfl, doubled⟩

theorem truncate_whole {negative : Bool} {value mantissa : Nat} {exponent : Int}
    (whole : numerator mantissa exponent = value * denominator exponent) :
    (finite negative mantissa exponent).truncate =
      .ok (if negative then -(value : Int) else value) := by
  have positive : (denominator exponent : Int) ≠ 0 :=
    Int.natCast_ne_zero.mpr (Nat.ne_of_gt (twoPow_pos _))
  unfold truncate toIntegerBy
  dsimp only
  unfold signedNumerator
  rw [whole, Int.natCast_mul]
  cases negative with
  | false =>
      rw [if_neg Bool.false_ne_true, if_neg Bool.false_ne_true, Int.mul_tdiv_cancel _ positive]
  | true => rw [if_pos rfl, if_pos rfl, ← Int.neg_mul, Int.mul_tdiv_cancel _ positive]

end Binary64

end TableExport.Number
