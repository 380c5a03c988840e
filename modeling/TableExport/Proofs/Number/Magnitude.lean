import TableExport.Number.Quantity

/-!
Quotients that a binary number can hold. A quotient below a power of two, of
which there are not too many bits, has a nearest binary number that is finite and
at most the next power of two; and whatever finite number is nearest to a
quotient, its integer part has no more bits than the limit.
-/

set_option autoImplicit false

namespace TableExport.Number.Binary64

def bitLimit : Nat := 1024

/-- The least natural number with more bits than the limit. -/
def firstUnheld : Nat := Nat.pow 2 bitLimit

theorem twoPow_pos (bits : Nat) : 0 < Nat.pow 2 bits :=
  Nat.pow_pos (Nat.succ_pos 1)

theorem twoPow_add (first second : Nat) :
    Nat.pow 2 (first + second) = Nat.pow 2 first * Nat.pow 2 second :=
  Nat.pow_add 2 first second

theorem twoPow_le {first second : Nat} (atMost : first ≤ second) :
    Nat.pow 2 first ≤ Nat.pow 2 second :=
  Nat.pow_le_pow_right (Nat.succ_pos 1) atMost

theorem twoPow_lt {first second : Nat} (below : first < second) :
    Nat.pow 2 first < Nat.pow 2 second :=
  Nat.pow_lt_pow_right (Nat.lt_succ_self 1) below

theorem firstUnheld_pos : 0 < firstUnheld := by
  unfold firstUnheld
  exact twoPow_pos bitLimit

theorem twoPow_lt_firstUnheld {bits : Nat} (small : bits < bitLimit) :
    Nat.pow 2 bits < firstUnheld := by
  unfold firstUnheld
  exact twoPow_lt small

theorem exponentOf_le (numerator denominator : Nat) :
    exponentOf numerator denominator ≤
      max leastExponent ((numerator.log2 : Int) - denominator.log2 - 52) := by
  unfold exponentOf
  apply Int.max_le.mpr
  constructor
  · exact Int.le_max_left _ _
  · refine Int.le_trans ?_ (Int.le_max_right _ _)
    split
    · exact Int.le_refl _
    · omega

private theorem log2_lt_of_lt_pow {value bits : Nat} (positive : 0 < bits)
    (below : value < Nat.pow 2 bits) : value.log2 < bits := by
  by_cases zero : value = 0
  · subst value
    exact positive
  · exact (Nat.log2_lt zero).mpr below

/-- A quotient below a power of two is brought to 53 bits by a small exponent. -/
theorem exponentOf_le_of_lt {numerator denominator bits : Nat}
    (below : numerator < Nat.pow 2 bits * denominator) :
    exponentOf numerator denominator ≤ (bits : Int) - 52 := by
  have exponentBound := exponentOf_le numerator denominator
  have denominatorBelow : denominator < Nat.pow 2 (denominator.log2 + 1) :=
    Nat.lt_log2_self
  have product : numerator < Nat.pow 2 (bits + (denominator.log2 + 1)) := by
    rw [twoPow_add]
    exact Nat.lt_of_lt_of_le below (Nat.mul_le_mul_left _ (Nat.le_of_lt denominatorBelow))
  have numeratorBound := log2_lt_of_lt_pow (by omega) product
  unfold leastExponent at exponentBound
  omega

private theorem numerator_roundedQuotient_le {dividend divisor bits : Nat} {exponent : Int}
    (positive : 0 < divisor) (below : dividend < Nat.pow 2 bits * divisor)
    (small : exponent ≤ (bits : Int) - 52) :
    numerator (roundedQuotient (scaledNumerator dividend exponent)
        (scaledDenominator divisor exponent)) exponent ≤
      Nat.pow 2 (bits + 1) * denominator exponent := by
  obtain ⟨_, half⟩ := roundedQuotient_near (scaledNumerator dividend exponent)
    (scaledDenominator divisor exponent) (Nat.mul_pos positive (twoPow_pos _))
  have upBelow : Nat.pow 2 exponent.toNat ≤ Nat.pow 2 bits * Nat.pow 2 (-exponent).toNat := by
    rw [← twoPow_add]
    exact twoPow_le (by omega)
  rw [twoPow_add bits 1]
  unfold numerator denominator
  generalize roundedQuotient _ _ = mantissa at half ⊢
  unfold scaledNumerator scaledDenominator at half
  generalize Nat.pow 2 exponent.toNat = up at *
  generalize Nat.pow 2 (-exponent).toNat = down at *
  generalize Nat.pow 2 bits = whole at *
  -- all three terms are compared with the divisor times the bound
  have dividendBelow : dividend * down ≤ divisor * (whole * down) :=
    calc dividend * down ≤ whole * divisor * down :=
          Nat.mul_le_mul_right down (Nat.le_of_lt below)
      _ = divisor * (whole * down) := by rw [Nat.mul_comm whole, Nat.mul_assoc]
  have unitBelow : divisor * up ≤ divisor * (whole * down) := Nat.mul_le_mul_left divisor upBelow
  have scaled : divisor * (mantissa * up) ≤ divisor * (2 * (whole * down)) := by
    rw [Nat.mul_left_comm mantissa] at half
    rw [Nat.mul_left_comm divisor 2]
    omega
  have cancelled := Nat.le_of_mul_le_mul_left scaled positive
  calc mantissa * up ≤ 2 * (whole * down) := cancelled
    _ = whole * Nat.pow 2 1 * down := by
      rw [show Nat.pow 2 1 = 2 from rfl, Nat.mul_comm whole 2, Nat.mul_assoc]

/-- A quotient below a power of two is rounded to at most the next one. -/
theorem ofRatio_bounded (negative : Bool) {dividend divisor bits : Nat} (positive : 0 < divisor)
    (below : dividend < Nat.pow 2 bits * divisor) (small : bits ≤ 1022) :
    ∃ mantissa exponent, ofRatio negative dividend divisor = .finite negative mantissa exponent ∧
      numerator mantissa exponent ≤ Nat.pow 2 (bits + 1) * denominator exponent := by
  have exponentBound := exponentOf_le_of_lt below
  unfold ofRatio
  split
  · refine ⟨0, leastExponent, rfl, ?_⟩
    rw [numerator, Nat.zero_mul]
    exact Nat.zero_le _
  · dsimp only
    generalize exponentOf dividend divisor = exponent at exponentBound ⊢
    by_cases carried : roundedQuotient (scaledNumerator dividend exponent)
        (scaledDenominator divisor exponent) = 2 * leastFullMantissa
    · -- the carried mantissa is a power of two itself
      have room : ¬ greatestExponent < exponent + 1 := by
        unfold greatestExponent
        omega
      have full : leastFullMantissa = Nat.pow 2 52 := rfl
      simp only [if_pos carried, if_neg room]
      refine ⟨leastFullMantissa, exponent + 1, rfl, ?_⟩
      unfold numerator denominator
      rw [full, ← twoPow_add, ← twoPow_add]
      exact twoPow_le (by omega)
    · have room : ¬ greatestExponent < exponent := by
        unfold greatestExponent
        omega
      simp only [if_neg carried, if_neg room]
      exact ⟨_, exponent, rfl, numerator_roundedQuotient_le positive below exponentBound⟩

/-- The exponent stays two below the greatest, which leaves room for a carry. -/
theorem ofRatio_isFinite (negative : Bool) {numerator denominator : Nat}
    (held : numerator < firstUnheld) (large : 8 ≤ denominator) :
    (ofRatio negative numerator denominator).isInfinite = false := by
  have below : numerator < Nat.pow 2 (bitLimit - 3) * denominator := by
    have eighth := twoPow_add (bitLimit - 3) 3
    have sum : bitLimit - 3 + 3 = bitLimit := rfl
    rw [sum] at eighth
    unfold firstUnheld at held
    rw [eighth] at held
    exact Nat.lt_of_lt_of_le held (Nat.mul_le_mul_left _ large)
  obtain ⟨mantissa, exponent, found, _⟩ :=
    ofRatio_bounded negative (Nat.lt_of_lt_of_le (by decide) large) below (by decide)
  rw [found]
  rfl

theorem ofQuotient_isOk {dividend : Int} (divisor : Nat)
    (held : dividend.natAbs < firstUnheld) (large : 8 ≤ divisor) :
    ∃ nearest, ofQuotient dividend divisor = .ok nearest := by
  refine ⟨ofRatio (dividend < 0) dividend.natAbs divisor, ?_⟩
  unfold ofQuotient
  simp only [ofRatio_isFinite _ held large, Bool.false_eq_true, if_false]

/-- A quotient that stays below a power of two at one exponent does so at any other, with as many
more bits as that exponent is less. -/
theorem scaledNumerator_lt_of_lt {dividend divisor bits bitsToo : Nat} {exponent other : Int}
    (below : scaledNumerator dividend exponent <
      Nat.pow 2 bits * scaledDenominator divisor exponent)
    (room : bits + exponent ≤ bitsToo + other) :
    scaledNumerator dividend other < Nat.pow 2 bitsToo * scaledDenominator divisor other := by
  have powers : Nat.pow 2 (-other).toNat * Nat.pow 2 (bits + exponent.toNat) ≤
      Nat.pow 2 (-exponent).toNat * Nat.pow 2 (bitsToo + other.toNat) := by
    rw [← twoPow_add, ← twoPow_add]
    exact twoPow_le (by omega)
  have positive : 0 < Nat.pow 2 (bits + exponent.toNat) := twoPow_pos _
  have scaled : dividend * Nat.pow 2 (-exponent).toNat <
      divisor * Nat.pow 2 (bits + exponent.toNat) := by
    rw [twoPow_add, Nat.mul_left_comm]
    exact below
  unfold scaledNumerator scaledDenominator
  rw [Nat.mul_left_comm, ← twoPow_add]
  apply Nat.lt_of_mul_lt_mul_right (a := Nat.pow 2 (bits + exponent.toNat))
  calc dividend * Nat.pow 2 (-other).toNat * Nat.pow 2 (bits + exponent.toNat)
      ≤ dividend * (Nat.pow 2 (-exponent).toNat * Nat.pow 2 (bitsToo + other.toNat)) := by
        rw [Nat.mul_assoc]
        exact Nat.mul_le_mul_left dividend powers
    _ = dividend * Nat.pow 2 (-exponent).toNat * Nat.pow 2 (bitsToo + other.toNat) :=
        (Nat.mul_assoc _ _ _).symm
    _ < divisor * Nat.pow 2 (bits + exponent.toNat) * Nat.pow 2 (bitsToo + other.toNat) :=
        Nat.mul_lt_mul_of_pos_right scaled (twoPow_pos _)
    _ = divisor * Nat.pow 2 (bitsToo + other.toNat) * Nat.pow 2 (bits + exponent.toNat) :=
        Nat.mul_right_comm _ _ _

/-- The chosen exponent leaves at most 53 bits. -/
theorem scaledNumerator_lt (dividend : Nat) {divisor : Nat} (positive : 0 < divisor) :
    scaledNumerator dividend (exponentOf dividend divisor) <
      Nat.pow 2 53 * scaledDenominator divisor (exponentOf dividend divisor) := by
  have dividendBelow : dividend < Nat.pow 2 (dividend.log2 + 1) := Nat.lt_log2_self
  have divisorAbove : Nat.pow 2 divisor.log2 ≤ divisor :=
    Nat.log2_self_le (Nat.ne_of_gt positive)
  obtain ⟨guess, guessed⟩ : ∃ guess : Int, guess = dividend.log2 - divisor.log2 - 52 := ⟨_, rfl⟩
  have atGuess : scaledNumerator dividend guess < Nat.pow 2 53 * scaledDenominator divisor guess :=
    calc dividend * Nat.pow 2 (-guess).toNat
        < Nat.pow 2 (dividend.log2 + 1) * Nat.pow 2 (-guess).toNat :=
          Nat.mul_lt_mul_of_pos_right dividendBelow (twoPow_pos _)
      _ = Nat.pow 2 divisor.log2 * Nat.pow 2 (53 + guess.toNat) := by
          rw [← twoPow_add, ← twoPow_add]
          exact congrArg (Nat.pow 2) (by omega)
      _ ≤ divisor * Nat.pow 2 (53 + guess.toNat) := Nat.mul_le_mul_right _ divisorAbove
      _ = Nat.pow 2 53 * scaledDenominator divisor guess := by
          rw [twoPow_add, Nat.mul_left_comm]
          rfl
  have chosen : exponentOf dividend divisor = max leastExponent
      (if leastFullMantissa ≤ scaledNumerator dividend guess / scaledDenominator divisor guess
        then guess else guess - 1) := by
    rw [guessed]
    rfl
  by_cases fits :
      leastFullMantissa ≤ scaledNumerator dividend guess / scaledDenominator divisor guess
  · rw [if_pos fits] at chosen
    exact scaledNumerator_lt_of_lt atGuess (by omega)
  · -- one bit is missing at the guess, which leaves room for the exponent below it
    have short : scaledNumerator dividend guess <
        Nat.pow 2 52 * scaledDenominator divisor guess :=
      (Nat.div_lt_iff_lt_mul (Nat.mul_pos positive (twoPow_pos _))).mp (Nat.not_le.mp fits)
    rw [if_neg fits] at chosen
    exact scaledNumerator_lt_of_lt short (by omega)

private theorem roundedQuotient_le {dividend divisor bound : Nat} (positive : 0 < divisor)
    (below : dividend < bound * divisor) : roundedQuotient dividend divisor ≤ bound := by
  obtain ⟨_, half⟩ := roundedQuotient_near dividend divisor positive
  have scaled : 2 * roundedQuotient dividend divisor * divisor < (2 * bound + 1) * divisor := by
    rw [Nat.mul_assoc, Nat.add_mul, Nat.one_mul, Nat.mul_assoc]
    omega
  have cancelled := Nat.lt_of_mul_lt_mul_right scaled
  omega

/-- A finite number that is nearest to a quotient has at most 53 bits and an exponent within
range. -/
theorem ofRatio_held {negative sign : Bool} {dividend divisor mantissa : Nat} {exponent : Int}
    (positive : 0 < divisor)
    (found : ofRatio negative dividend divisor = .finite sign mantissa exponent) :
    sign = negative ∧ mantissa < 2 * leastFullMantissa ∧ exponent ≤ greatestExponent := by
  by_cases absent : dividend = 0
  · unfold ofRatio at found
    rw [if_pos absent] at found
    cases found
    exact ⟨rfl, by decide, by decide⟩
  · have most : roundedQuotient (scaledNumerator dividend (exponentOf dividend divisor))
        (scaledDenominator divisor (exponentOf dividend divisor)) ≤ 2 * leastFullMantissa :=
      roundedQuotient_le (Nat.mul_pos positive (twoPow_pos _))
        (scaledNumerator_lt dividend positive)
    unfold ofRatio at found
    rw [if_neg absent] at found
    dsimp only at found
    split at found
    · split at found
      · cases found
      · cases found
        exact ⟨rfl, by decide, by omega⟩
    · split at found
      · cases found
      · cases found
        exact ⟨rfl, by omega, by omega⟩

/-- The integer part of a number within range has no more bits than the limit. -/
theorem truncate_held {mantissa : Nat} {exponent : Int} (short : mantissa < 2 * leastFullMantissa)
    (within : exponent ≤ greatestExponent) :
    ∃ whole : Nat, (finite false mantissa exponent).truncate = .ok whole ∧
      whole < firstUnheld := by
  refine ⟨numerator mantissa exponent / denominator exponent, ?_, ?_⟩
  · have plain : signedNumerator false mantissa exponent = numerator mantissa exponent :=
      if_neg Bool.false_ne_true
    unfold truncate toIntegerBy
    dsimp only
    rw [plain, Int.ofNat_tdiv]
  · have full : 2 * leastFullMantissa = Nat.pow 2 53 := rfl
    have room : 53 + exponent.toNat ≤ bitLimit := by
      unfold greatestExponent at within
      unfold bitLimit
      omega
    calc numerator mantissa exponent / denominator exponent
        ≤ mantissa * Nat.pow 2 exponent.toNat := Nat.div_le_self _ _
      _ < Nat.pow 2 53 * Nat.pow 2 exponent.toNat :=
          Nat.mul_lt_mul_of_pos_right (full ▸ short) (twoPow_pos _)
      _ = Nat.pow 2 (53 + exponent.toNat) := (twoPow_add _ _).symm
      _ ≤ firstUnheld := by
        unfold firstUnheld
        exact twoPow_le room

end TableExport.Number.Binary64
