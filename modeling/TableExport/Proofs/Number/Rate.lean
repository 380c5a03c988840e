import TableExport.Proofs.Number.Magnitude

/-!
Rates of whole counts over a time. A count that has a nearest number may still be
too large for the time it took: then the quotient is infinite and has no integer
part. A count of up to a thousand bits has a rate over every time that is not
below a millionth.
-/

set_option autoImplicit false

namespace TableExport.Number.Binary64

/-- If the time is positive, the count is near a finite number, and so is its quotient by the
time. -/
def HasRate (count : Nat) (time : Binary64) : Prop :=
  time.isAbove 0 = true →
    ∃ near, ofInt count = .ok near ∧ (near.divide time).isInfinite = false

def millionth : Binary64 := ofRatio false 1 1000000

private theorem millionth_eq : millionth = .finite false 4722366482869645 (-72) := by
  decide +kernel

private theorem positive_of_isAbove {negative : Bool} {mantissa : Nat} {exponent : Int}
    (above : (finite negative mantissa exponent).isAbove 0 = true) :
    negative = false ∧ mantissa ≠ 0 := by
  simp only [isAbove, Int.zero_mul, decide_eq_true_eq] at above
  cases negative with
  | true =>
      simp only [signedNumerator, if_true] at above
      omega
  | false =>
      refine ⟨rfl, ?_⟩
      rintro rfl
      simp only [signedNumerator, Bool.false_eq_true, if_false, numerator, Nat.zero_mul] at above
      omega

private theorem ofInt_natCast (count : Nat) :
    ofInt count =
      if (ofRatio false count 1).isInfinite then .error .integerTooLarge
      else .ok (ofRatio false count 1) := by
  have nonneg : decide ((count : Int) < 0) = false := decide_eq_false (by omega)
  unfold ofInt
  rw [nonneg, Int.natAbs_natCast]

private theorem ofRatio_cases (negative : Bool) (dividend divisor : Nat) :
    ofRatio negative dividend divisor = .infinite negative ∨
      ∃ mantissa exponent,
        ofRatio negative dividend divisor = .finite negative mantissa exponent := by
  unfold ofRatio
  split
  · exact .inr ⟨_, _, rfl⟩
  · dsimp only
    split
    · split
      · exact .inl rfl
      · exact .inr ⟨_, _, rfl⟩
    · split
      · exact .inl rfl
      · exact .inr ⟨_, _, rfl⟩

theorem finite_of_ofInt {count : Nat} {near : Binary64} (found : ofInt count = .ok near) :
    ∃ mantissa exponent, near = .finite false mantissa exponent := by
  rw [ofInt_natCast] at found
  rcases ofRatio_cases false count 1 with infinite | ⟨mantissa, exponent, finite⟩
  · rw [infinite] at found
    cases found
  · rw [finite] at found
    cases found
    exact ⟨mantissa, exponent, rfl⟩

/-- A quotient of a count by a positive time is infinite, or its integer part is held. -/
theorem divide_cases {mantissa : Nat} {exponent : Int} {time : Binary64}
    (above : time.isAbove 0 = true) :
    (finite false mantissa exponent).divide time = .infinite false ∨
      ((finite false mantissa exponent).divide time).isInfinite = false ∧
      ∃ whole : Nat, ((finite false mantissa exponent).divide time).truncate = .ok whole ∧
        whole < firstUnheld := by
  cases time with
  | nan => cases above
  | infinite negative =>
      cases negative with
      | true => cases above
      | false => exact .inr ⟨rfl, truncate_held (by decide) (by decide)⟩
  | finite negative divisor divisorExponent =>
      obtain ⟨rfl, nonzero⟩ := positive_of_isAbove above
      have positive : 0 < denominator exponent * numerator divisor divisorExponent :=
        Nat.mul_pos (twoPow_pos _) (Nat.mul_pos (Nat.pos_of_ne_zero nonzero) (twoPow_pos _))
      simp only [divide, if_neg nonzero]
      rcases ofRatio_cases (false != false)
          (numerator mantissa exponent * denominator divisorExponent)
          (denominator exponent * numerator divisor divisorExponent) with
        infinite | ⟨quotient, quotientExponent, finite⟩
      · exact .inl infinite
      · obtain ⟨_, short, within⟩ := ofRatio_held positive finite
        rw [finite]
        exact .inr ⟨rfl, truncate_held short within⟩

private theorem ofInt_bounded {value bits : Nat} (below : value < Nat.pow 2 bits)
    (small : bits ≤ 1022) :
    ∃ mantissa exponent, ofInt value = .ok (.finite false mantissa exponent) ∧
      numerator mantissa exponent ≤ Nat.pow 2 (bits + 1) * denominator exponent := by
  have belowOne : value < Nat.pow 2 bits * 1 := by
    rw [Nat.mul_one]
    exact below
  obtain ⟨mantissa, exponent, found, bounded⟩ :=
    ofRatio_bounded false Nat.one_pos belowOne small
  refine ⟨mantissa, exponent, ?_, bounded⟩
  rw [ofInt_natCast, found]
  rfl

/-- A number that is not below a millionth is not below the twentieth power of a half. -/
private theorem denominator_le_of_not_less {mantissa : Nat} {exponent : Int}
    (large : (finite false mantissa exponent).less millionth = false) :
    denominator exponent ≤ Nat.pow 2 20 * numerator mantissa exponent := by
  have powers : denominator (-72) = Nat.pow 2 20 * 4503599627370496 := by decide
  have whole : numerator 4722366482869645 (-72) = 4722366482869645 := by decide
  simp only [millionth_eq, less, signedNumerator, Bool.false_eq_true, if_false,
    decide_eq_false_iff_not, whole, powers] at large
  have atLeast : 4722366482869645 * denominator exponent ≤
      numerator mantissa exponent * (Nat.pow 2 20 * 4503599627370496) := by
    have plain := Int.not_lt.mp large
    exact_mod_cast plain
  have twenty : Nat.pow 2 20 = 1048576 := by decide
  rw [twenty] at atLeast ⊢
  omega

private theorem divide_isFinite {first second : Nat} {firstExponent secondExponent : Int}
    {bits : Nat} (positive : second ≠ 0)
    (above : numerator first firstExponent ≤ Nat.pow 2 bits * denominator firstExponent)
    (large : (finite false second secondExponent).less millionth = false)
    (small : bits + 21 ≤ 1022) :
    ((finite false first firstExponent).divide (finite false second secondExponent)).isInfinite =
      false := by
  have slow := denominator_le_of_not_less large
  have secondPositive : 0 < numerator second secondExponent :=
    Nat.mul_pos (Nat.pos_of_ne_zero positive) (twoPow_pos _)
  have firstPositive : 0 < denominator firstExponent := twoPow_pos _
  have divisorPositive := Nat.mul_pos firstPositive secondPositive
  have below : numerator first firstExponent * denominator secondExponent <
      Nat.pow 2 (bits + 21) * (denominator firstExponent * numerator second secondExponent) :=
    calc numerator first firstExponent * denominator secondExponent
        ≤ Nat.pow 2 bits * denominator firstExponent *
            (Nat.pow 2 20 * numerator second secondExponent) := Nat.mul_le_mul above slow
      _ = Nat.pow 2 (bits + 20) *
            (denominator firstExponent * numerator second secondExponent) := by
          rw [twoPow_add, Nat.mul_mul_mul_comm]
      _ < Nat.pow 2 (bits + 21) *
            (denominator firstExponent * numerator second secondExponent) :=
          Nat.mul_lt_mul_of_pos_right
            (twoPow_lt (Nat.lt_succ_self _)) divisorPositive
  obtain ⟨mantissa, exponent, found, _⟩ :=
    ofRatio_bounded (false != false) divisorPositive below small
  simp only [divide, if_neg positive, found]
  rfl

theorem hasRate_of_lt {count : Nat} {time : Binary64} (below : count < Nat.pow 2 1000)
    (measured : time.isAbove 0 = true → time.less millionth = false) : HasRate count time := by
  intro above
  obtain ⟨mantissa, exponent, near, bounded⟩ := ofInt_bounded below (by decide)
  refine ⟨_, near, ?_⟩
  cases time with
  | nan => cases above
  | infinite negative => rfl
  | finite negative divisor divisorExponent =>
      obtain ⟨rfl, nonzero⟩ := positive_of_isAbove above
      exact divide_isFinite nonzero bounded (measured above) (by decide)

end TableExport.Number.Binary64
