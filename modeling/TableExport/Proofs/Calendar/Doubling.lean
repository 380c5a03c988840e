import TableExport.Proofs.Calendar.Shift
import TableExport.Proofs.Number.Doubling

/-!
Twice a period, although its counts are doubled as binary numbers. Counts of up
to 51 bits are doubled exactly. A longer count stays so long when it is doubled
that no date of the calendar is that far from another, so wherever twice a period
can be taken from an instant, it is the exact one that is taken. Of the doubled
periods that lead out of the calendar nothing is claimed.
-/

set_option autoImplicit false

namespace TableExport.Calendar

open TableExport.Number

theorem Date.IsShifted.bounds {date later : Date} {months days : Int}
    (shifted : date.IsShifted months days later) :
    months.natAbs < 120000 ∧ days.natAbs < 4000000 := by
  obtain ⟨moved, reached, counted⟩ := shifted
  have index := reached.month
  have year := date.year_le
  have month := date.month_le
  have movedYear := moved.year_le
  have movedMonth := moved.month_le
  have number := moved.dayNumber_le_lastDayNumber
  have laterNumber := later.dayNumber_le_lastDayNumber
  have lastDay : lastDayNumber = 3652059 := rfl
  have last : lastYear = 9999 := rfl
  unfold monthIndex at index
  omega

namespace Period

private theorem doubledCount_exact {count : Int} (small : 2 * count.natAbs < Nat.pow 2 52) :
    doubledCount count = .ok (2 * count) := by
  have single : count.natAbs < Nat.pow 2 52 := by omega
  obtain ⟨mantissa, exponent, held, whole⟩ := Binary64.ofInt_whole single
  obtain ⟨twice, twiceExponent, doubled, doubledWhole⟩ :=
    Binary64.ofRatio_whole (decide (count < 0)) (Binary64.twoPow_pos (-exponent).toNat) small
  have double : (Binary64.finite (decide (count < 0)) mantissa exponent).double =
      .finite (decide (count < 0)) twice twiceExponent := by
    rw [Binary64.double, whole, ← Nat.mul_assoc]
    exact doubled
  unfold doubledCount
  rw [held]
  dsimp only
  rw [double, Binary64.truncate_whole doubledWhole]
  dsimp only
  congr 1
  by_cases negative : count < 0
  · rw [decide_eq_true negative, if_pos rfl]
    omega
  · rw [decide_eq_false negative, if_neg Bool.false_ne_true]
    omega

private theorem doubledCount_ok {count twice : Int} (found : doubledCount count = .ok twice) :
    (Binary64.ofRatio (decide (count < 0)) count.natAbs 1).double.truncate = .ok twice := by
  unfold doubledCount Binary64.ofInt at found
  dsimp only at found
  cases held : (Binary64.ofRatio (decide (count < 0)) count.natAbs 1).isInfinite with
  | true =>
      rw [held] at found
      cases found
  | false =>
      simp only [held, Bool.false_eq_true, if_false] at found
      split at found
      · cases found
      next doubled same =>
        cases found
        exact same

theorem natAbs_le_of_doubledCount {count twice : Int} (found : doubledCount count = .ok twice) :
    8 * count.natAbs ≤ 9 * (twice.natAbs + 1) := by
  by_cases zero : count.natAbs = 0
  · omega
  obtain ⟨sign, other, otherExponent, doubled, size⟩ :=
    Binary64.truncate_ok (doubledCount_ok found)
  obtain ⟨_, mantissa, exponent, held, doubledQuotient⟩ := Binary64.double_finite doubled
  have least := Binary64.ofRatio_least Nat.one_pos (Nat.one_le_iff_ne_zero.mpr zero) held
  have positive : 0 < Binary64.denominator exponent := Binary64.twoPow_pos _
  have otherPositive : 0 < Binary64.denominator otherExponent := Binary64.twoPow_pos _
  have atLeast : Binary64.denominator exponent ≤ 2 * Binary64.numerator mantissa exponent := by
    have grown := Nat.mul_le_mul_right (Binary64.denominator exponent)
      (Nat.one_le_iff_ne_zero.mpr zero)
    omega
  have leastDoubled := Binary64.ofRatio_least positive atLeast doubledQuotient
  have below : Binary64.numerator other otherExponent <
      (twice.natAbs + 1) * Binary64.denominator otherExponent := by
    rw [size]
    exact (Nat.div_lt_iff_lt_mul otherPositive).mp (Nat.lt_succ_self _)
  generalize Binary64.numerator mantissa exponent = first at *
  generalize Binary64.denominator exponent = divisor at *
  generalize Binary64.numerator other otherExponent = second at *
  generalize Binary64.denominator otherExponent = otherDivisor at *
  -- all sizes are brought to the product of the two denominators
  have countBelow : 2 * (count.natAbs * (divisor * otherDivisor)) ≤ 3 * (first * otherDivisor) := by
    have scaled := Nat.mul_le_mul_right otherDivisor least
    rwa [Nat.mul_one, Nat.mul_assoc, Nat.mul_assoc, Nat.mul_assoc] at scaled
  have firstBelow : 4 * (first * otherDivisor) ≤ 3 * (second * divisor) := by
    rw [Nat.mul_assoc 2 first] at leastDoubled
    omega
  have secondBelow : second * divisor ≤ (twice.natAbs + 1) * (divisor * otherDivisor) := by
    have scaled := Nat.mul_le_mul_right divisor (Nat.le_of_lt below)
    rwa [Nat.mul_assoc, Nat.mul_comm otherDivisor] at scaled
  have product : 8 * count.natAbs * (divisor * otherDivisor) ≤
      9 * (twice.natAbs + 1) * (divisor * otherDivisor) := by
    rw [Nat.mul_assoc, Nat.mul_assoc]
    omega
  exact Nat.le_of_mul_le_mul_right product (Nat.mul_pos positive otherPositive)

private theorem ofParts_small {years months days : Int} (small : months.natAbs < 24) :
    ofParts years months days = .ok (normalized years months days) := by
  unfold ofParts
  by_cases short : months.natAbs < 12
  · rw [if_pos short]
  · have bound : 24 ≤ Nat.pow 2 52 := by decide
    obtain ⟨mantissa, exponent, held, _⟩ :=
      Binary64.ofInt_whole (Nat.lt_of_lt_of_le small bound)
    rw [if_neg short, held]

/-- A period without months has none when it is doubled, however counts are rounded. -/
theorem totalMonths_doubled_of_zero {period twice : Period}
    (doubled : period.doubled = .ok twice) (noMonths : period.totalMonths = 0) :
    twice.totalMonths = 0 := by
  have carried := period.months_lt
  unfold totalMonths at noMonths
  have years : period.years = 0 := by omega
  have months : period.months = 0 := by omega
  have doubledZero : doubledCount 0 = .ok 0 := doubledCount_exact (by decide)
  simp only [Period.doubled, years, months, doubledZero, Sequence.ok_bind,
    Sequence.bind_ok_iff] at doubled
  obtain ⟨days, _, made⟩ := doubled
  exact (ofParts_ok made).1

theorem doubled_exact {period : Period} (years : period.years.natAbs < 1000000000)
    (days : period.days.natAbs < 1000000000) :
    period.doubled =
      .ok (normalized (2 * period.years) (2 * period.months) (2 * period.days)) := by
  have months := period.months_lt
  have bound : 2 * 1000000000 < Nat.pow 2 52 := by decide
  unfold doubled
  rw [doubledCount_exact (by omega), doubledCount_exact (by omega),
    doubledCount_exact (by omega)]
  exact ofParts_small (by omega)

theorem doubled_of_small {period twice : Period} (doubled : period.doubled = .ok twice)
    (months : twice.totalMonths.natAbs < 1000000000) (days : twice.days.natAbs < 100000000) :
    twice.totalMonths = 2 * period.totalMonths ∧ twice.days = 2 * period.days := by
  have found := doubled
  simp only [Period.doubled, Sequence.bind_ok_iff] at found
  obtain ⟨yearsTwice, yearsFound, monthsTwice, monthsFound, daysTwice, daysFound, made⟩ := found
  obtain ⟨sameMonths, sameDays⟩ := ofParts_ok made
  have carried := period.months_lt
  have bound : 2 * 1000000000 < Nat.pow 2 52 := by decide
  have monthsExact : doubledCount period.months = .ok (2 * period.months) :=
    doubledCount_exact (by omega)
  rw [monthsFound] at monthsExact
  cases monthsExact
  have yearsBound := natAbs_le_of_doubledCount yearsFound
  have daysBound := natAbs_le_of_doubledCount daysFound
  rw [doubled_exact (by omega) (by omega)] at doubled
  cases doubled
  refine ⟨?_, rfl⟩
  rw [totalMonths_normalized]
  unfold totalMonths
  omega

/-- Twice a period can be taken from an instant exactly when the calendar holds the instant
that lies twice its months and then twice its days before. -/
theorem doubled_takenFrom_ok_iff {period : Period} {instant earlier : Instant} :
    (period.doubled >>= fun twice => twice.takenFrom instant) = .ok earlier ↔
      instant.date.IsShifted (-2 * period.totalMonths) (-2 * period.days) earlier.date ∧
        earlier.micros = instant.micros ∧ earlier.offset = instant.offset := by
  rw [Sequence.bind_ok_iff]
  constructor
  · rintro ⟨twice, doubled, taken⟩
    obtain ⟨shifted, sameTime, sameClock⟩ := addedTo_ok_iff.mp taken
    rw [totalMonths_negated] at shifted
    change instant.date.IsShifted (-twice.totalMonths) (-twice.days) earlier.date at shifted
    obtain ⟨fewMonths, fewDays⟩ := shifted.bounds
    obtain ⟨sameMonths, sameDays⟩ := doubled_of_small doubled (by omega) (by omega)
    rw [sameMonths, sameDays, ← Int.neg_mul, ← Int.neg_mul] at shifted
    exact ⟨shifted, sameTime, sameClock⟩
  · rintro ⟨shifted, sameTime, sameClock⟩
    obtain ⟨fewMonths, fewDays⟩ := shifted.bounds
    have carried := period.months_lt
    have split : period.totalMonths = 12 * period.years + period.months := rfl
    refine ⟨_, doubled_exact (by omega) (by omega), addedTo_ok_iff.mpr ⟨?_, sameTime, sameClock⟩⟩
    have months : -2 * period.totalMonths =
        -(12 * (2 * period.years) + 2 * period.months) := by omega
    rw [months, Int.neg_mul] at shifted
    rw [totalMonths_negated, totalMonths_normalized]
    exact shifted

end Period

end TableExport.Calendar
