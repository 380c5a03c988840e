import TableExport.Calendar.Instant
import TableExport.Proofs.Sequence

/-!
Instants on the clock of universal time. The date that is found for a day number
has that number, so bringing an instant to universal time keeps its moment, and
doing so twice changes nothing. Whether every day number of the calendar has a
date is not claimed here.
-/

set_option autoImplicit false

namespace TableExport.Calendar

open TableExport.Text

namespace Date

theorem foldl_add_eq (lengths : List Nat) (start : Nat) :
    lengths.foldl (· + ·) start = start + lengths.foldl (· + ·) 0 := by
  induction lengths generalizing start with
  | nil => rfl
  | cons length rest inductionHypothesis =>
      rw [List.foldl_cons, List.foldl_cons, inductionHypothesis (start + length),
        inductionHypothesis (0 + length)]
      omega

/-- The days of the months that were passed and the day that is left add up. -/
theorem monthAndDay_sum (lengths : List Nat) (month day : Nat) :
    ∃ passed, (monthAndDay lengths month day).1 = month + passed ∧
      (lengths.take passed).foldl (· + ·) 0 + (monthAndDay lengths month day).2 = day := by
  induction lengths generalizing month day with
  | nil => exact ⟨0, rfl, Nat.zero_add day⟩
  | cons length rest inductionHypothesis =>
      by_cases within : day ≤ length
      · rw [monthAndDay, if_pos within]
        exact ⟨0, rfl, Nat.zero_add day⟩
      · obtain ⟨passed, sameMonth, sum⟩ := inductionHypothesis (month + 1) (day - length)
        rw [monthAndDay, if_neg within]
        refine ⟨passed + 1, ?_, ?_⟩
        · rw [sameMonth]
          omega
        · rw [List.take_succ_cons, List.foldl_cons, foldl_add_eq]
          omega

theorem ofFields_ok {year month day : Nat} {date : Date}
    (found : ofFields year month day = .ok date) :
    date.year = year ∧ date.month = month ∧ date.day = day := by
  unfold ofFields at found
  by_cases years : 1 ≤ year ∧ year ≤ lastYear
  · rw [dif_pos years] at found
    by_cases months : 1 ≤ month ∧ month ≤ 12
    · rw [dif_pos months] at found
      by_cases days : 1 ≤ day ∧ day ≤ monthLength (isLeapYear year) month
      · rw [dif_pos days] at found
        cases found
        exact ⟨rfl, rfl, rfl⟩
      · rw [dif_neg days] at found
        cases found
    · rw [dif_neg months] at found
      cases found
  · rw [dif_neg years] at found
    cases found

theorem dayNumber_of_ofDayNumber? {number : Int} {date : Date}
    (found : ofDayNumber? number = some date) : (date.dayNumber : Int) = number := by
  unfold ofDayNumber? at found
  by_cases within : (decide (1 ≤ number) && decide (number ≤ lastDayNumber)) = true
  · rw [if_pos within] at found
    dsimp only at found
    obtain ⟨passed, sameMonth, sum⟩ := monthAndDay_sum
      (monthLengths (isLeapYear (yearOfDay number.toNat))) 1
      (number.toNat - daysBeforeYear (yearOfDay number.toNat))
    cases fields : ofFields (yearOfDay number.toNat)
        (monthAndDay (monthLengths (isLeapYear (yearOfDay number.toNat))) 1
          (number.toNat - daysBeforeYear (yearOfDay number.toNat))).1
        (monthAndDay (monthLengths (isLeapYear (yearOfDay number.toNat))) 1
          (number.toNat - daysBeforeYear (yearOfDay number.toNat))).2 with
    | error fault =>
        rw [fields] at found
        cases found
    | ok other =>
        rw [fields] at found
        cases found
        obtain ⟨sameYear, sameMonthField, sameDay⟩ := ofFields_ok fields
        have months : daysBeforeMonth (isLeapYear date.year) date.month =
            ((monthLengths (isLeapYear (yearOfDay number.toNat))).take passed).foldl
              (· + ·) 0 := by
          rw [daysBeforeMonth, sameYear, sameMonthField, sameMonth, Nat.add_sub_cancel_left]
        -- the day is positive, so the years before it were subtracted in full
        have positive := date.day_pos
        have low : 1 ≤ number :=
          of_decide_eq_true (Bool.and_eq_true_iff.mp within).1
        unfold dayNumber
        rw [months, sameYear, sameDay]
        rw [sameDay] at positive
        omega
  · rw [if_neg within] at found
    cases found

end Date

namespace Instant

theorem localMicros_of_ofLocalMicros? {offset micros : Int} {instant : Instant}
    (found : ofLocalMicros? offset micros = some instant) :
    instant.localMicros = micros ∧ instant.offset = offset := by
  unfold ofLocalMicros? at found
  cases day : Date.ofDayNumber? (micros / microsPerDay) with
  | none =>
      rw [day] at found
      cases found
  | some date =>
      rw [day] at found
      cases found
      have number := Date.dayNumber_of_ofDayNumber? day
      have positive : (0 : Int) < microsPerDay := by decide
      have low := Int.emod_nonneg micros (Int.ne_of_gt positive)
      have whole := Int.mul_ediv_add_emod micros microsPerDay
      refine ⟨?_, rfl⟩
      unfold localMicros
      dsimp only
      rw [number, Int.toNat_of_nonneg low, Int.mul_comm]
      exact whole

theorem moment_of_toUniversal {instant universal : Instant}
    (brought : instant.toUniversal = .ok universal) :
    universal.moment = instant.moment := by
  unfold toUniversal at brought
  cases found : ofLocalMicros? 0 instant.moment with
  | none =>
      rw [found] at brought
      cases brought
  | some other =>
      rw [found] at brought
      cases brought
      obtain ⟨sameMicros, sameOffset⟩ := localMicros_of_ofLocalMicros? found
      change universal.localMicros - universal.offset * microsPerSecond = _
      rw [sameMicros, sameOffset, Int.zero_mul, Int.sub_zero]

/-- An instant in universal time is already there. -/
theorem toUniversal_of_toUniversal {instant universal : Instant}
    (brought : instant.toUniversal = .ok universal) :
    universal.toUniversal = .ok universal := by
  have same := moment_of_toUniversal brought
  unfold toUniversal at brought ⊢
  rw [same]
  exact brought

theorem shown_of_toUniversal {instant universal : Instant}
    (brought : instant.toUniversal = .ok universal) :
    ∃ text, universal.shown = .ok text := by
  unfold shown
  rw [toUniversal_of_toUniversal brought]
  exact ⟨_, rfl⟩

end Instant

end TableExport.Calendar
