import TableExport.Proofs.Calendar.Months
import TableExport.Proofs.Calendar.Universal

/-!
Every date is found again by its day number. The year is estimated from the
average length of a year and is at most one year off; the month is the one whose
days are not used up. So a date and its day number determine each other, and an
instant on the clock of universal time is its own universal form.
-/

set_option autoImplicit false

namespace TableExport.Calendar

namespace Date

private theorem yearOfDay_eq {year number : Nat} (positive : 1 ≤ year)
    (after : daysBeforeYear year < number) (within : number ≤ daysBeforeYear (year + 1)) :
    yearOfDay number = year := by
  obtain ⟨passed, rfl⟩ : ∃ passed, year = passed + 1 := ⟨year - 1, by omega⟩
  have start := daysBeforeYear_bounds passed
  have stop := daysBeforeYear_bounds (passed + 1)
  have estimate : (number - 1) * 400 / 146097 = passed ∨
      (number - 1) * 400 / 146097 + 1 = passed := by
    omega
  unfold yearOfDay
  rcases estimate with same | earlier
  · rw [same]
    dsimp only
    rw [if_neg (Nat.not_lt.mpr within), if_neg (Nat.not_le.mpr after)]
  · rw [earlier]
    exact if_pos after

/-- The days of the first months and a day of the next one lead to that month. -/
theorem monthAndDay_eq {lengths : List Nat} {passed : Nat} (start : Nat) {day length : Nat}
    (next : lengths[passed]? = some length) (positive : 1 ≤ day) (within : day ≤ length) :
    monthAndDay lengths start ((lengths.take passed).foldl (· + ·) 0 + day) =
      (start + passed, day) := by
  induction passed generalizing lengths start with
  | zero =>
      cases lengths with
      | nil => cases next
      | cons first rest =>
          cases next
          rw [List.take_zero, List.foldl_nil, Nat.zero_add, monthAndDay, if_pos within]
          rfl
  | succ passed inductionHypothesis =>
      cases lengths with
      | nil => cases next
      | cons first rest =>
          have later : monthAndDay rest (start + 1) ((rest.take passed).foldl (· + ·) 0 + day) =
              (start + 1 + passed, day) := inductionHypothesis (start + 1) next
          have total : ((first :: rest).take (passed + 1)).foldl (· + ·) 0 =
              first + (rest.take passed).foldl (· + ·) 0 := by
            rw [List.take_succ_cons, List.foldl_cons, foldl_add_eq]
            omega
          have beyond : ¬ first + (rest.take passed).foldl (· + ·) 0 + day ≤ first := by
            omega
          have left : first + (rest.take passed).foldl (· + ·) 0 + day - first =
              (rest.take passed).foldl (· + ·) 0 + day := by
            omega
          rw [total, monthAndDay, if_neg beyond, left, later]
          congr 1
          omega

variable (date : Date)

theorem ofFields_self : ofFields date.year date.month date.day = .ok date := by
  unfold ofFields
  rw [dif_pos ⟨date.year_pos, date.year_le⟩, dif_pos ⟨date.month_pos, date.month_le⟩,
    dif_pos ⟨date.day_pos, date.day_le⟩]

private theorem monthAndDay_date :
    monthAndDay (monthLengths (isLeapYear date.year)) 1
        (daysBeforeMonth (isLeapYear date.year) date.month + date.day) =
      (date.month, date.day) := by
  have within := date.day_le
  have positive := date.month_pos
  have last := date.month_le
  obtain ⟨earlier, same⟩ : ∃ earlier, date.month = earlier + 1 := ⟨date.month - 1, by omega⟩
  have inside : earlier < (monthLengths (isLeapYear date.year)).length := by
    change earlier < 12
    omega
  rw [same, monthLength, List.getD_eq_getElem?_getD, List.getElem?_eq_getElem inside,
    Option.getD_some] at within
  have found := monthAndDay_eq 1 (List.getElem?_eq_getElem inside) date.day_pos within
  rw [same, daysBeforeMonth, Nat.add_sub_cancel, found, Nat.add_comm]

theorem daysBeforeYear_lt_dayNumber : daysBeforeYear date.year < date.dayNumber := by
  have positive := date.day_pos
  unfold dayNumber
  omega

theorem dayNumber_le : date.dayNumber ≤ daysBeforeYear (date.year + 1) := by
  have within := date.day_le_monthSize
  have lastMonth := date.month_le
  have next := monthStart_succ date.monthIndex_ge
  have later : monthStart (date.monthIndex + 1) ≤ monthStart (12 * (date.year + 1)) := by
    refine monthStart_le (Nat.le_succ_of_le date.monthIndex_ge) ?_
    unfold monthIndex
    omega
  rw [monthStart_year] at later
  rw [dayNumber_eq]
  omega

theorem dayNumber_le_lastDayNumber : date.dayNumber ≤ lastDayNumber := by
  have within := date.year_le
  have later : monthStart (12 * (date.year + 1)) ≤ monthStart (12 * (lastYear + 1)) :=
    monthStart_le (by omega) (by omega)
  rw [monthStart_year, monthStart_year] at later
  exact Nat.le_trans date.dayNumber_le later

private theorem ofDayNumber?_dayNumber : ofDayNumber? date.dayNumber = some date := by
  have low : (1 : Int) ≤ date.dayNumber := by
    have after := date.daysBeforeYear_lt_dayNumber
    omega
  have high : (date.dayNumber : Int) ≤ lastDayNumber := by
    have within := date.dayNumber_le_lastDayNumber
    omega
  have year : yearOfDay date.dayNumber = date.year :=
    yearOfDay_eq date.year_pos date.daysBeforeYear_lt_dayNumber date.dayNumber_le
  have rest : date.dayNumber - daysBeforeYear date.year =
      daysBeforeMonth (isLeapYear date.year) date.month + date.day := by
    unfold dayNumber
    omega
  have inCalendar :
      (decide (1 ≤ (date.dayNumber : Int)) &&
        decide ((date.dayNumber : Int) ≤ lastDayNumber)) = true := by
    rw [decide_eq_true low, decide_eq_true high]
    rfl
  unfold ofDayNumber?
  rw [if_pos inCalendar]
  dsimp only
  rw [Int.toNat_natCast, year, rest, monthAndDay_date, ofFields_self]
  rfl

variable {date}

theorem ofDayNumber?_eq_some_iff {number : Int} :
    ofDayNumber? number = some date ↔ (date.dayNumber : Int) = number := by
  constructor
  · exact dayNumber_of_ofDayNumber?
  · rintro rfl
    exact date.ofDayNumber?_dayNumber

end Date

def Date.atHour (date : Date) (hour : Fin 24) : Instant :=
  { date := date
    micros := hour * 3600000000
    offset := 0
    micros_lt := by
      have within := hour.isLt
      unfold microsPerDay microsPerSecond
      omega }

namespace Instant

theorem offset_of_toUniversal {instant universal : Instant}
    (brought : instant.toUniversal = .ok universal) : universal.offset = 0 := by
  unfold toUniversal at brought
  cases found : ofLocalMicros? 0 instant.moment with
  | none =>
      rw [found] at brought
      cases brought
  | some other =>
      rw [found] at brought
      cases brought
      exact (localMicros_of_ofLocalMicros? found).2

theorem ofLocalMicros?_localMicros (instant : Instant) :
    ofLocalMicros? instant.offset instant.localMicros = some instant := by
  have positive : (0 : Int) < microsPerDay := by decide
  have within : (instant.micros : Int) < microsPerDay := Int.ofNat_lt.mpr instant.micros_lt
  have day : instant.localMicros / microsPerDay = instant.date.dayNumber := by
    unfold localMicros
    rw [Int.add_comm, Int.add_mul_ediv_right _ _ (Int.ne_of_gt positive),
      Int.ediv_eq_zero_of_lt (Int.natCast_nonneg _) within, Int.zero_add]
  have time : instant.localMicros % microsPerDay = instant.micros := by
    unfold localMicros
    rw [Int.add_comm, Int.add_mul_emod_self_right,
      Int.emod_eq_of_lt (Int.natCast_nonneg _) within]
  unfold ofLocalMicros?
  simp only [day, time, Date.ofDayNumber?_dayNumber, Option.map_some, Int.toNat_natCast]

variable {instant : Instant}

theorem moment_of_universal (universal : instant.offset = 0) :
    instant.moment = instant.localMicros := by
  unfold moment
  rw [universal, Int.zero_mul, Int.sub_zero]

theorem toUniversal_of_universal (universal : instant.offset = 0) :
    instant.toUniversal = .ok instant := by
  have found := instant.ofLocalMicros?_localMicros
  rw [universal] at found
  unfold toUniversal
  rw [moment_of_universal universal, found]

theorem universalDate_of_universal (universal : instant.offset = 0) :
    instant.universalDate = .ok instant.date.display := by
  unfold universalDate
  rw [toUniversal_of_universal universal]
  rfl

/-- Instants of one clock stand in the order of their dates and then of their times. -/
theorem moment_lt_iff {other : Instant} (sameClock : instant.offset = other.offset) :
    instant.moment < other.moment ↔
      instant.date.dayNumber < other.date.dayNumber ∨
        instant.date = other.date ∧ instant.micros < other.micros := by
  have within := instant.micros_lt
  have withinOther := other.micros_lt
  have sameDate : instant.date = other.date ↔
      instant.date.dayNumber = other.date.dayNumber :=
    ⟨fun same => by rw [same], Date.dayNumber_injective⟩
  rw [sameDate]
  unfold moment localMicros
  rw [sameClock]
  unfold microsPerDay microsPerSecond at *
  omega

theorem dayNumber_le {other : Instant} (sameClock : instant.offset = other.offset)
    (ordered : instant.moment ≤ other.moment) :
    instant.date.dayNumber ≤ other.date.dayNumber := by
  apply Nat.not_lt.mp
  intro turned
  exact Int.not_lt.mpr ordered ((moment_lt_iff sameClock.symm).mpr (.inl turned))

end Instant

end TableExport.Calendar
