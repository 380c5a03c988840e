import TableExport.Calendar.Date

/-!
The months of the calendar in one row, numbered through from the year zero. A
month begins a known number of days after the calendar does, and the next one
begins when its days are over. A date is therefore fixed by its month and its
day, and dates stand in the order of their months and then of their days. Years
below 1 are not in the calendar, and nothing is said about their months.
-/

set_option autoImplicit false

namespace TableExport.Calendar

theorem monthLength_bounds (leap : Bool) {month : Nat} (positive : 1 ≤ month)
    (within : month ≤ 12) : 28 ≤ monthLength leap month ∧ monthLength leap month ≤ 31 := by
  have all : ∀ leap, ∀ month < 13, 1 ≤ month →
      28 ≤ monthLength leap month ∧ monthLength leap month ≤ 31 := by
    decide
  exact all leap month (Nat.lt_succ_of_le within) positive

namespace Date

private theorem daysBeforeYear_succ {year : Nat} (positive : 1 ≤ year) :
    daysBeforeYear (year + 1) =
      daysBeforeYear year + if isLeapYear year then 366 else 365 := by
  obtain ⟨passed, rfl⟩ : ∃ passed, year = passed + 1 := ⟨year - 1, by omega⟩
  -- the centuries are taken away in natural numbers, so they must not exceed the rest
  have centuries : passed / 100 ≤ 365 * passed + passed / 4 := by omega
  unfold daysBeforeYear isLeapYear
  rw [Nat.add_sub_cancel, Nat.add_sub_cancel, Nat.succ_div, Nat.succ_div, Nat.succ_div]
  simp only [Bool.and_eq_true, Bool.or_eq_true, beq_iff_eq, bne_iff_ne]
  by_cases fourth : 4 ∣ passed + 1
  · by_cases century : 100 ∣ passed + 1
    · by_cases cycle : 400 ∣ passed + 1
      · rw [if_pos fourth, if_pos century, if_pos cycle, if_pos (by omega)]
        omega
      · rw [if_pos fourth, if_pos century, if_neg cycle, if_neg (by omega)]
        omega
    · rw [if_pos fourth, if_neg century, if_neg (by omega), if_pos (by omega)]
      omega
  · rw [if_neg fourth, if_neg (by omega), if_neg (by omega), if_neg (by omega)]
    omega

/-- Up to less than two years, the days before a year are a fixed share of a cycle. -/
theorem daysBeforeYear_bounds (passed : Nat) :
    400 * daysBeforeYear (passed + 1) ≤ 146097 * passed + 396 ∧
      146097 * passed ≤ 400 * daysBeforeYear (passed + 1) + 699 := by
  unfold daysBeforeYear
  rw [Nat.add_sub_cancel]
  omega

private theorem daysBeforeMonth_succ (leap : Bool) {month : Nat} (positive : 1 ≤ month)
    (within : month ≤ 12) :
    daysBeforeMonth leap (month + 1) = daysBeforeMonth leap month + monthLength leap month := by
  have all : ∀ leap, ∀ month < 13, 1 ≤ month →
      daysBeforeMonth leap (month + 1) =
        daysBeforeMonth leap month + monthLength leap month := by
    decide
  exact all leap month (Nat.lt_succ_of_le within) positive

private theorem daysBeforeMonth_thirteen (leap : Bool) :
    daysBeforeMonth leap 13 = if leap then 366 else 365 := by
  cases leap <;> decide

def monthIndex (date : Date) : Nat :=
  12 * date.year + (date.month - 1)

def monthStart (index : Nat) : Nat :=
  daysBeforeYear (index / 12) +
    daysBeforeMonth (isLeapYear (index / 12 : Nat)) (index % 12 + 1)

def monthSize (index : Nat) : Nat :=
  monthLength (isLeapYear (index / 12 : Nat)) (index % 12 + 1)

theorem monthStart_year (year : Nat) : monthStart (12 * year) = daysBeforeYear year := by
  unfold monthStart
  rw [Nat.mul_div_cancel_left _ (by decide), Nat.mul_mod_right]
  rfl

theorem monthStart_succ {index : Nat} (inCalendar : 12 ≤ index) :
    monthStart (index + 1) = monthStart index + monthSize index := by
  unfold monthStart monthSize
  by_cases december : index % 12 = 11
  · have year : (index + 1) / 12 = index / 12 + 1 := by omega
    have month : (index + 1) % 12 = 0 := by omega
    have first (leap : Bool) : daysBeforeMonth leap (0 + 1) = 0 := rfl
    have last (leap : Bool) :
        daysBeforeMonth leap (11 + 1) + monthLength leap (11 + 1) =
          if leap then 366 else 365 := by
      rw [← daysBeforeMonth_thirteen]
      exact (daysBeforeMonth_succ leap (by decide) (by decide)).symm
    rw [year, month, december, daysBeforeYear_succ (by omega), first, ← last]
    omega
  · have year : (index + 1) / 12 = index / 12 := by omega
    have month : (index + 1) % 12 = index % 12 + 1 := by omega
    rw [year, month, daysBeforeMonth_succ _ (by omega) (by omega)]
    omega

theorem monthSize_bounds (index : Nat) : 28 ≤ monthSize index ∧ monthSize index ≤ 31 :=
  monthLength_bounds _ (by omega) (by omega)

theorem monthStart_add_bounds {index : Nat} (inCalendar : 12 ≤ index) (count : Nat) :
    monthStart index + 28 * count ≤ monthStart (index + count) ∧
      monthStart (index + count) ≤ monthStart index + 31 * count := by
  induction count with
  | zero => exact ⟨Nat.le_refl _, Nat.le_refl _⟩
  | succ count inductionHypothesis =>
      have size := monthSize_bounds (index + count)
      rw [← Nat.add_assoc, monthStart_succ (by omega)]
      omega

theorem monthStart_le {first second : Nat} (inCalendar : 12 ≤ first)
    (ordered : first ≤ second) : monthStart first ≤ monthStart second := by
  obtain ⟨count, rfl⟩ := Nat.exists_eq_add_of_le ordered
  have bounds := monthStart_add_bounds inCalendar count
  omega

variable (date : Date)

theorem monthIndex_div : date.monthIndex / 12 = date.year := by
  have within := date.month_le
  unfold monthIndex
  omega

theorem monthIndex_mod : date.monthIndex % 12 + 1 = date.month := by
  have positive := date.month_pos
  have within := date.month_le
  unfold monthIndex
  omega

theorem monthIndex_ge : 12 ≤ date.monthIndex := by
  have positive := date.year_pos
  unfold monthIndex
  omega

theorem day_le_monthSize : date.day ≤ monthSize date.monthIndex := by
  unfold monthSize
  rw [monthIndex_div, monthIndex_mod]
  exact date.day_le

theorem dayNumber_eq : date.dayNumber = monthStart date.monthIndex + date.day := by
  unfold monthStart dayNumber
  rw [monthIndex_div, monthIndex_mod]

variable {date}

private theorem eq_of_monthIndex {other : Date} (sameMonth : date.monthIndex = other.monthIndex)
    (sameDay : date.day = other.day) : date = other := by
  have year : date.year = other.year := by
    rw [← monthIndex_div, sameMonth, monthIndex_div]
  have month : date.month = other.month := by
    rw [← monthIndex_mod, sameMonth, monthIndex_mod]
  cases date
  cases other
  cases year
  cases month
  cases sameDay
  rfl

theorem dayNumber_lt_of_monthIndex_lt {other : Date}
    (earlier : date.monthIndex < other.monthIndex) : date.dayNumber < other.dayNumber := by
  have within := date.day_le_monthSize
  have positive := other.day_pos
  have next := monthStart_succ date.monthIndex_ge
  have later : monthStart (date.monthIndex + 1) ≤ monthStart other.monthIndex :=
    monthStart_le (Nat.le_succ_of_le date.monthIndex_ge) earlier
  rw [dayNumber_eq, dayNumber_eq]
  omega

theorem dayNumber_lt_iff {other : Date} :
    date.dayNumber < other.dayNumber ↔
      date.monthIndex < other.monthIndex ∨
        date.monthIndex = other.monthIndex ∧ date.day < other.day := by
  rcases Nat.lt_trichotomy date.monthIndex other.monthIndex with less | same | greater
  · exact iff_of_true (dayNumber_lt_of_monthIndex_lt less) (.inl less)
  · rw [dayNumber_eq, dayNumber_eq, same]
    omega
  · have after := dayNumber_lt_of_monthIndex_lt greater
    omega

theorem dayNumber_injective {other : Date} (same : date.dayNumber = other.dayNumber) :
    date = other := by
  have notBefore := mt dayNumber_lt_iff.mpr (Nat.not_lt_of_ge (Nat.le_of_eq same.symm))
  have notAfter := mt dayNumber_lt_iff.mpr (Nat.not_lt_of_ge (Nat.le_of_eq same))
  exact eq_of_monthIndex (by omega) (by omega)

end Date

end TableExport.Calendar
