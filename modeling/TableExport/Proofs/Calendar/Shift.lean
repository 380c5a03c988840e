import TableExport.Calendar.Period
import TableExport.Proofs.Calendar.DayNumber

/-!
Moving a date by months and then by days, said without any carrying: the month
moves along the row of months, the day stays or becomes the last one of a month
that is too short, and the days are counted from there. A period is such a move
by all of its months at once, however they are divided into years and months,
and adding it succeeds exactly when both dates of the move are in the calendar.
Moves keep the order of dates, but they may bring two dates together.
-/

set_option autoImplicit false

namespace TableExport.Calendar

namespace Date

/-- The date a count of months away, on the same day or on the last one of its month. -/
structure IsMonthsFrom (date : Date) (months : Int) (moved : Date) : Prop where
  month : (moved.monthIndex : Int) = date.monthIndex + months
  day : moved.day = min (monthLength (isLeapYear moved.year) moved.month) date.day

/-- The date a count of months and then a count of days away. -/
def IsShifted (date : Date) (months days : Int) (later : Date) : Prop :=
  ∃ moved, date.IsMonthsFrom months moved ∧ (later.dayNumber : Int) = moved.dayNumber + days

variable {date other moved otherMoved later otherLater : Date} {months days : Int}

/-! ### Moves by months -/

private theorem isMonthsFrom_zero (date : Date) : date.IsMonthsFrom 0 date :=
  ⟨(Int.add_zero _).symm, (Nat.min_eq_right date.day_le).symm⟩

theorem IsMonthsFrom.day_le (reached : date.IsMonthsFrom months moved) :
    moved.day ≤ date.day := by
  rw [reached.day]
  exact Nat.min_le_right _ _

theorem IsMonthsFrom.le (reached : date.IsMonthsFrom months moved)
    (reachedOther : other.IsMonthsFrom months otherMoved)
    (ordered : date.dayNumber ≤ other.dayNumber) :
    moved.dayNumber ≤ otherMoved.dayNumber := by
  have index := reached.month
  have otherIndex := reachedOther.month
  have fields := mt dayNumber_lt_iff.mpr (Nat.not_lt.mpr ordered)
  apply Nat.not_lt.mp
  intro turned
  rcases dayNumber_lt_iff.mp turned with earlierMonth | ⟨sameMonth, earlierDay⟩
  · omega
  · have year : otherMoved.year = moved.year := by
      rw [← monthIndex_div, sameMonth, monthIndex_div]
    have month : otherMoved.month = moved.month := by
      rw [← monthIndex_mod, sameMonth, monthIndex_mod]
    have dayReached := reached.day
    have otherDayReached := reachedOther.day
    rw [year, month] at otherDayReached
    omega

theorem IsMonthsFrom.unique (reached : date.IsMonthsFrom months moved)
    (reachedOther : date.IsMonthsFrom months otherMoved) : moved = otherMoved :=
  dayNumber_injective (Nat.le_antisymm (reached.le reachedOther (Nat.le_refl _))
    (reachedOther.le reached (Nat.le_refl _)))

/-- Dates that are apart stay apart, unless the later one has no such day in its month. -/
theorem IsMonthsFrom.lt_or_cut (reached : date.IsMonthsFrom months moved)
    (reachedOther : other.IsMonthsFrom months otherMoved)
    (ordered : date.dayNumber < other.dayNumber) :
    moved.dayNumber < otherMoved.dayNumber ∨ moved = otherMoved ∧ otherMoved.day < other.day := by
  rcases Nat.lt_or_eq_of_le (reached.le reachedOther (Nat.le_of_lt ordered)) with less | same
  · exact .inl less
  · have together := dayNumber_injective same
    subst together
    refine .inr ⟨rfl, ?_⟩
    have index := reached.month
    have otherIndex := reachedOther.month
    have day := reached.day_le
    rcases dayNumber_lt_iff.mp ordered with earlierMonth | ⟨_, earlierDay⟩
    · omega
    · omega

theorem IsMonthsFrom.eq_of_zero (reached : date.IsMonthsFrom 0 moved) : moved = date :=
  reached.unique date.isMonthsFrom_zero

private theorem IsMonthsFrom.day_eq (reached : date.IsMonthsFrom months moved) :
    moved.day = min (monthSize moved.monthIndex) date.day := by
  unfold monthSize
  rw [monthIndex_div, monthIndex_mod]
  exact reached.day

/-- From a day of a month to the same day of a later one, or to the last day instead. -/
theorem days_between_months {first second : Date} {count : Nat}
    (index : second.monthIndex = first.monthIndex + 1 + count)
    (day : second.day = min (monthSize second.monthIndex) first.day ∨
      first.day = min (monthSize first.monthIndex) second.day) :
    first.dayNumber + 28 * (count + 1) ≤ second.dayNumber ∧
      second.dayNumber ≤ first.dayNumber + 31 * (count + 1) := by
  have inCalendar : 12 ≤ first.monthIndex + 1 := Nat.le_succ_of_le first.monthIndex_ge
  -- the rest of the first month, whole months, and the days of the last one
  have next := monthStart_succ first.monthIndex_ge
  have whole := monthStart_add_bounds inCalendar count
  have left := monthSize_bounds first.monthIndex
  have entered := monthSize_bounds second.monthIndex
  have within := first.day_le_monthSize
  have withinSecond := second.day_le_monthSize
  rw [← index] at whole
  rw [dayNumber_eq, dayNumber_eq]
  omega

/-- A move by months takes between 28 and 31 days for each of them, either way. -/
theorem IsMonthsFrom.distance (reached : date.IsMonthsFrom months moved) :
    min (28 * months) (31 * months) ≤ (moved.dayNumber : Int) - date.dayNumber ∧
      (moved.dayNumber : Int) - date.dayNumber ≤ max (28 * months) (31 * months) := by
  have index := reached.month
  rcases Int.lt_trichotomy months 0 with backward | level | forward
  · have bounds : moved.dayNumber + 28 * ((-months - 1).toNat + 1) ≤ date.dayNumber ∧
        date.dayNumber ≤ moved.dayNumber + 31 * ((-months - 1).toNat + 1) :=
      days_between_months (by omega) (.inr reached.day_eq)
    omega
  · subst level
    rw [reached.eq_of_zero]
    omega
  · have bounds : date.dayNumber + 28 * ((months - 1).toNat + 1) ≤ moved.dayNumber ∧
        moved.dayNumber ≤ date.dayNumber + 31 * ((months - 1).toNat + 1) :=
      days_between_months (by omega) (.inl reached.day_eq)
    omega

/-! ### Moves by months and days -/

theorem IsShifted.unique (shifted : date.IsShifted months days later)
    (shiftedOther : date.IsShifted months days otherLater) : later = otherLater := by
  obtain ⟨moved, reached, counted⟩ := shifted
  obtain ⟨otherMoved, reachedOther, countedOther⟩ := shiftedOther
  rw [reached.unique reachedOther] at counted
  exact dayNumber_injective (by omega)

theorem IsShifted.le (shifted : date.IsShifted months days later)
    (shiftedOther : other.IsShifted months days otherLater)
    (ordered : date.dayNumber ≤ other.dayNumber) :
    later.dayNumber ≤ otherLater.dayNumber := by
  obtain ⟨moved, reached, counted⟩ := shifted
  obtain ⟨otherMoved, reachedOther, countedOther⟩ := shiftedOther
  have still := reached.le reachedOther ordered
  omega

theorem IsShifted.after (shifted : date.IsShifted months days later)
    (short : 0 < 28 * months + days) (long : 0 < 31 * months + days) :
    date.dayNumber < later.dayNumber := by
  obtain ⟨moved, reached, counted⟩ := shifted
  have distance := reached.distance
  omega

theorem IsShifted.not_after (shifted : date.IsShifted months days later)
    (short : 28 * months + days ≤ 0) (long : 31 * months + days ≤ 0) :
    later.dayNumber ≤ date.dayNumber := by
  obtain ⟨moved, reached, counted⟩ := shifted
  have distance := reached.distance
  omega

end Date

namespace Period

def totalMonths (period : Period) : Int :=
  12 * period.years + period.months

def oneMonth : Period := ⟨0, 1, 0, by decide⟩

theorem totalMonths_normalized (years months days : Int) :
    (normalized years months days).totalMonths = 12 * years + months := by
  have whole := Int.mul_tdiv_add_tmod months 12
  unfold totalMonths normalized
  dsimp only
  omega

theorem ofParts_ok {years months days : Int} {period : Period}
    (made : ofParts years months days = .ok period) :
    period.totalMonths = 12 * years + months ∧ period.days = days := by
  have same : period = normalized years months days := by
    unfold ofParts at made
    by_cases small : months.natAbs < 12
    · rw [if_pos small] at made
      exact (Except.ok.inj made).symm
    · rw [if_neg small] at made
      cases held : Number.Binary64.ofInt months with
      | error fault =>
          rw [held] at made
          cases made
      | ok value =>
          rw [held] at made
          exact (Except.ok.inj made).symm
  rw [same]
  exact ⟨totalMonths_normalized years months days, rfl⟩

theorem totalMonths_negated (period : Period) :
    period.negated.totalMonths = -period.totalMonths := by
  unfold totalMonths negated
  dsimp only
  omega

/-! ### Steps of an addition -/

/-- The month that a period leads to is the one that lies all of its months away. -/
theorem shiftedMonth_index (period : Period) (year : Nat) {month : Nat} (positive : 1 ≤ month)
    (within : month ≤ 12) :
    1 ≤ (period.shiftedMonth year month).2 ∧ (period.shiftedMonth year month).2 ≤ 12 ∧
      12 * (period.shiftedMonth year month).1 + ((period.shiftedMonth year month).2 : Int) =
        12 * year + month + period.totalMonths := by
  have carried := period.months_lt
  unfold shiftedMonth totalMonths
  dsimp only
  by_cases beyond : 12 < (month : Int) + period.months
  · rw [if_pos beyond]
    omega
  · rw [if_neg beyond]
    by_cases before : (month : Int) + period.months < 1
    · rw [if_pos before]
      omega
    · rw [if_neg before]
      omega

private theorem checkedYear_ok_iff {year : Int} {checked : Nat} :
    checkedYear year = .ok checked ↔ (checked : Int) = year ∧ 1 ≤ checked ∧ checked ≤ lastYear := by
  have word : wordBound = 9223372036854775808 := rfl
  have halfWord : halfWordBound = 2147483648 := rfl
  have last : lastYear = 9999 := rfl
  unfold checkedYear
  simp only [Bool.or_eq_true, decide_eq_true_eq]
  constructor
  · intro accepted
    split at accepted
    · cases accepted
    · split at accepted
      · cases accepted
      · split at accepted
        · cases accepted
        · split at accepted
          · cases accepted
          · cases accepted
            omega
  · rintro ⟨rfl, positive, within⟩
    rw [if_neg (by omega), if_neg (by omega), if_neg (by omega), if_neg (by omega)]
    rfl

private theorem checkedDays_ok_iff {days checked : Int} :
    checkedDays days = .ok checked ↔ checked = days ∧ days.natAbs ≤ 999999999 := by
  have halfWord : halfWordBound = 2147483648 := rfl
  unfold checkedDays
  simp only [Bool.or_eq_true, decide_eq_true_eq]
  constructor
  · intro accepted
    split at accepted
    · cases accepted
    · split at accepted
      · cases accepted
      · cases accepted
        omega
  · rintro ⟨rfl, within⟩
    rw [if_neg (by omega), if_neg (by omega)]

/-! ### Additions -/

variable {period : Period} {date moved : Date} {instant later : Instant}

private theorem movedDate_ok_iff :
    period.movedDate date = .ok moved ↔ date.IsMonthsFrom period.totalMonths moved := by
  obtain ⟨positive, within, index⟩ :=
    period.shiftedMonth_index date.year date.month_pos date.month_le
  have monthPositive := date.month_pos
  unfold movedDate
  simp only [Sequence.bind_ok_iff, checkedYear_ok_iff, Sequence.mapError_ok_iff]
  constructor
  · rintro ⟨year, ⟨sameYear, _, _⟩, made⟩
    obtain ⟨movedYear, movedMonth, movedDay⟩ := Date.ofFields_ok made
    refine ⟨?_, ?_⟩
    · unfold Date.monthIndex
      omega
    · rw [movedYear, movedMonth, movedDay, sameYear]
  · intro reached
    have sameIndex := reached.month
    have movedPositive := moved.month_pos
    have movedWithin := moved.month_le
    unfold Date.monthIndex at sameIndex
    have year : (period.shiftedMonth date.year date.month).1 = moved.year := by omega
    have month : (period.shiftedMonth date.year date.month).2 = moved.month := by omega
    refine ⟨moved.year, ⟨year.symm, moved.year_pos, moved.year_le⟩, ?_⟩
    rw [year, month, ← reached.day]
    exact moved.ofFields_self

/-- A period is added exactly when its move stays in the calendar. -/
theorem addedTo_ok_iff :
    period.addedTo instant = .ok later ↔
      instant.date.IsShifted period.totalMonths period.days later.date ∧
        later.micros = instant.micros ∧ later.offset = instant.offset := by
  unfold addedTo
  simp only [Sequence.bind_ok_iff, movedDate_ok_iff, checkedDays_ok_iff]
  constructor
  · rintro ⟨moved, reached, days, ⟨rfl, _⟩, found⟩
    cases day : Date.ofDayNumber? (moved.dayNumber + period.days) with
    | none =>
        rw [day] at found
        cases found
    | some date =>
        rw [day] at found
        cases found
        exact ⟨⟨moved, reached, Date.ofDayNumber?_eq_some_iff.mp day⟩, rfl, rfl⟩
  · rintro ⟨⟨moved, reached, counted⟩, sameTime, sameClock⟩
    have day := Date.ofDayNumber?_eq_some_iff.mpr counted
    -- both dates are in the calendar, so the days between them can be counted
    have start := moved.dayNumber_le_lastDayNumber
    have stop := later.date.dayNumber_le_lastDayNumber
    have last : Date.lastDayNumber = 3652059 := rfl
    refine ⟨moved, reached, period.days, ⟨rfl, by omega⟩, ?_⟩
    rw [day]
    cases later
    cases sameTime
    cases sameClock
    rfl

end Period

end TableExport.Calendar
