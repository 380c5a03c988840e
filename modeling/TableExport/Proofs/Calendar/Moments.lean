import TableExport.Proofs.Calendar.DayNumber

/-!
The moments that the clock of universal time can show. Every day number from the
first day of the calendar to its last has a date, so an instant can be brought to
universal time exactly when its moment lies between the start of the one and the
end of the other. Other clocks show the same moments, and are not considered.
-/

set_option autoImplicit false

namespace TableExport.Calendar

namespace Date

private theorem exists_of_month {index day : Nat} (low : 12 ≤ index)
    (high : index < 12 * (lastYear + 1))
    (positive : 1 ≤ day) (within : day ≤ monthSize index) :
    ∃ date : Date, date.monthIndex = index ∧ date.day = day := by
  have last : lastYear = 9999 := rfl
  refine ⟨⟨index / 12, index % 12 + 1, day, by omega, by omega, Nat.succ_pos _, by omega,
    positive, within⟩, ?_, rfl⟩
  exact Nat.div_add_mod index 12

theorem exists_month {number : Nat} (positive : 1 ≤ number) (count : Nat)
    (within : number ≤ monthStart (12 + count)) :
    ∃ index, 12 ≤ index ∧ index < 12 + count ∧ monthStart index < number ∧
      number ≤ monthStart (index + 1) := by
  induction count with
  | zero =>
      have start : monthStart (12 + 0) = 0 := rfl
      omega
  | succ count inductionHypothesis =>
      rcases Nat.lt_or_ge (monthStart (12 + count)) number with after | before
      · exact ⟨12 + count, by omega, by omega, after, within⟩
      · obtain ⟨index, low, high, found⟩ := inductionHypothesis before
        exact ⟨index, low, by omega, found⟩

theorem exists_dayNumber {number : Nat} (positive : 1 ≤ number)
    (within : number ≤ lastDayNumber) : ∃ date : Date, date.dayNumber = number := by
  have stop : lastDayNumber = monthStart (12 + 12 * lastYear) :=
    (monthStart_year (lastYear + 1)).symm
  rw [stop] at within
  obtain ⟨index, low, high, after, before⟩ := exists_month positive _ within
  rw [monthStart_succ low] at before
  obtain ⟨date, month, day⟩ :=
    exists_of_month low (by omega) (Nat.sub_pos_of_lt after) (Nat.sub_le_iff_le_add'.mpr before)
  refine ⟨date, ?_⟩
  rw [dayNumber_eq, month, day]
  omega

theorem ofFields_ok_iff {year month day : Nat} {date : Date} :
    ofFields year month day = .ok date ↔
      date.year = year ∧ date.month = month ∧ date.day = day := by
  constructor
  · exact ofFields_ok
  · rintro ⟨rfl, rfl, rfl⟩
    exact date.ofFields_self

def first : Date :=
  (ofFields 1 1 1).toOption.get (by decide)

def last : Date :=
  (ofFields 9999 12 31).toOption.get (by decide)

theorem eq_first_iff {date : Date} : date = first ↔ date.dayNumber = 1 := by
  have number : first.dayNumber = 1 := rfl
  rw [← number]
  exact ⟨fun same => by rw [same], dayNumber_injective⟩

theorem eq_last_iff {date : Date} : date = last ↔ date.dayNumber = lastDayNumber := by
  have number : last.dayNumber = lastDayNumber := rfl
  rw [← number]
  exact ⟨fun same => by rw [same], dayNumber_injective⟩

end Date

namespace Instant

/-- A moment that the clock of universal time can show: from the start of the first day to
the end of the last. -/
def InCalendar (moment : Int) : Prop :=
  (microsPerDay : Int) ≤ moment ∧ moment < (Date.lastDayNumber + 1) * microsPerDay

variable {instant universal : Instant}

theorem exists_universal_iff {moment : Int} :
    (∃ universal : Instant, universal.offset = 0 ∧ universal.moment = moment) ↔
      InCalendar moment := by
  constructor
  · rintro ⟨universal, clock, rfl⟩
    have time := universal.micros_lt
    have number := universal.date.dayNumber_le_lastDayNumber
    have started := universal.date.daysBeforeYear_lt_dayNumber
    rw [moment_of_universal clock]
    unfold InCalendar localMicros
    unfold microsPerDay microsPerSecond at *
    omega
  · rintro ⟨low, high⟩
    have day : microsPerDay = 86400000000 := rfl
    rw [day] at low high
    obtain ⟨date, number⟩ : ∃ date : Date, date.dayNumber = (moment / 86400000000).toNat :=
      Date.exists_dayNumber (by omega) (by omega)
    refine ⟨⟨date, (moment % 86400000000).toNat, 0, by omega⟩, rfl, ?_⟩
    rw [moment_of_universal rfl]
    unfold localMicros
    dsimp only
    rw [number, day]
    omega

theorem toUniversal_ok_iff :
    instant.toUniversal = .ok universal ↔
      universal.offset = 0 ∧ universal.moment = instant.moment := by
  constructor
  · intro brought
    exact ⟨offset_of_toUniversal brought, moment_of_toUniversal brought⟩
  · rintro ⟨clock, same⟩
    have found := universal.ofLocalMicros?_localMicros
    rw [clock, ← moment_of_universal clock, same] at found
    unfold toUniversal
    rw [found]

theorem toUniversal_error_iff {fault : Fault} :
    instant.toUniversal = .error fault ↔
      fault = .beyondCalendar ∧ ¬ InCalendar instant.moment := by
  rw [← exists_universal_iff]
  constructor
  · intro failed
    refine ⟨?_, ?_⟩
    · unfold toUniversal at failed
      split at failed
      · cases failed
      · exact (Except.error.inj failed).symm
    · rintro ⟨universal, clock, same⟩
      rw [toUniversal_ok_iff.mpr ⟨clock, same⟩] at failed
      cases failed
  · rintro ⟨rfl, outside⟩
    unfold toUniversal
    split
    next universal found =>
      obtain ⟨same, clock⟩ := localMicros_of_ofLocalMicros? found
      exact absurd ⟨universal, clock, (moment_of_universal clock).trans same⟩ outside
    next => rfl

theorem ofFields_ok_iff {found : Except FieldFault Date} {hour minute second : Nat}
    {offset : Int} :
    ofFields found hour minute second offset = .ok instant ↔
      found = .ok instant.date ∧ hour < 24 ∧ minute < 60 ∧ second < 60 ∧
        instant.micros = ((hour * 60 + minute) * 60 + second) * microsPerSecond ∧
        instant.offset = offset := by
  unfold ofFields
  rw [Sequence.bind_ok_iff]
  constructor
  · rintro ⟨date, rfl, made⟩
    by_cases hours : hour < 24
    · rw [dif_pos hours] at made
      by_cases minutes : minute < 60
      · rw [dif_pos minutes] at made
        by_cases seconds : second < 60
        · rw [dif_pos seconds] at made
          cases made
          exact ⟨rfl, hours, minutes, seconds, rfl, rfl⟩
        · rw [dif_neg seconds] at made
          cases made
      · rw [dif_neg minutes] at made
        cases made
    · rw [dif_neg hours] at made
      cases made
  · rintro ⟨rfl, hours, minutes, seconds, time, clock⟩
    refine ⟨instant.date, rfl, ?_⟩
    rw [dif_pos hours, dif_pos minutes, dif_pos seconds]
    cases instant
    cases time
    cases clock
    rfl

end Instant

end TableExport.Calendar
