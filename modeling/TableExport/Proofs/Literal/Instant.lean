import TableExport.Proofs.Calendar.Moments
import TableExport.Proofs.Literal.InstantText

/-!
The instants that literals name. The fields of the one reading of a literal must
be those of a date and of a time of day, and the offset at most eighteen hours;
the instant is then the moment of these fields less the offset, as far as the
clock of universal time can show it. A literal that names nothing is handed back
in the fault. A literal that names a moment beyond the calendar is not: its fault
holds no literal, and this is the only other way to fail.
-/

set_option autoImplicit false

namespace TableExport.Literal

open TableExport.Text
open TableExport.Calendar

/-! ### What fields name -/

namespace Offset

structure IsAdmissible (offset : Offset) : Prop where
  minutes_le : offset.minutes ≤ 59
  seconds_le : offset.seconds ≤ 59
  size_le : (offset.hours * 60 + offset.minutes) * 60 + offset.seconds ≤ 18 * 3600

/-- The seconds by which a clock with the offset is ahead of universal time. -/
def lead (offset : Offset) : Int :=
  if offset.negative then
    -(((offset.hours * 60 + offset.minutes) * 60 + offset.seconds : Nat) : Int)
  else ((offset.hours * 60 + offset.minutes) * 60 + offset.seconds : Nat)

end Offset

namespace PartialInstant

/-- Fields that are those of a date and of a time of day; a month or a day that is missing
is the first, and a missing hour, minute or second is zero. -/
structure Names (fields : PartialInstant) (date : Date) : Prop where
  year : date.year = fields.year
  month : date.month = fields.later.getD 0 1
  day : date.day = fields.later.getD 1 1
  hour : fields.later.getD 2 0 < 24
  minute : fields.later.getD 3 0 < 60
  second : fields.later.getD 4 0 < 60

def clock (fields : PartialInstant) : Nat :=
  (fields.later.getD 2 0 * 60 + fields.later.getD 3 0) * 60 + fields.later.getD 4 0

/-- The moment of the fields on a date, which is earlier by what the clock is ahead. -/
def momentOn (fields : PartialInstant) (date : Date) : Int :=
  (date.dayNumber : Int) * microsPerDay + (fields.clock - fields.offset.lead) * microsPerSecond

end PartialInstant

def NamesMoment (literal : String) (moment : Int) : Prop :=
  ∃ fields date, IsReading (strip literal.toList) fields ∧ fields.Names date ∧
    fields.offset.IsAdmissible ∧ moment = fields.momentOn date

theorem namesMoment_iff {literal : String} {fields : PartialInstant} {moment : Int}
    (reading : IsReading (strip literal.toList) fields) :
    NamesMoment literal moment ↔
      ∃ date, fields.Names date ∧ fields.offset.IsAdmissible ∧ moment = fields.momentOn date := by
  constructor
  · rintro ⟨other, date, otherReading, named⟩
    cases reading.eq_of_same otherReading
    exact ⟨date, named⟩
  · rintro ⟨date, named⟩
    exact ⟨fields, date, reading, named⟩

/-! ### The first instant of fields -/

namespace PartialInstant

variable {fields : PartialInstant}

private theorem offsetSeconds_ok_iff {lead : Int} :
    fields.offsetSeconds = .ok lead ↔ fields.offset.IsAdmissible ∧ lead = fields.offset.lead := by
  unfold offsetSeconds
  dsimp only
  constructor
  · intro found
    split at found
    · cases found
    next shaped =>
      simp only [Bool.or_eq_true, decide_eq_true_eq, not_or, Nat.not_lt] at shaped
      split at found
      · cases found
      next small =>
        exact ⟨⟨shaped.1, shaped.2, Nat.not_lt.mp small⟩, (Except.ok.inj found).symm⟩
  · rintro ⟨admissible, rfl⟩
    have minutes := admissible.minutes_le
    have seconds := admissible.seconds_le
    rw [if_neg, if_neg (Nat.not_lt.mpr admissible.size_le)]
    · rfl
    · simp only [Bool.or_eq_true, decide_eq_true_eq, not_or, Nat.not_lt]
      exact ⟨minutes, seconds⟩

private theorem firstInstant_ok_iff {written : Instant} :
    fields.firstInstant = .ok written ↔
      fields.Names written.date ∧ fields.offset.IsAdmissible ∧
        written.micros = fields.clock * microsPerSecond ∧ written.offset = fields.offset.lead := by
  unfold firstInstant
  simp only [Sequence.bind_ok_iff, offsetSeconds_ok_iff, Instant.ofFields_ok_iff,
    Date.ofFields_ok_iff]
  constructor
  · rintro ⟨lead, ⟨admissible, rfl⟩, ⟨year, month, day⟩, hour, minute, second, time, clock⟩
    exact ⟨⟨year, month, day, hour, minute, second⟩, admissible, time, clock⟩
  · rintro ⟨names, admissible, time, clock⟩
    exact ⟨_, ⟨admissible, rfl⟩, ⟨names.year, names.month, names.day⟩, names.hour, names.minute,
      names.second, time, clock⟩

private theorem clock_lt {date : Date} (names : fields.Names date) : fields.clock < 86400 := by
  have hour := names.hour
  have minute := names.minute
  have second := names.second
  unfold clock
  omega

private theorem Names.date_eq {date other : Date} (names : fields.Names date)
    (namesOther : fields.Names other) : date = other := by
  have made := Date.ofFields_ok_iff.mpr ⟨names.year, names.month, names.day⟩
  rw [Date.ofFields_ok_iff.mpr ⟨namesOther.year, namesOther.month, namesOther.day⟩] at made
  exact (Except.ok.inj made).symm

private theorem exists_firstInstant {date : Date} (names : fields.Names date)
    (admissible : fields.offset.IsAdmissible) :
    ∃ written, fields.firstInstant = .ok written := by
  have time : fields.clock * microsPerSecond < microsPerDay :=
    Nat.mul_lt_mul_of_pos_right (clock_lt names) (by decide)
  exact ⟨⟨date, fields.clock * microsPerSecond, fields.offset.lead, time⟩,
    firstInstant_ok_iff.mpr ⟨names, admissible, rfl, rfl⟩⟩

private theorem moment_of_firstInstant {written : Instant}
    (found : fields.firstInstant = .ok written) :
    written.moment = fields.momentOn written.date := by
  obtain ⟨_, _, time, clock⟩ := firstInstant_ok_iff.mp found
  unfold Instant.moment Instant.localMicros momentOn
  rw [time, clock, Int.natCast_mul, Int.sub_mul]
  omega

/-- Fields that name a moment beyond the calendar name a time of its first day from which
the offset leads back, or one of its last day from which the offset leads on. -/
theorem not_inCalendar_iff {date : Date} (names : fields.Names date)
    (admissible : fields.offset.IsAdmissible) :
    ¬ Instant.InCalendar (fields.momentOn date) ↔
      date = .first ∧ (fields.clock : Int) < fields.offset.lead ∨
        date = .last ∧ 86400 ≤ (fields.clock : Int) - fields.offset.lead := by
  have time := clock_lt names
  have size : fields.offset.lead.natAbs ≤ 18 * 3600 := by
    have bound := admissible.size_le
    unfold Offset.lead
    split
    · omega
    · omega
  have started := date.daysBeforeYear_lt_dayNumber
  have ended := date.dayNumber_le_lastDayNumber
  rw [Date.eq_first_iff, Date.eq_last_iff]
  unfold Instant.InCalendar momentOn
  unfold microsPerDay microsPerSecond
  omega

end PartialInstant

/-! ### Readings -/

/-- A literal is refused with itself in the fault, or it names the one moment of an instant
that is left to be brought to universal time. -/
theorem readInstant_cases (literal : String) :
    (∃ cause, readInstant (some literal) = .error (.literal ⟨some literal, cause⟩) ∧
      ∀ moment, ¬ NamesMoment literal moment) ∨
    ∃ written : Instant,
      readInstant (some literal) = written.toUniversal.mapError .calendar ∧
        ∀ moment, NamesMoment literal moment ↔ moment = written.moment := by
  cases found : PartialInstant.read? (strip literal.toList) with
  | none =>
      refine .inl ⟨.unreadable .instant, ?_, ?_⟩
      · simp only [readInstant, found]
      · rintro moment ⟨fields, _, reading, _⟩
        rw [PartialInstant.read?_eq_some_iff.mpr reading] at found
        cases found
  | some fields =>
      have reading := PartialInstant.read?_eq_some_iff.mp found
      cases first : fields.firstInstant with
      | error fault =>
          refine .inl ⟨.impossible fault, ?_, ?_⟩
          · simp only [readInstant, found, first]
          · intro moment named
            obtain ⟨date, names, admissible, _⟩ := (namesMoment_iff reading).mp named
            obtain ⟨written, made⟩ := PartialInstant.exists_firstInstant names admissible
            rw [first] at made
            cases made
      | ok written =>
          obtain ⟨names, admissible, _, _⟩ := PartialInstant.firstInstant_ok_iff.mp first
          have moment := PartialInstant.moment_of_firstInstant first
          refine .inr ⟨written, ?_, ?_⟩
          · simp only [readInstant, found, first]
          · intro other
            rw [namesMoment_iff reading, moment]
            constructor
            · rintro ⟨date, otherNames, _, rfl⟩
              rw [otherNames.date_eq names]
            · rintro rfl
              exact ⟨written.date, names, admissible, rfl⟩

theorem readInstant_ok_iff {literal : String} {instant : Instant} :
    readInstant (some literal) = .ok instant ↔
      instant.offset = 0 ∧ NamesMoment literal instant.moment := by
  rcases readInstant_cases literal with ⟨cause, refused, unnamed⟩ | ⟨written, read, named⟩
  · rw [refused]
    constructor
    · intro impossible
      cases impossible
    · rintro ⟨_, names⟩
      exact absurd names (unnamed _)
  · rw [read, Sequence.mapError_ok_iff, Instant.toUniversal_ok_iff, named]

/-- What fails without holding the literal names a moment beyond the calendar. -/
theorem readInstant_calendar_iff {literal : String} {fault : Calendar.Fault} :
    readInstant (some literal) = .error (.calendar fault) ↔
      fault = .beyondCalendar ∧
        ∃ moment, NamesMoment literal moment ∧ ¬ Instant.InCalendar moment := by
  rcases readInstant_cases literal with ⟨cause, refused, unnamed⟩ | ⟨written, read, named⟩
  · rw [refused]
    constructor
    · intro impossible
      cases impossible
    · rintro ⟨_, moment, names, _⟩
      exact absurd names (unnamed moment)
  · rw [read]
    constructor
    · intro failed
      cases brought : written.toUniversal with
      | ok universal =>
          rw [brought] at failed
          cases failed
      | error other =>
          rw [brought] at failed
          cases failed
          obtain ⟨beyond, outside⟩ := Instant.toUniversal_error_iff.mp brought
          exact ⟨beyond, written.moment, (named _).mpr rfl, outside⟩
    · rintro ⟨beyond, moment, names, outside⟩
      rw [(named moment).mp names] at outside
      rw [Instant.toUniversal_error_iff.mpr ⟨beyond, outside⟩]
      rfl

/-- The instant that is read is the one in universal time whose moment the literal names, and
one is read whenever the literal names a moment of the calendar. -/
theorem readInstant_reads_named_moment (literal : String) :
    (∀ instant, readInstant (some literal) = .ok instant ↔
      instant.offset = 0 ∧ NamesMoment literal instant.moment) ∧
    ((∃ instant, readInstant (some literal) = .ok instant) ↔
      ∃ moment, NamesMoment literal moment ∧ Instant.InCalendar moment) := by
  refine ⟨fun instant => readInstant_ok_iff, ?_⟩
  constructor
  · rintro ⟨instant, read⟩
    obtain ⟨clock, names⟩ := readInstant_ok_iff.mp read
    exact ⟨instant.moment, names, Instant.exists_universal_iff.mp ⟨instant, clock, rfl⟩⟩
  · rintro ⟨moment, names, inside⟩
    obtain ⟨instant, clock, rfl⟩ := Instant.exists_universal_iff.mpr inside
    exact ⟨instant, readInstant_ok_iff.mpr ⟨clock, names⟩⟩

/-! ### Outcomes -/

/-- Reading gives an instant in universal time, or a fault that holds the text, or fails for a
literal whose fields and offset are sound but lead out of the calendar: back from a time of its
first day, or on from a time of its last. -/
theorem readInstant_outcome (text : Option String) :
    ((∃ instant, readInstant text = .ok instant ∧ instant.offset = 0) ∨
      (∃ cause, readInstant text = .error (.literal ⟨text, cause⟩)) ∨
      readInstant text = .error (.calendar .beyondCalendar)) ∧
    (readInstant text = .error (.calendar .beyondCalendar) ↔
      ∃ literal fields date, text = some literal ∧ IsReading (strip literal.toList) fields ∧
        fields.Names date ∧ fields.offset.IsAdmissible ∧
          (date = .first ∧ (fields.clock : Int) < fields.offset.lead ∨
            date = .last ∧ 86400 ≤ (fields.clock : Int) - fields.offset.lead)) := by
  cases text with
  | none =>
      refine ⟨.inr (.inl ⟨_, rfl⟩), ?_⟩
      constructor
      · intro impossible
        cases impossible
      · rintro ⟨literal, fields, date, impossible, _⟩
        cases impossible
  | some literal =>
      refine ⟨?_, ?_⟩
      · rcases readInstant_cases literal with ⟨cause, refused, _⟩ | ⟨written, read, _⟩
        · exact .inr (.inl ⟨cause, refused⟩)
        · rw [read]
          cases brought : written.toUniversal with
          | ok universal =>
              exact .inl ⟨universal, rfl, Instant.offset_of_toUniversal brought⟩
          | error fault =>
              obtain ⟨rfl, _⟩ := Instant.toUniversal_error_iff.mp brought
              exact .inr (.inr rfl)
      · rw [readInstant_calendar_iff]
        constructor
        · rintro ⟨_, moment, ⟨fields, date, reading, names, admissible, rfl⟩, outside⟩
          exact ⟨literal, fields, date, rfl, reading, names, admissible,
            (PartialInstant.not_inCalendar_iff names admissible).mp outside⟩
        · rintro ⟨other, fields, date, same, reading, names, admissible, atEdge⟩
          cases same
          exact ⟨rfl, _, ⟨fields, date, reading, names, admissible, rfl⟩,
            (PartialInstant.not_inCalendar_iff names admissible).mpr atEdge⟩

/-- An hour ahead of universal time, the first midnight of the calendar is not in it. -/
theorem first_midnight_beyond_calendar :
    readInstant (some "0001-01-01T00:00:00+01:00") = .error (.calendar .beyondCalendar) := by
  have reading : IsReading (strip "0001-01-01T00:00:00+01:00".toList)
      ⟨1, [1, 1, 0, 0, 0], ⟨false, 1, 0, 0⟩, "+01:00".toList⟩ :=
    PartialInstant.read?_eq_some_iff.mp (by decide +kernel)
  refine readInstant_calendar_iff.mpr ⟨rfl, _, ⟨_, .first, reading, ?_, ?_, rfl⟩, ?_⟩
  · exact ⟨rfl, rfl, rfl, by decide, by decide, by decide⟩
  · exact ⟨by decide, by decide, by decide⟩
  · unfold Instant.InCalendar
    decide +kernel

end TableExport.Literal
