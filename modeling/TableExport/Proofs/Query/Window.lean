import TableExport.Proofs.Calendar.Display
import TableExport.Proofs.Calendar.Shift
import TableExport.Proofs.Literal.Period
import TableExport.Query.Statement

/-!
The window of a partition. It starts with the date of the partition in universal
time and ends in front of the date that the months and days of the period lead
to; the time of day and the spelling of the period leave no trace in it. Windows
of one period stand in the order of their partitions, as dates and as texts. A
period that leads forward gives a window that is not empty; about other periods
nothing is said here.
-/

set_option autoImplicit false

namespace TableExport.Query

open TableExport.Text
open TableExport.Calendar

structure Request.Selects (request : Request) (column : Given String)
    (partition : Instant) : Prop where
  byColumn : request.partitionColumn = some column
  given : request.partition = some partition
  universal : partition.offset = 0

private theorem windowEnd_ok_iff {period : Period} {instant : Instant} {text : String}
    (universal : instant.offset = 0) :
    windowEnd period instant = .ok text ↔
      ∃ stop, instant.date.IsShifted period.totalMonths period.days stop ∧
        text = stop.display := by
  unfold windowEnd
  rw [Sequence.bind_ok_iff]
  constructor
  · rintro ⟨later, added, shown⟩
    obtain ⟨shifted, _, sameClock⟩ := Period.addedTo_ok_iff.mp added
    rw [Instant.universalDate_of_universal (sameClock.trans universal)] at shown
    exact ⟨later.date, shifted, (Except.ok.inj shown).symm⟩
  · rintro ⟨stop, shifted, rfl⟩
    have added : period.addedTo instant = .ok { instant with date := stop } :=
      Period.addedTo_ok_iff.mpr ⟨shifted, rfl, rfl⟩
    exact ⟨_, added, Instant.universalDate_of_universal universal⟩

variable {request : Request} {column : Given String} {partition : Instant}

namespace Request.Selects

private theorem window?_ok_iff (selects : request.Selects column partition)
    {found : Option Window} :
    request.window? = .ok found ↔
      ∃ stop, partition.date.IsShifted request.partitionPeriod.totalMonths
          request.partitionPeriod.days stop ∧
        found = some ⟨column.shown, partition.date.display, stop.display⟩ := by
  have start := Instant.universalDate_of_universal selects.universal
  have unfolded : request.window? =
      (do
        let stop ← windowEnd request.partitionPeriod partition
        pure (some ⟨column.shown, partition.date.display, stop⟩)) := by
    simp only [window?, selects.byColumn, selects.given, start, Sequence.ok_bind]
  rw [unfolded, Sequence.bind_ok_iff]
  constructor
  · rintro ⟨text, ended, made⟩
    obtain ⟨stop, shifted, rfl⟩ := (windowEnd_ok_iff selects.universal).mp ended
    exact ⟨stop, shifted, (Except.ok.inj made).symm⟩
  · rintro ⟨stop, shifted, rfl⟩
    exact ⟨_, (windowEnd_ok_iff selects.universal).mpr ⟨stop, shifted, rfl⟩, rfl⟩

theorem partitionCondition_ok_iff (selects : request.Selects column partition)
    {condition : String} :
    request.partitionCondition = .ok condition ↔
      ∃ stop, partition.date.IsShifted request.partitionPeriod.totalMonths
          request.partitionPeriod.days stop ∧
        condition = Window.condition
          ⟨column.shown, partition.date.display, stop.display⟩ := by
  cases found : request.window? with
  | error fault =>
      simp only [partitionCondition, found]
      constructor
      · intro impossible
        cases impossible
      · rintro ⟨stop, shifted, _⟩
        rw [selects.window?_ok_iff.mpr ⟨stop, shifted, rfl⟩] at found
        cases found
  | ok window =>
      obtain ⟨stop, shifted, rfl⟩ := selects.window?_ok_iff.mp found
      simp only [partitionCondition, found]
      constructor
      · intro same
        exact ⟨stop, shifted, (Except.ok.inj same).symm⟩
      · rintro ⟨other, shiftedOther, rfl⟩
        rw [shiftedOther.unique shifted]

end Request.Selects

/-- A window shows the date of the partition and the date that lies the denoted months and
then the denoted days later. It depends on nothing else of the literal and the instant. -/
theorem partitionCondition_shows_shift {literal : String}
    (selects : request.Selects column partition)
    (read : Literal.readPeriod (some literal) = .ok request.partitionPeriod) :
    ∃ months days,
      (∀ otherMonths otherDays, Literal.Denotes literal otherMonths otherDays ↔
        otherMonths = months ∧ otherDays = days) ∧
      (∀ condition, request.partitionCondition = .ok condition ↔
        ∃ stop, partition.date.IsShifted months days stop ∧
          condition = " AND " ++ column.shown ++ " >= '" ++ partition.date.display ++
            "' AND " ++ column.shown ++ " < '" ++ stop.display ++ "'") ∧
      ∀ (other : Request) (otherPartition : Instant) (otherLiteral : String),
        other.Selects column otherPartition → otherPartition.date = partition.date →
        Literal.readPeriod (some otherLiteral) = .ok other.partitionPeriod →
        Literal.Denotes otherLiteral months days →
        ∀ condition, other.partitionCondition = .ok condition ↔
          request.partitionCondition = .ok condition := by
  refine ⟨request.partitionPeriod.totalMonths, request.partitionPeriod.days, ?_, ?_, ?_⟩
  · intro otherMonths otherDays
    exact Literal.denotes_iff read
  · intro condition
    exact selects.partitionCondition_ok_iff
  · intro other otherPartition otherLiteral selectsOther sameDate readOther denoted condition
    obtain ⟨sameMonths, sameDays⟩ := (Literal.denotes_iff readOther).mp denoted
    rw [selectsOther.partitionCondition_ok_iff, selects.partitionCondition_ok_iff, sameDate,
      sameMonths, sameDays]

def requestOn (partition : Instant) (period : Period) : Request :=
  { source := .table ⟨"visits", by decide⟩
    tableName := some "visits"
    limit := none
    partition := some partition
    partitionColumn := some (.value "day")
    partitionPeriod := period
    splitColumn := none
    parallelism := none }

private theorem requestOn_selects {period : Period} (universal : partition.offset = 0) :
    (requestOn partition period).Selects (.value "day") partition :=
  ⟨rfl, rfl, universal⟩

def lastOfJanuary : Date :=
  (Date.ofFields 2027 1 31).toOption.get (by decide)

def thirtiethOfJanuary : Date :=
  (Date.ofFields 2027 1 30).toOption.get (by decide)

theorem partitionCondition_shows_shift_clamped :
    ∃ first second : Period, first ≠ second ∧
      Literal.readPeriod (some "P1Y-11M1D") = .ok first ∧
      Literal.readPeriod (some "p1m1d") = .ok second ∧
      Literal.Denotes "P1Y-11M1D" 1 1 ∧ Literal.Denotes "p1m1d" 1 1 ∧
      (requestOn (lastOfJanuary.atHour 0) first).partitionCondition =
        .ok " AND day >= '2027-01-31' AND day < '2027-03-01'" ∧
      (requestOn (lastOfJanuary.atHour 12) second).partitionCondition =
        .ok " AND day >= '2027-01-31' AND day < '2027-03-01'" := by
  have readFirst : Literal.readPeriod (some "P1Y-11M1D") = .ok ⟨1, -11, 1, by decide⟩ :=
    Sequence.ok_of_toOption (by decide +kernel)
  have readSecond : Literal.readPeriod (some "p1m1d") = .ok ⟨0, 1, 1, by decide⟩ :=
    Sequence.ok_of_toOption (by decide +kernel)
  have shown : (requestOn (lastOfJanuary.atHour 0) ⟨1, -11, 1, by decide⟩).partitionCondition =
        .ok " AND day >= '2027-01-31' AND day < '2027-03-01'" :=
    Sequence.ok_of_toOption (by decide +kernel)
  have selects : (requestOn (lastOfJanuary.atHour 0) ⟨1, -11, 1, by decide⟩).Selects
      (.value "day") (lastOfJanuary.atHour 0) := requestOn_selects rfl
  have selectsAtNoon : (requestOn (lastOfJanuary.atHour 12) ⟨0, 1, 1, by decide⟩).Selects
      (.value "day") (lastOfJanuary.atHour 12) := requestOn_selects rfl
  obtain ⟨months, days, denoted, _, same⟩ := partitionCondition_shows_shift selects readFirst
  have first : Literal.Denotes "P1Y-11M1D" 1 1 := (Literal.denotes_iff readFirst).mpr ⟨rfl, rfl⟩
  have second : Literal.Denotes "p1m1d" 1 1 := (Literal.denotes_iff readSecond).mpr ⟨rfl, rfl⟩
  obtain ⟨rfl, rfl⟩ := (denoted 1 1).mp first
  exact ⟨_, _, by decide, readFirst, readSecond, first, second, shown,
    (same _ _ "p1m1d" selectsAtNoon rfl readSecond second _).mpr shown⟩

/-- Windows of one period begin and end in the order of their partitions; displays compare
like the dates they show; and a period that leads forward has a window with days in it. -/
theorem windows_ordered :
    (∀ (first second : Request) (firstColumn secondColumn : Given String)
        (earlier later : Instant) (firstWindow secondWindow : Window),
      first.Selects firstColumn earlier → second.Selects secondColumn later →
      first.partitionPeriod = second.partitionPeriod → earlier.moment ≤ later.moment →
      first.window? = .ok (some firstWindow) → second.window? = .ok (some secondWindow) →
      firstWindow.start ≤ secondWindow.start ∧ firstWindow.stop ≤ secondWindow.stop) ∧
    (∀ first second : Date,
      first.display < second.display ↔ first.dayNumber < second.dayNumber) ∧
    ∀ (request : Request) (column : Given String) (partition : Instant) (window : Window)
        (literal : String) (counts : Literal.PeriodCounts),
      request.Selects column partition →
      Literal.readPeriod (some literal) = .ok request.partitionPeriod →
      Literal.PeriodText (strip literal.toList) counts →
      0 ≤ counts.direction * Literal.Count.amount counts.years →
      0 ≤ counts.direction * Literal.Count.amount counts.months →
      0 ≤ counts.direction * Literal.Count.amount counts.weeks →
      0 ≤ counts.direction * Literal.Count.amount counts.days →
      ¬ (Literal.Count.amount counts.years = 0 ∧ Literal.Count.amount counts.months = 0 ∧
        Literal.Count.amount counts.weeks = 0 ∧ Literal.Count.amount counts.days = 0) →
      request.window? = .ok (some window) → window.start < window.stop := by
  refine ⟨?_, ?_, ?_⟩
  · intro first second firstColumn secondColumn earlier later firstWindow secondWindow
      selectsFirst selectsSecond samePeriod ordered foundFirst foundSecond
    obtain ⟨firstStop, firstShifted, sameFirst⟩ := selectsFirst.window?_ok_iff.mp foundFirst
    obtain ⟨secondStop, secondShifted, sameSecond⟩ :=
      selectsSecond.window?_ok_iff.mp foundSecond
    cases sameFirst
    cases sameSecond
    have dates : earlier.date.dayNumber ≤ later.date.dayNumber :=
      Instant.dayNumber_le (selectsFirst.universal.trans selectsSecond.universal.symm) ordered
    rw [samePeriod] at firstShifted
    exact ⟨Date.display_le_iff.mpr dates,
      Date.display_le_iff.mpr (firstShifted.le secondShifted dates)⟩
  · intro first second
    exact Date.display_lt_iff
  · intro request column partition window literal counts selects read written years months
      weeks days notAllZero found
    obtain ⟨stop, shifted, same⟩ := selects.window?_ok_iff.mp found
    cases same
    obtain ⟨sameMonths, sameDays⟩ :=
      (Literal.denotes_iff read).mp ⟨counts, written, rfl, rfl⟩
    rw [← sameMonths, ← sameDays] at shifted
    obtain ⟨monthsForward, daysForward, moves⟩ :=
      counts.forward_of_nonneg years months weeks days notAllZero
    exact Date.display_lt_iff.mpr (shifted.after (by omega) (by omega))

theorem windows_ordered_clamped :
    ∃ (period : Period) (counts : Literal.PeriodCounts),
      Literal.readPeriod (some "P1M") = .ok period ∧
      Literal.PeriodText (strip "P1M".toList) counts ∧
      (requestOn (thirtiethOfJanuary.atHour 0) period).window? =
        .ok (some ⟨"day", "2027-01-30", "2027-02-28"⟩) ∧
      (requestOn (lastOfJanuary.atHour 0) period).window? =
        .ok (some ⟨"day", "2027-01-31", "2027-02-28"⟩) ∧
      "2027-01-30" ≤ "2027-01-31" ∧ "2027-02-28" ≤ "2027-02-28" ∧
      "2027-01-30" < "2027-02-28" := by
  have read : Literal.readPeriod (some "P1M") = .ok .oneMonth :=
    Sequence.ok_of_toOption (by decide +kernel)
  have written : Literal.PeriodText (strip "P1M".toList)
      ⟨false, none, some ⟨false, [1]⟩, none, none⟩ :=
    Literal.PeriodCounts.read?_eq_some_iff.mp (by decide +kernel)
  have shownFirst : (requestOn (thirtiethOfJanuary.atHour 0) .oneMonth).window? =
        .ok (some ⟨"day", "2027-01-30", "2027-02-28"⟩) :=
    Sequence.ok_of_toOption (by decide +kernel)
  have shownSecond : (requestOn (lastOfJanuary.atHour 0) .oneMonth).window? =
        .ok (some ⟨"day", "2027-01-31", "2027-02-28"⟩) :=
    Sequence.ok_of_toOption (by decide +kernel)
  have selects (date : Date) : (requestOn (date.atHour 0) .oneMonth).Selects
      (.value "day") (date.atHour 0) := requestOn_selects rfl
  obtain ⟨inOrder, _, notEmpty⟩ := windows_ordered
  have ordered := inOrder _ _ _ _ _ _ _ _ (selects thirtiethOfJanuary) (selects lastOfJanuary)
    rfl (by decide +kernel) shownFirst shownSecond
  have filled := notEmpty _ _ _ _ _ _ (selects thirtiethOfJanuary) read written (by decide)
    (by decide) (by decide) (by decide) (by decide) shownFirst
  exact ⟨_, _, read, written, shownFirst, shownSecond, ordered.1, ordered.2, filled⟩

end TableExport.Query
