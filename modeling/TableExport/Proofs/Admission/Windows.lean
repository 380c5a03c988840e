import TableExport.Proofs.Admission.Acceptance
import TableExport.Proofs.Query.Window

/-!
The windows of requests that were admitted. Admission reads the period and looks
no further, so a window may end where it starts or before. Whether it holds a
day depends on the months and days of the period together: with both of its
bounds on the length of a month it leads forward from every date, with neither
from none, and otherwise the date decides.
-/

set_option autoImplicit false

namespace TableExport.Condition

open TableExport.Text
open TableExport.Calendar
open TableExport.Query

variable {options : Options} {files : Files.Tree} {now : Instant} {request : Request}
  {candidate : Candidate}

/-- The months and days that the period of options denotes, one day without a period. -/
def PeriodDenotes (options : Options) (months days : Int) : Prop :=
  options.partitionPeriod = none ∧ months = 0 ∧ days = 1 ∨
    ∃ literal, options.partitionPeriod = some (.value literal) ∧
      Literal.Denotes literal months days

theorem periodDenotes_of_resolved (resolved : Candidate.ofOptions options now = .ok candidate) :
    PeriodDenotes options candidate.partitionPeriod.totalMonths
      candidate.partitionPeriod.days := by
  have read := (ofOptions_ok resolved).2.1
  cases given : options.partitionPeriod with
  | none =>
      rw [given] at read
      rw [← Except.ok.inj read]
      exact .inl ⟨given, rfl, rfl⟩
  | some held =>
      rw [given] at read
      cases held with
      | struck => cases read
      | value literal =>
          have found := (Sequence.mapError_ok_iff _ _ _).mp read
          exact .inr ⟨literal, given, (Literal.denotes_iff found).mpr ⟨rfl, rfl⟩⟩

private theorem periodDenotes_of_admitted (accepted : admitted options files now = .ok request) :
    PeriodDenotes options request.partitionPeriod.totalMonths request.partitionPeriod.days := by
  obtain ⟨candidate, source, resolved, _, rfl⟩ := admitted_ok accepted
  exact periodDenotes_of_resolved resolved

theorem selects_of_admitted {column : Given String}
    (accepted : admitted options files now = .ok request)
    (byColumn : options.partitionColumn = some column) :
    ∃ partition, request.Selects column partition := by
  have carried := carries_of_admitted accepted
  have decided : Decides options files now Condition.all (admitted options files now) :=
    decides_admitted
  have present : options.partition.isSome := by
    refine decided.met request accepted .partitionColumn (by decide) ?_
    rw [byColumn]
    rfl
  have readable := decided.met request accepted .partition (by decide)
  obtain ⟨given, named⟩ := Option.isSome_iff_exists.mp present
  obtain ⟨text, _, rfl, _⟩ := readable given named
  obtain ⟨partition, read, found⟩ := carried.partition text named
  obtain ⟨_, brought⟩ := toUniversal_of_readInstant read
  exact ⟨partition, carried.partitionColumn.trans byColumn, found,
    Instant.offset_of_toUniversal brought⟩

/-- The window of an admitted request holds a day exactly when the days of its period
outweigh what its months lead back. With months of 28 and of 31 days alike the sign of the
whole period decides, and the date from which the window starts does not matter. -/
theorem admitted_window_holds_day_iff {column : Given String} {condition : String}
    (accepted : admitted options files now = .ok request)
    (byColumn : options.partitionColumn = some column)
    (rendered : request.partitionCondition = .ok condition) :
    ∃ (months days : Int) (start stop : Date),
      PeriodDenotes options months days ∧
      condition = Window.condition ⟨column.shown, start.display, stop.display⟩ ∧
      start.IsShifted months days stop ∧
      (∀ moved, start.IsMonthsFrom months moved →
        (start.dayNumber < stop.dayNumber ↔
          (start.dayNumber : Int) - moved.dayNumber < days)) ∧
      (0 < 28 * months + days → 0 < 31 * months + days →
        start.dayNumber < stop.dayNumber) ∧
      (28 * months + days ≤ 0 → 31 * months + days ≤ 0 →
        stop.dayNumber ≤ start.dayNumber) := by
  obtain ⟨partition, selects⟩ := selects_of_admitted accepted byColumn
  obtain ⟨stop, shifted, same⟩ := selects.partitionCondition_ok_iff.mp rendered
  refine ⟨_, _, partition.date, stop, periodDenotes_of_admitted accepted, same, shifted, ?_,
    shifted.after, shifted.not_after⟩
  intro moved reached
  obtain ⟨other, reachedOther, counted⟩ := shifted
  rw [reachedOther.unique reached] at counted
  omega

def januaryOptions (period : String) : Options :=
  { Options.defaults with
    table := some (.value "visits")
    partition := some (.value "2027-01-31")
    partitionColumn := some (.value "day")
    partitionPeriod := some (.value period) }

theorem admitted_window_holds_day_iff_mixed :
    ∃ request,
      admitted (januaryOptions "P1M-30D") Files.Tree.empty (lastOfJanuary.atHour 12) =
        .ok request ∧
      request.partitionCondition = .ok " AND day >= '2027-01-31' AND day < '2027-01-29'" ∧
      ∃ start stop : Date,
        " AND day >= '2027-01-31' AND day < '2027-01-29'" =
          Window.condition ⟨"day", start.display, stop.display⟩ ∧
        start.IsShifted 1 (-30) stop ∧
        ∀ moved, start.IsMonthsFrom 1 moved →
          (start.dayNumber < stop.dayNumber ↔
            (start.dayNumber : Int) - moved.dayNumber < -30) := by
  have accepted : admitted (januaryOptions "P1M-30D") Files.Tree.empty (lastOfJanuary.atHour 12) =
      .ok (requestOn (lastOfJanuary.atHour 0) ⟨0, 1, -30, by decide⟩) :=
    Sequence.ok_of_toOption (by decide +kernel)
  have rendered : (requestOn (lastOfJanuary.atHour 0)
      ⟨0, 1, -30, by decide⟩).partitionCondition =
        .ok " AND day >= '2027-01-31' AND day < '2027-01-29'" :=
    Sequence.ok_of_toOption (by decide +kernel)
  have read : Literal.readPeriod (some "P1M-30D") = .ok ⟨0, 1, -30, by decide⟩ :=
    Sequence.ok_of_toOption (by decide +kernel)
  obtain ⟨months, days, start, stop, denoted, shown, shifted, decided, _⟩ :=
    admitted_window_holds_day_iff accepted rfl rendered
  rcases denoted with ⟨impossible, _⟩ | ⟨literal, same, denotes⟩
  · cases impossible
  · cases same
    obtain ⟨rfl, rfl⟩ := (Literal.denotes_iff read).mp denotes
    exact ⟨_, accepted, rendered, start, stop, shown, shifted, decided⟩

/-- A period of no days is admitted, and its window holds none. -/
theorem empty_window_admitted :
    ∃ request,
      admitted (januaryOptions "P0D") Files.Tree.empty (lastOfJanuary.atHour 12) = .ok request ∧
      request.window? = .ok (some ⟨"day", "2027-01-31", "2027-01-31"⟩) ∧
      request.partitionCondition =
        .ok " AND day >= '2027-01-31' AND day < '2027-01-31'" := by
  have accepted : admitted (januaryOptions "P0D") Files.Tree.empty (lastOfJanuary.atHour 12) =
      .ok (requestOn (lastOfJanuary.atHour 0) ⟨0, 0, 0, by decide⟩) :=
    Sequence.ok_of_toOption (by decide +kernel)
  refine ⟨_, accepted, ?_, ?_⟩
  · exact Sequence.ok_of_toOption (by decide +kernel)
  · exact Sequence.ok_of_toOption (by decide +kernel)

end TableExport.Condition
