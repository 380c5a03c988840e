import TableExport.Proofs.Admission.Strays
import TableExport.Proofs.Options.Counts

/-!
Acceptance as a whole. Options are accepted exactly when they meet every
condition, if the count of parts that they ask for has a text; the request
carries what they name; and a refusal is that of the first condition that is not
met. A refusal shows the values it is about, so it needs a text for each of them.
-/

set_option autoImplicit false

namespace TableExport.Condition

open TableExport.Text
open TableExport.Calendar
open TableExport.Query
open TableExport.Log

/-- Every threshold that a partition is compared with is in the calendar, and in that of universal
time where the partition is too old for it. -/
def HasThreshold (options : Options) (now : Instant) : Prop :=
  ∀ candidate partition, Candidate.ofOptions options now = .ok candidate →
    candidate.Compares partition →
    ∃ threshold, candidate.minimum = .ok threshold ∧
      (partition.moment ≤ threshold.moment → ∃ text, threshold.shown = .ok text)

variable {options : Options} {files : Files.Tree} {now : Instant} {condition : Condition}
  {failure : Failure}

theorem Reports.refuses (reported : condition.Reports options files now failure)
    (parallelismWritable : ∀ count, options.parallelism = some (.value count) → count ≤ 0 →
      Numeral.IsWritable count)
    (limitWritable : ∀ count, options.limit = some (.value count) → count ≤ 0 →
      Numeral.IsWritable count)
    (threshold : HasThreshold options now) (unmet : ¬ condition.Met options files now) :
    condition.Refuses options files now failure := by
  cases reported with
  | refusal refused => exact refused
  | parallelismTooLong given unwritten =>
      obtain ⟨small, unwritable, _⟩ := count_of_tooLong given unmet unwritten
      exact absurd (parallelismWritable _ given small) unwritable
  | limitTooLong given unwritten =>
      obtain ⟨small, unwritable, _⟩ := count_of_tooLong given unmet unwritten
      exact absurd (limitWritable _ given small) unwritable
  | thresholdBeyond resolved beyond =>
      obtain ⟨partition, compares, _⟩ := exists_compares resolved unmet
      obtain ⟨minimum, found, _⟩ := threshold _ partition resolved compares
      rw [beyond] at found
      cases found
  | thresholdWithoutDisplay resolved found unshown =>
      obtain ⟨partition, compares, old⟩ := exists_compares resolved unmet
      obtain ⟨minimum, foundToo, shown⟩ := threshold _ partition resolved compares
      rw [found] at foundToo
      cases foundToo
      obtain ⟨text, isShown⟩ := shown (old _ found)
      rw [unshown] at isShown
      cases isShown

/-- Options whose count of parts has a text are accepted exactly when they meet every condition;
the request carries what they name; and a refusal is that of the first condition that is not met,
where a limit that it shows has a text and a threshold of freshness is to be had. -/
theorem accept_ok_iff_met (setting : Setting) (options : Options) (session : Session)
    (sound : session.journal.IsSound)
    (writable : ∀ count, options.parallelism = some (.value count) →
      Numeral.IsWritable count) :
    ((∃ request after, (Run.accept setting options).run session = (.ok request, after)) ↔
      ∀ condition ∈ Condition.all, condition.Met options session.files setting.now) ∧
    (∀ request after, (Run.accept setting options).run session = (.ok request, after) →
      Carries options session.files request) ∧
    ((∀ count, options.limit = some (.value count) → count ≤ 0 → Numeral.IsWritable count) →
      HasThreshold options setting.now →
      ∀ failure after, (Run.accept setting options).run session = (.error failure, after) →
        FirstUnmet options session.files setting.now Condition.all fun condition =>
          condition.Refuses options session.files setting.now failure) := by
  have decided : Decides options session.files setting.now Condition.all
      (admitted options session.files setting.now) := decides_admitted
  -- telling the message adds no failure, so the admission alone decides
  cases outcome : admitted options session.files setting.now with
  | error failure =>
      have ran := accept_run_error outcome
      refine ⟨?_, ?_, ?_⟩
      · rw [← decided.isOk_iff]
        constructor
        · rintro ⟨request, after, impossible⟩
          rw [ran] at impossible
          cases impossible
        · rintro ⟨request, impossible⟩
          rw [outcome] at impossible
          cases impossible
      · intro request after impossible
        rw [ran] at impossible
        cases impossible
      · intro limitWritable threshold other after same
        rw [ran] at same
        cases same
        refine (decided.unmet failure outcome).imp fun condition unmet reported => ?_
        exact reported.refuses (fun count given _ => writable count given) limitWritable threshold
          unmet
  | ok accepted =>
      obtain ⟨after, ran⟩ := accept_run_ok sound writable outcome
      refine ⟨?_, ?_, ?_⟩
      · exact iff_of_true ⟨accepted, after, ran⟩ (decided.met accepted outcome)
      · intro request other same
        rw [ran] at same
        cases same
        exact carries_of_admitted outcome
      · intro _ _ failure other impossible
        rw [ran] at impossible
        cases impossible

def dayOptions (partition : String) : Options :=
  { Options.defaults with
    table := some (.value "orders")
    partition := some (.value partition)
    splitColumn := some (.value "id")
    parallelism := some (.value 4) }

private theorem hasThreshold_dayOptions :
    HasThreshold (dayOptions "2027-07-01") (Setting.timeless .silent).now := by
  intro candidate partition resolved _
  have minimum : (Candidate.ofOptions (dayOptions "2027-07-01")
      (Setting.timeless .silent).now).toOption.bind (fun held => held.minimum.toOption) =
        some ⟨⟨2027, 7, 30, by decide, by decide, by decide, by decide, by decide, by decide⟩,
          0, 0, by decide⟩ := by decide +kernel
  rw [resolved] at minimum
  refine ⟨_, Sequence.ok_of_toOption minimum, fun _ => ⟨"2027-07-30T00:00:00Z", ?_⟩⟩
  exact Sequence.ok_of_toOption (by decide +kernel)

/-- A partition of the same day is accepted, one that is a month old is refused. -/
theorem accept_ok_iff_met_fresh_split :
    (∃ options request after,
      Options.read [] ["--table", "orders", "--partition", "2027-08-01", "--splitColumn", "id",
        "--queryParallelism", "4"] = .options options ∧
      (Run.accept (.timeless .silent) options).run .empty = (.ok request, after) ∧
      Carries options Session.empty.files request ∧
      ∀ condition ∈ Condition.all,
        condition.Met options Session.empty.files (Setting.timeless .silent).now) ∧
    FirstUnmet (dayOptions "2027-07-01") Session.empty.files (Setting.timeless .silent).now
      Condition.all fun condition => condition.Refuses (dayOptions "2027-07-01")
        Session.empty.files (Setting.timeless .silent).now
        (.configuration (.partitionTooOld "2027-07-01T00:00:00Z" "2027-07-30T00:00:00Z")) := by
  have read : Options.read [] ["--table", "orders", "--partition", "2027-08-01",
      "--splitColumn", "id", "--queryParallelism", "4"] =
        .options (dayOptions "2027-08-01") := by
    decide +kernel
  have idle : Session.empty.journal.IsSound := isSound_of_idle rfl rfl
  have readToo : Options.read [] ["--table", "orders", "--partition", "2027-07-01",
      "--splitColumn", "id", "--queryParallelism", "4"] =
        .options (dayOptions "2027-07-01") := by
    decide +kernel
  have writable := Options.hasWritableCounts_of_read read .queryParallelism
  have writableToo := Options.hasWritableCounts_of_read readToo .queryParallelism
  have ran : (Run.accept (.timeless .silent) (dayOptions "2027-08-01")).run .empty =
      (.ok
        { source := .table ⟨"orders", by decide⟩
          tableName := some "orders"
          limit := none
          partition := some ⟨⟨2027, 8, 1, by decide, by decide, by decide, by decide,
            by decide, by decide⟩, 0, 0, by decide⟩
          partitionColumn := none
          partitionPeriod := Period.oneDay
          splitColumn := some (.value "id")
          parallelism := some 4 }, .empty) :=
    Sequence.run_of_toOption (by decide +kernel)
  have refused : ((Run.accept (.timeless .silent) (dayOptions "2027-07-01")).run .empty).1 =
      .error (.configuration
        (.partitionTooOld "2027-07-01T00:00:00Z" "2027-07-30T00:00:00Z")) := by decide +kernel
  obtain ⟨met, carries, _⟩ :=
    accept_ok_iff_met (.timeless .silent) (dayOptions "2027-08-01") .empty idle writable
  obtain ⟨_, _, refuses⟩ :=
    accept_ok_iff_met (.timeless .silent) (dayOptions "2027-07-01") .empty idle writableToo
  refine ⟨⟨_, _, _, read, ran, carries _ _ ran, met.mp ⟨_, _, ran⟩⟩, ?_⟩
  exact refuses nofun hasThreshold_dayOptions _ _ (Sequence.run_of_error refused)

/-- A split into as many parts as the least number without a text. -/
def longSplit : Options :=
  { Options.defaults with
    table := some (.value "t")
    splitColumn := some (.value "id")
    parallelism := some (.value Numeral.firstUnwritable) }

/-- Half an hour before the end of the calendar, by a clock an hour behind universal time. -/
def lastHalfHour : Instant :=
  ⟨⟨9999, 12, 31, by decide, by decide, by decide, by decide, by decide, by decide⟩,
    84600 * microsPerSecond, -3600, by decide⟩

/-- Acceptance fails for want of a text. Every condition is met, and the message about the request
cannot show the count of parts; or a partition is older than a threshold that the calendar has,
and the refusal cannot show it in universal time. -/
theorem accept_fails_without_text :
    ((∀ condition ∈ Condition.all,
        condition.Met longSplit .empty (Setting.timeless .silent).now) ∧
      ((Run.accept (.timeless .silent) longSplit).run .empty).1 =
        .error (.cell (.numeral .tooManyToWrite))) ∧
    (∃ candidate partition,
      Candidate.ofOptions { dayOptions "2027-01-01" with partitionPeriod := some (.value "P0D") }
        lastHalfHour = .ok candidate ∧
      candidate.Compares partition ∧ candidate.minimum = .ok lastHalfHour ∧
      partition.moment < lastHalfHour.moment) ∧
    ((Run.accept { Setting.timeless .silent with now := lastHalfHour }
        { dayOptions "2027-01-01" with partitionPeriod := some (.value "P0D") }).run .empty).1 =
      .error (.calendar .beyondCalendar) := by
  have accepted : admitted longSplit .empty (Setting.timeless .silent).now =
      .ok
        { source := .table ⟨"t", by decide⟩
          tableName := some "t"
          limit := none
          partition := none
          partitionColumn := none
          partitionPeriod := Period.oneDay
          splitColumn := some (.value "id")
          parallelism := some Numeral.firstUnwritable } :=
    Sequence.ok_of_toOption (by decide +kernel)
  have resolved : Candidate.ofOptions
      { dayOptions "2027-01-01" with partitionPeriod := some (.value "P0D") } lastHalfHour =
        .ok
          { options := { dayOptions "2027-01-01" with partitionPeriod := some (.value "P0D") }
            partition := some ⟨⟨2027, 1, 1, by decide, by decide, by decide, by decide,
              by decide, by decide⟩, 0, 0, by decide⟩
            partitionPeriod := ⟨0, 0, 0, by decide⟩
            minPartition := none
            now := lastHalfHour } := Sequence.ok_of_toOption (by decide +kernel)
  exact ⟨⟨decides_admitted.met _ accepted, by decide +kernel⟩,
    ⟨_, _, resolved, ⟨rfl, rfl, rfl⟩, Sequence.ok_of_toOption (by decide +kernel),
      by decide +kernel⟩, by decide +kernel⟩

end TableExport.Condition
