import TableExport.Proofs.Admission.Checks
import TableExport.Proofs.Calendar.Doubling

/-!
The threshold of freshness as time passes. It lies two periods before the
reference time, on the same clock and at the same time of day, so it follows the
time exactly as far as the two periods do not reach further back in days. They
never do without months. With months they can, where a day of the month is cut
to the length of a shorter one: two thresholds then share a date, and the later
one takes the earlier time of day. How the literals are written is not asked.
-/

set_option autoImplicit false

namespace TableExport.Candidate

open TableExport.Text
open TableExport.Calendar

/-! ### Refusals for age -/

/-- A candidate that is refused because its partition does not come after the minimum. -/
def IsStale (candidate : Candidate) : Prop :=
  ∃ partition minimum, candidate.partition = some partition ∧
    candidate.minimum = .ok minimum ∧
    Guard.checkFreshness candidate = .error (Guard.tooOld partition minimum)

structure Compares (candidate : Candidate) (partition : Instant) : Prop where
  checked : candidate.options.skipPartitionCheck = false
  noColumn : candidate.options.partitionColumn = none
  given : candidate.partition = some partition

variable {candidate : Candidate} {partition threshold : Instant}

theorem compares_iff :
    candidate.Compares partition ↔
      ¬ (candidate.options.skipPartitionCheck ||
        candidate.options.partitionColumn.isSome) = true ∧
      candidate.partition = some partition := by
  constructor
  · intro compares
    rw [compares.checked, compares.noColumn]
    exact ⟨Bool.false_ne_true, compares.given⟩
  · rintro ⟨asked, given⟩
    obtain ⟨checked, column⟩ := Bool.or_eq_false_iff.mp (Bool.eq_false_iff.mpr asked)
    exact ⟨checked, Option.not_isSome_iff_eq_none.mp (Bool.eq_false_iff.mp column), given⟩

theorem Compares.checkFreshness_eq (compares : candidate.Compares partition)
    (found : candidate.minimum = .ok threshold) :
    Guard.checkFreshness candidate =
      if partition.isAfter threshold then .ok ()
      else .error (Guard.tooOld partition threshold) := by
  simp only [Guard.checkFreshness, if_neg (compares_iff.mp compares).1, compares.given, found]

private theorem Compares.checkFreshness_ok (compares : candidate.Compares partition)
    (found : candidate.minimum = .ok threshold) (fresh : threshold.moment < partition.moment) :
    Guard.checkFreshness candidate = .ok () := by
  rw [compares.checkFreshness_eq found]
  exact if_pos (decide_eq_true fresh)

private theorem isStale_iff (found : candidate.minimum = .ok threshold) :
    candidate.IsStale ↔
      ∃ partition, candidate.Compares partition ∧ partition.moment ≤ threshold.moment := by
  constructor
  · rintro ⟨partition, minimum, given, same, refused⟩
    have asked : ¬ (candidate.options.skipPartitionCheck ||
        candidate.options.partitionColumn.isSome) = true := by
      intro skipped
      rw [Guard.checkFreshness, if_pos skipped] at refused
      cases refused
    have compares : candidate.Compares partition := compares_iff.mpr ⟨asked, given⟩
    refine ⟨partition, compares, Int.not_lt.mp ?_⟩
    intro fresh
    rw [compares.checkFreshness_ok found fresh] at refused
    cases refused
  · rintro ⟨partition, compares, old⟩
    refine ⟨partition, threshold, compares.given, found, ?_⟩
    rw [compares.checkFreshness_eq found]
    exact if_neg (mt of_decide_eq_true (Int.not_lt.mpr old))

/-! ### The threshold of a reference time -/

/-- The days that a threshold lies before the reference time, on their common clock. -/
def reach (now threshold : Instant) : Int :=
  now.date.dayNumber - threshold.date.dayNumber

/-- From one time to the next the reach grows by no more than the time that passes. -/
def KeepsPace (earlier threshold later laterThreshold : Instant) : Prop :=
  (reach later laterThreshold - reach earlier threshold) * microsPerDay ≤
    later.moment - earlier.moment

structure Measures (candidate : Candidate) (twice : Period) (threshold : Instant) : Prop where
  doubled : candidate.partitionPeriod.doubled = .ok twice
  shifted : candidate.now.date.IsShifted (-twice.totalMonths) (-twice.days) threshold.date
  sameTime : threshold.micros = candidate.now.micros
  sameClock : threshold.offset = candidate.now.offset

private theorem exists_measures (noMinimum : candidate.minPartition = none)
    (found : candidate.minimum = .ok threshold) :
    ∃ twice, candidate.Measures twice threshold := by
  unfold minimum at found
  rw [noMinimum] at found
  obtain ⟨twice, doubled, taken⟩ := (Sequence.bind_ok_iff _ _ _).mp found
  obtain ⟨shifted, sameTime, sameClock⟩ := Period.addedTo_ok_iff.mp taken
  rw [Period.totalMonths_negated] at shifted
  exact ⟨twice, doubled, shifted, sameTime, sameClock⟩

namespace Measures

variable {other : Candidate} {otherThreshold : Instant} {twice : Period}

private theorem moment_eq (measures : candidate.Measures twice threshold) :
    threshold.moment =
      candidate.now.moment - reach candidate.now threshold * microsPerDay := by
  unfold Instant.moment Instant.localMicros reach
  rw [measures.sameTime, measures.sameClock, Int.sub_mul]
  omega

private theorem keepsPace_iff (measures : candidate.Measures twice threshold)
    (measuresOther : other.Measures twice otherThreshold) :
    KeepsPace candidate.now threshold other.now otherThreshold ↔
      threshold.moment ≤ otherThreshold.moment := by
  rw [measures.moment_eq, measuresOther.moment_eq]
  unfold KeepsPace
  rw [Int.sub_mul]
  omega

theorem reach_eq (measures : candidate.Measures twice threshold)
    (noMonths : twice.totalMonths = 0) : reach candidate.now threshold = twice.days := by
  obtain ⟨moved, reached, counted⟩ := measures.shifted
  rw [noMonths] at reached
  rw [reached.eq_of_zero] at counted
  unfold reach
  omega

/-- Thresholds of one clock keep the order of their times, unless they share a date to
which the later one was cut. -/
theorem le_or_cut (measures : candidate.Measures twice threshold)
    (measuresOther : other.Measures twice otherThreshold)
    (sameClock : candidate.now.offset = other.now.offset)
    (ordered : candidate.now.moment ≤ other.now.moment) :
    threshold.moment ≤ otherThreshold.moment ∨
      threshold.date = otherThreshold.date ∧ other.now.micros < candidate.now.micros ∧
        candidate.now.date.dayNumber < other.now.date.dayNumber ∧
        ∃ moved, other.now.date.IsMonthsFrom (-twice.totalMonths) moved ∧
          moved.day < other.now.date.day := by
  have thresholdClock : otherThreshold.offset = threshold.offset := by
    rw [measures.sameClock, measuresOther.sameClock, sameClock]
  have dates := Instant.dayNumber_le sameClock ordered
  have thresholdDates := measures.shifted.le measuresOther.shifted dates
  rcases Int.lt_or_le otherThreshold.moment threshold.moment with turned | kept
  · rcases (Instant.moment_lt_iff thresholdClock).mp turned with before | ⟨sameDate, sooner⟩
    · omega
    · -- out of order on one date, so only the times of day can have turned
      rw [measures.sameTime, measuresOther.sameTime] at sooner
      have apart : candidate.now.date.dayNumber < other.now.date.dayNumber := by
        apply Nat.lt_of_le_of_ne dates
        intro together
        have back := (Instant.moment_lt_iff sameClock.symm).mpr
          (.inr ⟨(Date.dayNumber_injective together).symm, sooner⟩)
        omega
      obtain ⟨moved, reached, counted⟩ := measures.shifted
      obtain ⟨movedOther, reachedOther, countedOther⟩ := measuresOther.shifted
      rw [sameDate] at countedOther
      rcases reached.lt_or_cut reachedOther apart with less | ⟨_, cut⟩
      · omega
      · exact .inr ⟨sameDate.symm, sooner, apart, movedOther, reachedOther, cut⟩
  · exact .inl kept

end Measures

/-! ### The same options at two times -/

variable {options : Options} {earlier later laterThreshold : Instant}
  {first second : Candidate}

theorem noMinimum_of_options (resolved : ofOptions options earlier = .ok first)
    (noMinimum : options.minPartition = none) : first.minPartition = none := by
  have read := (Condition.ofOptions_ok resolved).2.2.2
  rw [noMinimum] at read
  exact (Except.ok.inj read).symm

/-- The same options name the same partition at every time, and ask for it in the same way. -/
theorem sameOptions_of_options (resolved : ofOptions options earlier = .ok first)
    (resolvedLater : ofOptions options later = .ok second) :
    second = { first with now := later } ∧ first.now = earlier := by
  simp only [ofOptions, Sequence.bind_ok_iff] at resolved resolvedLater
  obtain ⟨period, periodRead, partition, partitionRead, minimum, minimumRead, same⟩ := resolved
  obtain ⟨_, periodAgain, _, partitionAgain, _, minimumAgain, sameAgain⟩ := resolvedLater
  rw [periodRead] at periodAgain
  rw [partitionRead] at partitionAgain
  rw [minimumRead] at minimumAgain
  cases periodAgain
  cases partitionAgain
  cases minimumAgain
  cases same
  cases sameAgain
  exact ⟨rfl, rfl⟩

variable (found : first.minimum = .ok threshold)
  (foundLater : { first with now := later }.minimum = .ok laterThreshold)

include found foundLater

private theorem IsStale.at_later (stale : first.IsStale)
    (kept : threshold.moment ≤ laterThreshold.moment) :
    { first with now := later }.IsStale := by
  obtain ⟨partition, compares, old⟩ := (isStale_iff found).mp stale
  have again : { first with now := later }.Compares partition :=
    ⟨compares.checked, compares.noColumn, compares.given⟩
  exact (isStale_iff foundLater).mpr ⟨partition, again, Int.le_trans old kept⟩

/-- Where the threshold falls back, it is itself a partition that is accepted again. -/
theorem accepted_at_later (checked : first.options.skipPartitionCheck = false)
    (noColumn : first.options.partitionColumn = none)
    (back : laterThreshold.moment < threshold.moment) :
    { first with partition := some threshold }.IsStale ∧
      Guard.checkFreshness { first with now := later, partition := some threshold } = .ok () := by
  have compares : { first with partition := some threshold }.Compares threshold :=
    ⟨checked, noColumn, rfl⟩
  have again : { first with now := later, partition := some threshold }.Compares threshold :=
    ⟨checked, noColumn, rfl⟩
  have unmoved : { first with partition := some threshold }.minimum = .ok threshold := found
  exact ⟨(isStale_iff unmoved).mpr ⟨threshold, compares, Int.le_refl _⟩,
    again.checkFreshness_ok foundLater back⟩

omit found foundLater

/-- A refusal for age outlasts the time whenever the threshold keeps pace with it, and some
partition is accepted again whenever it does not. It always keeps pace without months; on
one clock it fails to only where two thresholds share a date, to which the later one was cut,
and the later time of day is the earlier one. -/
theorem stale_at_later_times
    (resolved : ofOptions options earlier = .ok first)
    (resolvedLater : ofOptions options later = .ok second)
    (noMinimum : options.minPartition = none)
    (found : first.minimum = .ok threshold)
    (foundLater : second.minimum = .ok laterThreshold)
    (ordered : earlier.moment ≤ later.moment) :
    (KeepsPace earlier threshold later laterThreshold → first.IsStale → second.IsStale) ∧
      (¬ KeepsPace earlier threshold later laterThreshold →
        options.skipPartitionCheck = false → options.partitionColumn = none →
          { first with partition := some threshold }.IsStale ∧
            Guard.checkFreshness { second with partition := some threshold } = .ok ()) ∧
      (first.partitionPeriod.totalMonths = 0 →
        KeepsPace earlier threshold later laterThreshold) ∧
      (earlier.offset = later.offset →
        KeepsPace earlier threshold later laterThreshold ∨
          threshold.date = laterThreshold.date ∧ later.micros < earlier.micros ∧
            earlier.date.dayNumber < later.date.dayNumber ∧
            ∃ twice moved, first.partitionPeriod.doubled = .ok twice ∧
              later.date.IsMonthsFrom (-twice.totalMonths) moved ∧
              moved.day < later.date.day) := by
  have measured := noMinimum_of_options resolved noMinimum
  have measuredLater := noMinimum_of_options resolvedLater noMinimum
  have sameOptions := (Condition.ofOptions_ok resolved).1
  obtain ⟨rfl, rfl⟩ := sameOptions_of_options resolved resolvedLater
  obtain ⟨twice, measures⟩ := exists_measures measured found
  obtain ⟨twiceLater, measuresLater⟩ := exists_measures measuredLater foundLater
  have sameTwice : twice = twiceLater :=
    Except.ok.inj (measures.doubled.symm.trans measuresLater.doubled)
  subst sameTwice
  have pace := measures.keepsPace_iff measuresLater
  refine ⟨?_, ?_, ?_, ?_⟩
  · intro keeps stale
    exact stale.at_later found foundLater (pace.mp keeps)
  · intro outpaced checked noColumn
    rw [← sameOptions] at checked noColumn
    exact accepted_at_later found foundLater checked noColumn
      (Int.not_le.mp (mt pace.mpr outpaced))
  · intro monthless
    have noMonths := Period.totalMonths_doubled_of_zero measures.doubled monthless
    have reach := measures.reach_eq noMonths
    have reachLater := measuresLater.reach_eq noMonths
    unfold KeepsPace
    rw [reach, reachLater, Int.sub_self, Int.zero_mul]
    omega
  · intro sameClock
    rcases measures.le_or_cut measuresLater sameClock ordered with kept | ⟨sameDate, sooner,
      apart, moved, reached, cut⟩
    · exact .inl (pace.mpr kept)
    · exact .inr ⟨sameDate, sooner, apart, twice, moved, measures.doubled, reached, cut⟩

def februaryOptions : Options :=
  { Options.defaults with
    table := some (.value "visits")
    partition := some (.value "2027-02-28T12")
    partitionPeriod := some (.value "P1M") }

def lastOfFebruary : Date :=
  (Date.ofFields 2027 2 28).toOption.get (by decide)

def lastOfMarch : Date :=
  (Date.ofFields 2027 3 31).toOption.get (by decide)

def lastButOneOfApril : Date :=
  (Date.ofFields 2027 4 29).toOption.get (by decide)

def lastOfApril : Date :=
  (Date.ofFields 2027 4 30).toOption.get (by decide)

def lastOfMay : Date :=
  (Date.ofFields 2027 5 31).toOption.get (by decide)

def februaryCandidate (now : Instant) : Candidate :=
  ⟨februaryOptions, some (lastOfFebruary.atHour 12), .oneMonth, none, now⟩

private theorem ofOptions_february (now : Instant) :
    ofOptions februaryOptions now = .ok (februaryCandidate now) := by
  have period : periodOrDay februaryOptions.partitionPeriod = .ok .oneMonth :=
    Sequence.ok_of_toOption (by decide +kernel)
  have partition : optionalInstant februaryOptions.partition =
      .ok (some (lastOfFebruary.atHour 12)) :=
    Sequence.ok_of_toOption (by decide +kernel)
  simp only [ofOptions, period, partition, Sequence.ok_bind]
  rfl

private theorem isStale_february :
    (februaryCandidate (lastButOneOfApril.atHour 23)).minimum = .ok (lastOfFebruary.atHour 23) ∧
      (februaryCandidate (lastButOneOfApril.atHour 23)).IsStale := by
  have found : (februaryCandidate (lastButOneOfApril.atHour 23)).minimum =
      .ok (lastOfFebruary.atHour 23) := Sequence.ok_of_toOption (by decide +kernel)
  exact ⟨found, (isStale_iff found).mpr ⟨_, ⟨rfl, rfl, rfl⟩, by decide +kernel⟩⟩

theorem stale_at_later_times_may :
    KeepsPace (lastButOneOfApril.atHour 23) (lastOfFebruary.atHour 23) (lastOfMay.atHour 1)
        (lastOfMarch.atHour 1) ∧
      (februaryCandidate (lastButOneOfApril.atHour 23)).IsStale ∧
      (februaryCandidate (lastOfMay.atHour 1)).IsStale := by
  obtain ⟨found, stale⟩ := isStale_february
  have foundLater : (februaryCandidate (lastOfMay.atHour 1)).minimum =
      .ok (lastOfMarch.atHour 1) := Sequence.ok_of_toOption (by decide +kernel)
  have ordered : (lastButOneOfApril.atHour 23).moment ≤ (lastOfMay.atHour 1).moment := by
    decide +kernel
  have keeps : KeepsPace (lastButOneOfApril.atHour 23) (lastOfFebruary.atHour 23)
      (lastOfMay.atHour 1) (lastOfMarch.atHour 1) := by
    unfold KeepsPace
    decide +kernel
  have lasts := stale_at_later_times (ofOptions_february _) (ofOptions_february _) rfl found
    foundLater ordered
  exact ⟨keeps, stale, lasts.1 keeps stale⟩

/-- Two hours later the threshold lies nearly a day earlier, and noon is after it. -/
theorem accepted_two_hours_later :
    februaryOptions.minPartition = none ∧
      (lastButOneOfApril.atHour 23).moment < (lastOfApril.atHour 1).moment ∧
      ofOptions februaryOptions (lastButOneOfApril.atHour 23) =
        .ok (februaryCandidate (lastButOneOfApril.atHour 23)) ∧
      (februaryCandidate (lastButOneOfApril.atHour 23)).IsStale ∧
      ofOptions februaryOptions (lastOfApril.atHour 1) =
        .ok (februaryCandidate (lastOfApril.atHour 1)) ∧
      (februaryCandidate (lastOfApril.atHour 1)).minimum = .ok (lastOfFebruary.atHour 1) ∧
      Guard.checkFreshness (februaryCandidate (lastOfApril.atHour 1)) = .ok () := by
  have found : (februaryCandidate (lastOfApril.atHour 1)).minimum =
      .ok (lastOfFebruary.atHour 1) := Sequence.ok_of_toOption (by decide +kernel)
  have compares : (februaryCandidate (lastOfApril.atHour 1)).Compares
      (lastOfFebruary.atHour 12) := ⟨rfl, rfl, rfl⟩
  exact ⟨rfl, by decide +kernel, ofOptions_february _, isStale_february.2,
    ofOptions_february _, found, compares.checkFreshness_ok found (by decide +kernel)⟩

end TableExport.Candidate
