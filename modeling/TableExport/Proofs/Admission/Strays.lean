import TableExport.Proofs.Admission.Minimum
import TableExport.Proofs.Calendar.Moments

/-!
Failures of admission that no one took upon themselves. Once its literals are
read, a request should be admitted or refused for its options. Some failures are
neither: they belong to values on the way, such as a threshold outside the
calendar or the bytes of a query that are no text. They are listed here, in the
order of the conditions behind which they stand, and there are no others.
-/

set_option autoImplicit false

namespace TableExport.Condition

open TableExport.Text
open TableExport.Calendar

structure Readable (options : Options) (files : Files.Tree) (now : Instant) : Prop where
  period : Condition.period.Met options files now
  partition : Condition.partition.Met options files now
  minPartition : Condition.minPartition.Met options files now

inductive Strays (options : Options) (files : Files.Tree) (now : Instant) :
    Condition → Failure → Prop
  | table : options.table = some .struck → Strays options files now .source (.misuse .name)
  | parallelismStruck :
      options.parallelism = some .struck → Strays options files now .parallelism .struckCount
  | parallelism {count : Int} :
      options.parallelism = some (.value count) → count ≤ 0 → ¬ Numeral.IsWritable count →
      Strays options files now .parallelism (.numeral .tooManyToWrite)
  | limitStruck :
      options.limit = some .struck → Strays options files now .limit .struckCount
  | limit {count : Int} :
      options.limit = some (.value count) → count ≤ 0 → ¬ Numeral.IsWritable count →
      Strays options files now .limit (.numeral .tooManyToWrite)
  | noThreshold {candidate : Candidate} {partition : Instant} {fault : Fault} :
      Candidate.ofOptions options now = .ok candidate → candidate.Compares partition →
      candidate.minimum = .error fault →
      Strays options files now .freshness (.calendar fault)
  | thresholdUnshown {candidate : Candidate} {partition threshold : Instant} {fault : Fault} :
      Candidate.ofOptions options now = .ok candidate → candidate.Compares partition →
      candidate.minimum = .ok threshold → partition.moment ≤ threshold.moment →
      threshold.shown = .error fault →
      Strays options files now .freshness (.calendar fault)
  | sqlFileStruck :
      options.sqlFile = some .struck → Strays options files now .sqlFile (.misuse .path)
  | nullByte {path : String} :
      options.sqlFile = some (.value path) → files.readBytes path = .error .nullByte →
      Strays options files now .sqlFile (.file .nullByte)
  | encoding {path : String} {bytes : List UInt8} {fault : Utf8.Fault} :
      options.sqlFile = some (.value path) → files.readBytes path = .ok bytes →
      Utf8.decode bytes = .error fault →
      Strays options files now .sqlFile (.encoding fault)

/-- A failure that strays from a condition, after all conditions before it are met. -/
def FirstStray (options : Options) (files : Files.Tree) (now : Instant)
    (failure : Failure) : Prop :=
  ∃ condition, Strays options files now condition failure ∧
    ∀ earlier ∈ Condition.all.takeWhile (· != condition), earlier.Met options files now

/-- A threshold that is asked for and that universal time does not have: no instant lies two
periods before the reference time, or one does and, past the end of the calendar, cannot be
shown as what the partition is older than. -/
structure LacksThreshold (options : Options) (now partition : Instant) (months days : Int) :
    Prop where
  checked : options.skipPartitionCheck = false
  noColumn : options.partitionColumn = none
  noMinimum : options.minPartition = none
  given : ∃ text, options.partition = some (.value text) ∧
    Literal.readInstant (some text) = .ok partition
  denoted : PeriodDenotes options months days
  lacking :
    (∀ date, ¬ now.date.IsShifted (-2 * months) (-2 * days) date) ∨
      ∃ threshold : Instant, now.date.IsShifted (-2 * months) (-2 * days) threshold.date ∧
        threshold.micros = now.micros ∧ threshold.offset = now.offset ∧
        partition.moment ≤ threshold.moment ∧ ¬ Instant.InCalendar threshold.moment

variable {options : Options} {files : Files.Tree} {now : Instant} {candidate : Candidate}
  {condition : Condition} {failure : Failure}

private theorem Readable.resolves (readable : Readable options files now) :
    ∃ candidate, Candidate.ofOptions options now = .ok candidate := by
  have met : ∀ literal ∈ [Condition.period, .partition, .minPartition],
      literal.Met options files now := by
    apply List.forall_mem_cons.mpr ⟨readable.period, _⟩
    apply List.forall_mem_cons.mpr ⟨readable.partition, _⟩
    exact List.forall_mem_singleton.mpr readable.minPartition
  exact decides_ofOptions.isOk_iff.mpr met

private theorem Strays.not_configuration (strayed : Strays options files now condition failure)
    (cause : ConfigurationCause) : failure ≠ .configuration cause := by
  intro same
  cases strayed <;> cases same

/-! ### What strays is what fails -/

private theorem readText_of_readBytes {path : String} {fault : Files.Fault}
    (unread : files.readBytes path = .error fault) :
    files.readText path = .error (.file fault) := by
  unfold Files.Tree.readText
  rw [unread]
  rfl

private theorem readText_of_decode {path : String} {bytes : List UInt8} {fault : Utf8.Fault}
    (read : files.readBytes path = .ok bytes) (undecoded : Utf8.decode bytes = .error fault) :
    files.readText path = .error (.encoding fault) := by
  unfold Files.Tree.readText
  rw [read]
  simp only [Sequence.mapError_ok, Sequence.ok_bind, undecoded]
  rfl

theorem readText_error {path : String} {fault : Files.TextFault}
    (unread : files.readText path = .error fault) :
    (∃ cause, files.readBytes path = .error cause ∧ fault = .file cause) ∨
      ∃ bytes cause, files.readBytes path = .ok bytes ∧
        Utf8.decode bytes = .error cause ∧ fault = .encoding cause := by
  cases read : files.readBytes path with
  | error cause =>
      rw [readText_of_readBytes read] at unread
      exact .inl ⟨cause, rfl, (Except.error.inj unread).symm⟩
  | ok bytes =>
      cases decoded : Utf8.decode bytes with
      | error cause =>
          rw [readText_of_decode read decoded] at unread
          exact .inr ⟨bytes, cause, rfl, decoded, (Except.error.inj unread).symm⟩
      | ok text =>
          unfold Files.Tree.readText at unread
          rw [read] at unread
          simp only [Sequence.mapError_ok, Sequence.ok_bind, decoded] at unread
          cases unread

private theorem checkPositive_of_unwritable {count : Int} {cause : String → ConfigurationCause}
    (small : count ≤ 0) (unwritable : ¬ Numeral.IsWritable count) :
    Guard.checkPositive (some (.value count)) cause = .error (.numeral .tooManyToWrite) := by
  simp only [Guard.checkPositive, if_pos small, Numeral.write_of_not_isWritable unwritable]

private theorem tooOld_of_unshown {partition threshold : Instant} {fault : Fault}
    (shown : ∃ text, partition.shown = .ok text) (unshown : threshold.shown = .error fault) :
    Guard.tooOld partition threshold = .calendar fault := by
  obtain ⟨text, shown⟩ := shown
  simp only [Guard.tooOld, shown, unshown]

theorem Strays.fails (strayed : Strays options files now condition failure)
    (resolved : Candidate.ofOptions options now = .ok candidate) :
    (∃ guard : Guard, condition = ofGuard guard ∧ guard.check candidate = .error failure) ∨
      condition = .sqlFile ∧ sourceOf options files = .error failure := by
  have sameOptions := (ofOptions_ok resolved).1
  cases strayed with
  | table struck =>
      refine .inl ⟨.source, rfl, ?_⟩
      simp only [Guard.check, sameOptions, Guard.checkSource, struck]
  | parallelismStruck struck =>
      refine .inl ⟨.parallelism, rfl, ?_⟩
      simp only [Guard.check, sameOptions, struck, Guard.checkPositive]
  | parallelism given small unwritable =>
      refine .inl ⟨.parallelism, rfl, ?_⟩
      simp only [Guard.check, sameOptions, given, checkPositive_of_unwritable small unwritable]
  | limitStruck struck =>
      refine .inl ⟨.limit, rfl, ?_⟩
      simp only [Guard.check, sameOptions, struck, Guard.checkPositive]
  | limit given small unwritable =>
      refine .inl ⟨.limit, rfl, ?_⟩
      simp only [Guard.check, sameOptions, given, checkPositive_of_unwritable small unwritable]
  | noThreshold again compares beyond =>
      rw [resolved] at again
      cases again
      refine .inl ⟨.freshness, rfl, ?_⟩
      simp only [Guard.check, Guard.checkFreshness,
        if_neg (Candidate.compares_iff.mp compares).1, compares.given, beyond]
  | thresholdUnshown again compares found old unshown =>
      rw [resolved] at again
      cases again
      refine .inl ⟨.freshness, rfl, ?_⟩
      have shown := shown_of_partition resolved compares.given
      simp only [Guard.check]
      rw [compares.checkFreshness_eq found, tooOld_of_unshown shown unshown]
      exact if_neg (mt of_decide_eq_true (Int.not_lt.mpr old))
  | sqlFileStruck struck =>
      refine .inr ⟨rfl, ?_⟩
      simp only [sourceOf, struck]
  | nullByte file unread =>
      refine .inr ⟨rfl, ?_⟩
      simp only [sourceOf, file, readText_of_readBytes unread]
      rfl
  | encoding file read undecoded =>
      refine .inr ⟨rfl, ?_⟩
      simp only [sourceOf, file, readText_of_decode read undecoded]
      rfl

/-! ### What fails strays or refuses the options -/

theorem exists_compares (resolved : Candidate.ofOptions options now = .ok candidate)
    (unmet : ¬ Condition.freshness.Met options files now) :
    ∃ partition, candidate.Compares partition ∧
      ∀ threshold, candidate.minimum = .ok threshold → partition.moment ≤ threshold.moment := by
  have sameOptions := (ofOptions_ok resolved).1
  have asked : ¬ (options.skipPartitionCheck || options.partitionColumn.isSome) = true :=
    mt freshness_met_of_skipped unmet
  cases found : candidate.partition with
  | none => exact absurd (freshness_met_of_absent resolved found) unmet
  | some partition =>
      have compares : candidate.Compares partition :=
        Candidate.compares_iff.mpr ⟨by rw [sameOptions]; exact asked, found⟩
      refine ⟨partition, compares, ?_⟩
      intro threshold measured
      have checked := compares.checked
      have noColumn := compares.noColumn
      rw [sameOptions] at checked noColumn
      apply Int.not_lt.mp
      intro fresh
      exact unmet ((freshness_met_iff resolved checked noColumn found).mpr
        ⟨threshold, measured, fresh⟩)

theorem count_of_tooLong {count : Option (Given Int)} {value : Int} {fault : Numeral.Fault}
    (given : count = some (.value value)) (unmet : ¬ Positive count)
    (unwritten : Numeral.write value = .error fault) :
    value ≤ 0 ∧ ¬ Numeral.IsWritable value ∧ fault = .tooManyToWrite := by
  have unwritable : ¬ Numeral.IsWritable value := by
    intro writable
    rw [Numeral.write_of_isWritable writable] at unwritten
    cases unwritten
  rw [Numeral.write_of_not_isWritable unwritable] at unwritten
  refine ⟨Int.not_lt.mp (mt (positive_iff given).mpr unmet), unwritable, ?_⟩
  exact (Except.error.inj unwritten).symm

theorem Reports.strays (readable : Readable options files now)
    (reported : condition.Reports options files now failure)
    (unmet : ¬ condition.Met options files now)
    (noRefusal : ∀ cause, failure ≠ .configuration cause) :
    Strays options files now condition failure := by
  cases reported with
  | refusal refused =>
      cases refused with
      | periodStruck | period => exact absurd readable.period unmet
      | partitionStruck | partition => exact absurd readable.partition unmet
      | minPartitionStruck | minPartition => exact absurd readable.minPartition unmet
      | sourceMissing | tableName | partitionMissing | splitIncomplete | parallelism | limit
      | partitionTooOld | sqlFileBlank => exact absurd rfl (noRefusal _)
      | tableStruck struck => exact .table struck
      | parallelismStruck struck => exact .parallelismStruck struck
      | limitStruck struck => exact .limitStruck struck
      | sqlFileStruck struck => exact .sqlFileStruck struck
      | sqlFileUnreadable file unread =>
          rcases readText_error unread with
            ⟨cause, read, rfl⟩ | ⟨bytes, cause, read, undecoded, rfl⟩
          · cases cause with
            | nullByte => exact .nullByte file read
            | _ => exact absurd rfl (noRefusal _)
          · exact .encoding file read undecoded
  | parallelismTooLong given unwritten =>
      obtain ⟨small, unwritable, rfl⟩ := count_of_tooLong given unmet unwritten
      exact .parallelism given small unwritable
  | limitTooLong given unwritten =>
      obtain ⟨small, unwritable, rfl⟩ := count_of_tooLong given unmet unwritten
      exact .limit given small unwritable
  | thresholdBeyond resolved beyond =>
      obtain ⟨partition, compares, _⟩ := exists_compares resolved unmet
      exact .noThreshold resolved compares beyond
  | thresholdWithoutDisplay resolved found unshown =>
      obtain ⟨partition, compares, old⟩ := exists_compares resolved unmet
      exact .thresholdUnshown resolved compares found (old _ found) unshown

/-! ### The first condition that fails -/

private theorem mem_of_mem_takeWhile {before later : List Condition} {earlier : Condition}
    (member : earlier ∈ (before ++ condition :: later).takeWhile (· != condition)) :
    earlier ∈ before := by
  induction before with
  | nil =>
      rw [List.nil_append, List.takeWhile_cons_of_neg (by rw [bne_self_eq_false]; decide)] at member
      cases member
  | cons first rest inductionHypothesis =>
      rw [List.cons_append, List.takeWhile_cons] at member
      split at member
      · rcases List.mem_cons.mp member with rfl | behind
        · exact List.mem_cons_self
        · exact List.mem_cons_of_mem first (inductionHypothesis behind)
      · cases member

private theorem ofGuard_mem_takeWhile {guard earlier : Guard}
    (member : earlier ∈ Guard.all.takeWhile (· != guard)) :
    ofGuard earlier ∈ Condition.all.takeWhile (· != ofGuard guard) := by
  revert member
  cases guard <;> cases earlier <;> decide

private theorem checkAll_error {guards : List Guard} {guard : Guard}
    (resolved : Candidate.ofOptions options now = .ok candidate) (member : guard ∈ guards)
    (met : ∀ earlier ∈ guards.takeWhile (· != guard), (ofGuard earlier).Met options files now)
    (failed : guard.check candidate = .error failure) :
    Guard.checkAll candidate guards = .error failure := by
  induction guards with
  | nil => cases member
  | cons first later inductionHypothesis =>
      by_cases same : first = guard
      · rw [Guard.checkAll, same, failed]
        rfl
      · have kept : (first != guard) = true := bne_iff_ne.mpr same
        rw [List.takeWhile_cons, if_pos kept] at met
        obtain ⟨metFirst, metLater⟩ := List.forall_mem_cons.mp met
        obtain ⟨_, passed⟩ := (decides_check resolved first).isOk_iff.mpr
          (List.forall_mem_singleton.mpr metFirst)
        have behind := (List.mem_cons.mp member).resolve_left (Ne.symm same)
        rw [Guard.checkAll, passed]
        exact inductionHypothesis behind metLater

private theorem admitted_error_iff_firstStray (readable : Readable options files now) :
    (admitted options files now = .error failure ∧ ∀ cause, failure ≠ .configuration cause) ↔
      FirstStray options files now failure := by
  constructor
  · rintro ⟨failed, noRefusal⟩
    obtain ⟨before, condition, later, split, met, unmet, reported⟩ :=
      decides_admitted.unmet failure failed
    refine ⟨condition, reported.strays readable unmet noRefusal, ?_⟩
    intro earlier member
    rw [split] at member
    exact met earlier (mem_of_mem_takeWhile member)
  · rintro ⟨condition, strayed, met⟩
    refine ⟨?_, strayed.not_configuration⟩
    obtain ⟨candidate, resolved⟩ := readable.resolves
    unfold admitted
    rw [resolved, Sequence.ok_bind]
    rcases strayed.fails resolved with ⟨guard, rfl, failed⟩ | ⟨rfl, failed⟩
    · have member : guard ∈ Guard.all := by cases guard <;> decide
      rw [checkAll_error resolved member (fun earlier before =>
        met _ (ofGuard_mem_takeWhile before)) failed]
      rfl
    · have guards : ∀ guard ∈ Guard.all, (ofGuard guard).Met options files now := by
        intro guard _
        exact met _ (by cases guard <;> decide)
      obtain ⟨_, passed⟩ := (decides_checkAll resolved Guard.all).isOk_iff.mpr
        (List.forall_mem_map.mpr guards)
      rw [passed, Sequence.ok_bind, failed]
      rfl

/-! ### Thresholds -/

/-- A threshold that options name has a display, so one that has none is computed. -/
theorem minPartition_cases (resolved : Candidate.ofOptions options now = .ok candidate) :
    options.minPartition = none ∨
      ∃ threshold text, candidate.minimum = .ok threshold ∧ threshold.shown = .ok text := by
  have outcome := (ofOptions_ok resolved).2.2.2
  rcases optionalInstant_cases options.minPartition with ⟨absent, _⟩ |
    ⟨literal, threshold, _, read, found⟩ | ⟨_, found⟩ | ⟨_, _, _, _, found⟩
  · exact .inl absent
  · rw [found] at outcome
    obtain ⟨_, brought⟩ := toUniversal_of_readInstant read
    obtain ⟨text, shown⟩ := Instant.shown_of_toUniversal brought
    refine .inr ⟨threshold, text, ?_, shown⟩
    unfold Candidate.minimum
    rw [← Except.ok.inj outcome]
  · rw [found] at outcome
    cases outcome
  · rw [found] at outcome
    cases outcome

private theorem shown_error_iff {threshold : Instant} :
    (∃ fault, threshold.shown = .error fault) ↔ ¬ Instant.InCalendar threshold.moment := by
  unfold Instant.shown
  cases brought : threshold.toUniversal with
  | ok universal =>
      obtain ⟨clock, same⟩ := Instant.toUniversal_ok_iff.mp brought
      have inside := Instant.exists_universal_iff.mp ⟨universal, clock, same⟩
      refine iff_of_false ?_ (not_not.mpr inside)
      rintro ⟨fault, impossible⟩
      cases impossible
  | error fault =>
      exact iff_of_true ⟨fault, rfl⟩ (Instant.toUniversal_error_iff.mp brought).2

private theorem lacksThreshold_of_compares {partition : Instant}
    (resolved : Candidate.ofOptions options now = .ok candidate)
    (compares : candidate.Compares partition) (noMinimum : options.minPartition = none)
    (lacking : ∀ threshold, candidate.minimum = .ok threshold →
      partition.moment ≤ threshold.moment ∧ ¬ Instant.InCalendar threshold.moment) :
    LacksThreshold options now partition candidate.partitionPeriod.totalMonths
      candidate.partitionPeriod.days := by
  have sameOptions := (ofOptions_ok resolved).1
  have denoted := periodDenotes_of_resolved resolved
  constructor
  case checked => exact sameOptions ▸ compares.checked
  case noColumn => exact sameOptions ▸ compares.noColumn
  case noMinimum => exact noMinimum
  case given =>
    rcases partition_cases resolved with ⟨_, missing⟩ | ⟨text, instant, given, read, found⟩
    · rw [compares.given] at missing
      cases missing
    · rw [compares.given] at found
      cases found
      exact ⟨text, given, read⟩
  case denoted => exact denoted
  case lacking =>
    cases measured : candidate.minimum with
    | ok threshold =>
        obtain ⟨shifted, sameTime, sameClock⟩ :=
          (Candidate.minimum_ok_iff_twice_before resolved noMinimum denoted).mp measured
        obtain ⟨old, outside⟩ := lacking threshold measured
        exact .inr ⟨threshold, shifted, sameTime, sameClock, old, outside⟩
    | error fault =>
        apply Or.inl
        intro date shifted
        have found : candidate.minimum = .ok ⟨date, now.micros, now.offset, now.micros_lt⟩ :=
          (Candidate.minimum_ok_iff_twice_before resolved noMinimum denoted).mpr
            ⟨shifted, rfl, rfl⟩
        rw [measured] at found
        cases found

theorem LacksThreshold.compares {partition : Instant} {months days : Int}
    (lacks : LacksThreshold options now partition months days)
    (resolved : Candidate.ofOptions options now = .ok candidate) :
    candidate.Compares partition := by
  have sameOptions := (ofOptions_ok resolved).1
  obtain ⟨text, given, read⟩ := lacks.given
  constructor
  · rw [sameOptions]
    exact lacks.checked
  · rw [sameOptions]
    exact lacks.noColumn
  · rcases partition_cases resolved with ⟨absent, _⟩ | ⟨other, instant, named, again, found⟩
    · rw [given] at absent
      cases absent
    · rw [given] at named
      cases named
      rw [read] at again
      cases again
      exact found

private theorem strays_freshness_iff (readable : Readable options files now) :
    (∃ failure, Strays options files now .freshness failure) ↔
      ∃ partition months days, LacksThreshold options now partition months days := by
  constructor
  · rintro ⟨failure, strayed⟩
    cases strayed with
    | @noThreshold candidate partition fault resolved compares beyond =>
        rcases minPartition_cases resolved with noMinimum | ⟨_, _, found, _⟩
        · refine ⟨partition, _, _, lacksThreshold_of_compares resolved compares noMinimum ?_⟩
          intro threshold found
          rw [beyond] at found
          cases found
        · rw [beyond] at found
          cases found
    | @thresholdUnshown candidate partition threshold fault resolved compares found old
        unshown =>
        rcases minPartition_cases resolved with noMinimum | ⟨_, _, same, shown⟩
        · refine ⟨partition, _, _, lacksThreshold_of_compares resolved compares noMinimum ?_⟩
          intro other same
          rw [found] at same
          cases same
          exact ⟨old, shown_error_iff.mp ⟨fault, unshown⟩⟩
        · rw [found] at same
          cases same
          rw [unshown] at shown
          cases shown
  · rintro ⟨partition, months, days, lacks⟩
    obtain ⟨candidate, resolved⟩ := readable.resolves
    have compares := lacks.compares resolved
    have measures {threshold : Instant} :=
      @Candidate.minimum_ok_iff_twice_before options now threshold candidate months days
        resolved lacks.noMinimum lacks.denoted
    rcases lacks.lacking with without | ⟨threshold, shifted, sameTime, sameClock, old, outside⟩
    · cases measured : candidate.minimum with
      | error fault => exact ⟨_, .noThreshold resolved compares measured⟩
      | ok threshold => exact absurd (measures.mp measured).1 (without threshold.date)
    · have found := measures.mpr ⟨shifted, sameTime, sameClock⟩
      obtain ⟨fault, unshown⟩ := shown_error_iff.mpr outside
      exact ⟨_, .thresholdUnshown resolved compares found old unshown⟩

/-! ### All failures -/

/-- With literals that can be read, a failure that is no refusal of the options is the first
that strays, and nothing else is. A freshness strays exactly where universal time lacks the
threshold. -/
theorem admitted_strays_iff (readable : Readable options files now) :
    (∀ failure,
      (admitted options files now = .error failure ∧ ∀ cause, failure ≠ .configuration cause) ↔
        FirstStray options files now failure) ∧
    ((∃ failure, Strays options files now .freshness failure) ↔
      ∃ partition months days, LacksThreshold options now partition months days) := by
  constructor
  · intro failure
    exact admitted_error_iff_firstStray readable
  · exact strays_freshness_iff readable

def farOptions : Options :=
  { Candidate.februaryOptions with partitionPeriod := some (.value "P5000Y") }

private theorem readable_far (now : Instant) : Readable farOptions Files.Tree.empty now := by
  have period : Literal.readPeriod (some "P5000Y") = .ok ⟨5000, 0, 0, by decide⟩ :=
    Sequence.ok_of_toOption (by decide +kernel)
  have partition : Literal.readInstant (some "2027-02-28T12") =
      .ok (Candidate.lastOfFebruary.atHour 12) :=
    Sequence.ok_of_toOption (by decide +kernel)
  constructor
  · exact (period_met_iff rfl).mpr ⟨_, period⟩
  · exact (instantReadable_iff rfl).mpr ⟨_, partition⟩
  · exact forall_given_of_none rfl

private theorem admitted_far :
    admitted farOptions Files.Tree.empty (Candidate.lastOfMarch.atHour 0) =
      .error (.calendar (.field (.year (-7973)))) := by
  decide +kernel

theorem admitted_strays_iff_far :
    Readable farOptions Files.Tree.empty (Candidate.lastOfMarch.atHour 0) ∧
      FirstStray farOptions Files.Tree.empty (Candidate.lastOfMarch.atHour 0)
        (.calendar (.field (.year (-7973)))) ∧
      ∃ partition months days,
        LacksThreshold farOptions (Candidate.lastOfMarch.atHour 0) partition months days := by
  have readable := readable_far (Candidate.lastOfMarch.atHour 0)
  obtain ⟨fails, lacks⟩ := admitted_strays_iff readable
  have first := (fails _).mp ⟨admitted_far, by intro cause same; cases same⟩
  refine ⟨readable, first, ?_⟩
  obtain ⟨condition, strayed, _⟩ := first
  apply lacks.mp
  cases strayed with
  | noThreshold resolved compares beyond =>
      exact ⟨_, .noThreshold resolved compares beyond⟩
  | thresholdUnshown resolved compares found old unshown =>
      exact ⟨_, .thresholdUnshown resolved compares found old unshown⟩

def queryOptions : Options :=
  { Options.defaults with sqlFile := some (.value "q.sql") }

/-- A period of five thousand years, and a query that is no text, are read and then fail
without a refusal. -/
theorem readable_options_stray :
    Readable farOptions Files.Tree.empty (Candidate.lastOfMarch.atHour 0) ∧
      admitted farOptions Files.Tree.empty (Candidate.lastOfMarch.atHour 0) =
        .error (.calendar (.field (.year (-7973)))) ∧
      Readable queryOptions ⟨[(["q.sql"], .file [255])]⟩ (Candidate.lastOfMarch.atHour 0) ∧
      admitted queryOptions ⟨[(["q.sql"], .file [255])]⟩ (Candidate.lastOfMarch.atHour 0) =
        .error (.encoding ⟨0, 1, 255, .invalidStart⟩) := by
  refine ⟨readable_far _, admitted_far, ?_, ?_⟩
  · constructor
    · exact forall_given_of_none rfl
    · exact forall_given_of_none rfl
    · exact forall_given_of_none rfl
  · decide +kernel

end TableExport.Condition
