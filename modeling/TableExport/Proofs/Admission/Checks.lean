import TableExport.Proofs.Admission.Conditions
import TableExport.Proofs.Calendar.Universal
import TableExport.Proofs.Sequence

/-!
Each check of admission decides its condition: first the three literals, then the
six guards, then the file with the query. The guards run over a candidate whose
literals were read, so they are only compared with their conditions there.
-/

set_option autoImplicit false

namespace TableExport.Condition

open TableExport.Text
open TableExport.Calendar
open TableExport.Query

variable {options : Options} {files : Files.Tree} {now : Instant}

/-! ### What is asked of an option that may be absent -/

section Asked

variable {Held : Type} {option : Option Held} {Fine : Held → Prop}

theorem forall_given_of_none (absent : option = none) :
    ∀ given, option = some given → Fine given := by
  intro given found
  rw [absent] at found
  cases found

private theorem forall_given_iff {held : Held} (found : option = some held) :
    (∀ given, option = some given → Fine given) ↔ Fine held := by
  constructor
  · intro fine
    exact fine held found
  · intro fine given same
    rw [found] at same
    cases same
    exact fine

end Asked

/-! ### Literals -/

theorem period_met_iff {text : String} (literal : options.partitionPeriod = some (.value text)) :
    Condition.period.Met options files now ↔
      ∃ period, Literal.readPeriod (some text) = .ok period := by
  apply (forall_given_iff literal).trans
  constructor
  · rintro ⟨other, period, same, read⟩
    cases same
    exact ⟨period, read⟩
  · rintro ⟨period, read⟩
    exact ⟨text, period, rfl, read⟩

private theorem decides_period :
    Decides options files now [.period] (Candidate.periodOrDay options.partitionPeriod) := by
  cases literal : options.partitionPeriod with
  | none => exact decides_of_ok rfl (forall_given_of_none literal)
  | some given =>
      cases given with
      | struck =>
          refine decides_of_error rfl ?_ (.refusal (.periodStruck literal))
          intro met
          obtain ⟨text, period, impossible, _⟩ := (forall_given_iff literal).mp met
          cases impossible
      | value text =>
          cases read : Literal.readPeriod (some text) with
          | ok period =>
              have outcome : Candidate.periodOrDay (some (.value text)) = .ok period := by
                simp only [Candidate.periodOrDay, read]
                rfl
              exact decides_of_ok outcome ((period_met_iff literal).mpr ⟨period, read⟩)
          | error fault =>
              have outcome : Candidate.periodOrDay (some (.value text)) =
                  .error (.ofPeriod fault) := by
                simp only [Candidate.periodOrDay, read]
                rfl
              refine decides_of_error outcome ?_ (.refusal (.period literal read))
              intro met
              obtain ⟨period, found⟩ := (period_met_iff literal).mp met
              rw [read] at found
              cases found

theorem instantReadable_iff {literal : Option (Given String)} {text : String}
    (given : literal = some (.value text)) :
    InstantReadable literal ↔ ∃ instant, Literal.readInstant (some text) = .ok instant := by
  apply (forall_given_iff given).trans
  constructor
  · rintro ⟨other, instant, same, read⟩
    cases same
    exact ⟨instant, read⟩
  · rintro ⟨instant, read⟩
    exact ⟨text, instant, rfl, read⟩

theorem optionalInstant_cases (literal : Option (Given String)) :
    (literal = none ∧ Candidate.optionalInstant literal = .ok none) ∨
      (∃ text instant, literal = some (.value text) ∧
        Literal.readInstant (some text) = .ok instant ∧
        Candidate.optionalInstant literal = .ok (some instant)) ∨
      (literal = some .struck ∧
        Candidate.optionalInstant literal = .error (.misuse .literal)) ∨
      ∃ text fault, literal = some (.value text) ∧
        Literal.readInstant (some text) = .error fault ∧
        Candidate.optionalInstant literal = .error (.ofInstant fault) := by
  cases literal with
  | none => exact .inl ⟨rfl, rfl⟩
  | some given =>
      cases given with
      | struck => exact .inr (.inr (.inl ⟨rfl, rfl⟩))
      | value text =>
          cases read : Literal.readInstant (some text) with
          | ok instant =>
              refine .inr (.inl ⟨text, instant, rfl, read, ?_⟩)
              simp only [Candidate.optionalInstant, read]
              rfl
          | error fault =>
              refine .inr (.inr (.inr ⟨text, fault, rfl, read, ?_⟩))
              simp only [Candidate.optionalInstant, read]
              rfl

private theorem decides_instant {condition : Condition} {literal : Option (Given String)}
    (asks : condition.Met options files now ↔ InstantReadable literal)
    (struck : literal = some .struck →
      condition.Reports options files now (.misuse .literal))
    (unread : ∀ text fault, literal = some (.value text) →
      Literal.readInstant (some text) = .error fault →
      condition.Reports options files now (.ofInstant fault)) :
    Decides options files now [condition] (Candidate.optionalInstant literal) := by
  rcases optionalInstant_cases literal with ⟨absent, outcome⟩ |
    ⟨text, instant, given, read, outcome⟩ | ⟨given, outcome⟩ |
    ⟨text, fault, given, read, outcome⟩
  · exact decides_of_ok outcome (asks.mpr (forall_given_of_none absent))
  · exact decides_of_ok outcome
      (asks.mpr ((instantReadable_iff given).mpr ⟨instant, read⟩))
  · refine decides_of_error outcome (mt asks.mp ?_) (struck given)
    intro readable
    obtain ⟨text, instant, impossible, _⟩ := (forall_given_iff given).mp readable
    cases impossible
  · refine decides_of_error outcome (mt asks.mp ?_) (unread text fault given read)
    intro readable
    obtain ⟨instant, isRead⟩ := (instantReadable_iff given).mp readable
    rw [read] at isRead
    cases isRead

private theorem decides_partition :
    Decides options files now [.partition] (Candidate.optionalInstant options.partition) :=
  decides_instant Iff.rfl (fun struck => .refusal (.partitionStruck struck))
    fun _ _ given read => .refusal (.partition given read)

private theorem decides_minPartition :
    Decides options files now [.minPartition]
      (Candidate.optionalInstant options.minPartition) :=
  decides_instant Iff.rfl (fun struck => .refusal (.minPartitionStruck struck))
    fun _ _ given read => .refusal (.minPartition given read)

theorem decides_ofOptions :
    Decides options files now [.period, .partition, .minPartition]
      (Candidate.ofOptions options now) := by
  apply decides_period.bind
  intro period _
  apply decides_partition.bind
  intro partition _
  apply decides_minPartition.bind
  intro minimum _
  exact decides_nil _

/-! ### Candidates -/

variable {candidate : Candidate}

theorem ofOptions_ok (resolved : Candidate.ofOptions options now = .ok candidate) :
    candidate.options = options ∧
      Candidate.periodOrDay options.partitionPeriod = .ok candidate.partitionPeriod ∧
      Candidate.optionalInstant options.partition = .ok candidate.partition ∧
      Candidate.optionalInstant options.minPartition = .ok candidate.minPartition := by
  simp only [Candidate.ofOptions, Sequence.bind_ok_iff] at resolved
  obtain ⟨period, periodRead, partition, partitionRead, minimum, minimumRead, same⟩ := resolved
  cases same
  exact ⟨rfl, periodRead, partitionRead, minimumRead⟩

theorem partition_cases (resolved : Candidate.ofOptions options now = .ok candidate) :
    (options.partition = none ∧ candidate.partition = none) ∨
      ∃ text instant, options.partition = some (.value text) ∧
        Literal.readInstant (some text) = .ok instant ∧
        candidate.partition = some instant := by
  have outcome := (ofOptions_ok resolved).2.2.1
  rcases optionalInstant_cases options.partition with ⟨absent, found⟩ |
    ⟨text, instant, given, read, found⟩ | ⟨_, found⟩ | ⟨_, _, _, _, found⟩
  · rw [found] at outcome
    exact .inl ⟨absent, (Except.ok.inj outcome).symm⟩
  · rw [found] at outcome
    exact .inr ⟨text, instant, given, read, (Except.ok.inj outcome).symm⟩
  · rw [found] at outcome
    cases outcome
  · rw [found] at outcome
    cases outcome

private theorem isSome_partition (resolved : Candidate.ofOptions options now = .ok candidate) :
    candidate.partition.isSome = options.partition.isSome := by
  rcases partition_cases resolved with ⟨absent, missing⟩ | ⟨text, instant, given, _, held⟩
  · rw [absent, missing]
    rfl
  · rw [given, held]
    rfl

/-- A literal is read on the clock that it names, and brought to universal time from there. -/
theorem toUniversal_of_readInstant {text : Option String} {instant : Instant}
    (read : Literal.readInstant text = .ok instant) :
    ∃ written : Instant, written.toUniversal = .ok instant := by
  cases text with
  | none => cases read
  | some literal =>
      unfold Literal.readInstant at read
      dsimp only at read
      cases fields : Literal.PartialInstant.read? (strip literal.toList) with
      | none =>
          rw [fields] at read
          cases read
      | some parts =>
          rw [fields] at read
          dsimp only at read
          cases first : parts.firstInstant with
          | error fault =>
              rw [first] at read
              cases read
          | ok written =>
              rw [first] at read
              exact ⟨written, (Sequence.mapError_ok_iff _ _ _).mp read⟩

theorem shown_of_partition {partition : Instant}
    (resolved : Candidate.ofOptions options now = .ok candidate)
    (found : candidate.partition = some partition) :
    ∃ shown, partition.shown = .ok shown := by
  rcases partition_cases resolved with ⟨_, missing⟩ | ⟨text, instant, _, read, held⟩
  · rw [found] at missing
    cases missing
  · rw [found] at held
    cases held
    obtain ⟨_, brought⟩ := toUniversal_of_readInstant read
    exact Instant.shown_of_toUniversal brought

/-! ### Guards -/

theorem tableName_of_valid {name : String} (valid : isTableName name = true) :
    Guard.tableName (some name) = .ok ⟨name, valid⟩ := by
  simp only [Guard.tableName, Option.bind_some, TableName.ofText?, dif_pos valid]

theorem tableName_of_invalid {name : String} (invalid : ¬ isTableName name = true) :
    Guard.tableName (some name) = .error (.configuration (.tableName name)) := by
  simp only [Guard.tableName, Option.bind_some, TableName.ofText?, dif_neg invalid]

private theorem source_met_iff {name : String} (table : options.table = some (.value name)) :
    Condition.source.Met options files now ↔ isTableName name = true := by
  constructor
  · rintro ⟨_, named⟩
    obtain ⟨other, same, valid⟩ := (forall_given_iff table).mp named
    cases same
    exact valid
  · intro valid
    refine ⟨.inl (by rw [table]; rfl), (forall_given_iff table).mpr ?_⟩
    exact ⟨name, rfl, valid⟩

private theorem decides_checkSource :
    Decides options files now [.source] (Guard.checkSource options) := by
  cases table : options.table with
  | none =>
      cases file : options.sqlFile with
      | none =>
          have outcome : Guard.checkSource options = .error (.configuration .sourceMissing) := by
            simp only [Guard.checkSource, table, file]
            rfl
          refine decides_of_error outcome ?_ (.refusal (.sourceMissing table))
          rintro ⟨named | held, _⟩
          · rw [table] at named
            cases named
          · rw [file] at held
            cases held
      | some path =>
          have outcome : Guard.checkSource options = .ok () := by
            simp only [Guard.checkSource, table, file]
            rfl
          exact decides_of_ok outcome ⟨.inr (by rw [file]; rfl), forall_given_of_none table⟩
  | some given =>
      cases given with
      | struck =>
          have outcome : Guard.checkSource options = .error (.misuse .name) := by
            simp only [Guard.checkSource, table]
          refine decides_of_error outcome ?_ (.refusal (.tableStruck table))
          rintro ⟨_, named⟩
          obtain ⟨name, impossible, _⟩ := (forall_given_iff table).mp named
          cases impossible
      | value name =>
          by_cases valid : isTableName name = true
          · have outcome : Guard.checkSource options = .ok () := by
              simp only [Guard.checkSource, table, tableName_of_valid valid]
              rfl
            exact decides_of_ok outcome ((source_met_iff table).mpr valid)
          · have outcome : Guard.checkSource options =
                .error (.configuration (.tableName name)) := by
              simp only [Guard.checkSource, table, tableName_of_invalid valid]
              rfl
            exact decides_of_error outcome (mt (source_met_iff table).mp valid)
              (.refusal (.tableName table))

private theorem decides_checkPartitionColumn
    (resolved : Candidate.ofOptions options now = .ok candidate) :
    Decides options files now [.partitionColumn] (Guard.partitionColumn.check candidate) := by
  have sameOptions := (ofOptions_ok resolved).1
  have samePartition := isSome_partition resolved
  by_cases missing : (options.partitionColumn.isSome && candidate.partition.isNone) = true
  · have outcome : Guard.partitionColumn.check candidate =
        .error (.configuration .partitionMissing) := by
      simp only [Guard.check, sameOptions, missing, if_true]
      rfl
    refine decides_of_error outcome ?_ (.refusal .partitionMissing)
    intro met
    obtain ⟨column, absent⟩ := Bool.and_eq_true_iff.mp missing
    have given := met column
    rw [← samePartition, ← Option.not_isNone, absent] at given
    cases given
  · have outcome : Guard.partitionColumn.check candidate = .ok () := by
      simp only [Guard.check, sameOptions, if_neg missing]
    refine decides_of_ok outcome ?_
    intro column
    rw [← samePartition, ← Option.not_isNone, Bool.not_eq_true']
    exact Bool.eq_false_iff.mpr fun absent =>
      missing (Bool.and_eq_true_iff.mpr ⟨column, absent⟩)

private theorem isNone_bne_isNone {First Second : Type} (first : Option First)
    (second : Option Second) :
    (first.isNone != second.isNone) = true ↔ ¬ (first.isSome ↔ second.isSome) := by
  cases first <;> cases second <;> simp

private theorem decides_checkSplitColumn
    (resolved : Candidate.ofOptions options now = .ok candidate) :
    Decides options files now [.splitColumn] (Guard.splitColumn.check candidate) := by
  have sameOptions := (ofOptions_ok resolved).1
  have differs := isNone_bne_isNone options.splitColumn options.parallelism
  by_cases single : (options.splitColumn.isNone != options.parallelism.isNone) = true
  · have outcome : Guard.splitColumn.check candidate =
        .error (.configuration .splitIncomplete) := by
      simp only [Guard.check, sameOptions, if_pos single]
      rfl
    exact decides_of_error outcome (differs.mp single) (.refusal .splitIncomplete)
  · have outcome : Guard.splitColumn.check candidate = .ok () := by
      simp only [Guard.check, sameOptions, if_neg single]
    exact decides_of_ok outcome
      (Classical.byContradiction fun unmet => single (differs.mpr unmet))

theorem positive_iff {count : Option (Given Int)} {value : Int}
    (given : count = some (.value value)) : Positive count ↔ 0 < value := by
  apply (forall_given_iff given).trans
  constructor
  · rintro ⟨other, same, above⟩
    cases same
    exact above
  · intro above
    exact ⟨value, rfl, above⟩

private theorem decides_checkPositive {condition : Condition} {count : Option (Given Int)}
    {cause : String → ConfigurationCause}
    (asks : condition.Met options files now ↔ Positive count)
    (struck : count = some .struck → condition.Reports options files now .struckCount)
    (notPositive : ∀ value shown, count = some (.value value) →
      Numeral.write value = .ok shown →
      condition.Reports options files now (.configuration (cause shown)))
    (tooLong : ∀ value fault, count = some (.value value) →
      Numeral.write value = .error fault →
      condition.Reports options files now (.numeral fault)) :
    Decides options files now [condition] (Guard.checkPositive count cause) := by
  cases count with
  | none => exact decides_of_ok rfl (asks.mpr (forall_given_of_none rfl))
  | some given =>
      cases given with
      | struck =>
          refine decides_of_error rfl (mt asks.mp ?_) (struck rfl)
          intro positive
          obtain ⟨value, impossible, _⟩ := (forall_given_iff rfl).mp positive
          cases impossible
      | value value =>
          by_cases small : value ≤ 0
          · have unmet : ¬ condition.Met options files now :=
              mt (asks.trans (positive_iff rfl)).mp (Int.not_lt.mpr small)
            cases written : Numeral.write value with
            | ok shown =>
                have outcome : Guard.checkPositive (some (.value value)) cause =
                    .error (.configuration (cause shown)) := by
                  simp only [Guard.checkPositive, if_pos small, written]
                  rfl
                exact decides_of_error outcome unmet (notPositive value shown rfl written)
            | error fault =>
                have outcome : Guard.checkPositive (some (.value value)) cause =
                    .error (.numeral fault) := by
                  simp only [Guard.checkPositive, if_pos small, written]
                exact decides_of_error outcome unmet (tooLong value fault rfl written)
          · have outcome : Guard.checkPositive (some (.value value)) cause = .ok () := by
              simp only [Guard.checkPositive, if_neg small]
            exact decides_of_ok outcome
              (asks.mpr ((positive_iff rfl).mpr (Int.not_le.mp small)))

/-! ### The freshness of a partition -/

theorem freshness_met_of_skipped
    (skipped : (options.skipPartitionCheck || options.partitionColumn.isSome) = true) :
    Condition.freshness.Met options files now := by
  intro candidate _ checked noColumn
  rw [checked, noColumn] at skipped
  cases skipped

theorem freshness_met_of_absent
    (resolved : Candidate.ofOptions options now = .ok candidate)
    (absent : candidate.partition = none) : Condition.freshness.Met options files now := by
  intro other same _ _
  rw [resolved] at same
  cases same
  exact forall_given_of_none absent

theorem freshness_met_iff {partition : Instant}
    (resolved : Candidate.ofOptions options now = .ok candidate)
    (checked : options.skipPartitionCheck = false) (noColumn : options.partitionColumn = none)
    (found : candidate.partition = some partition) :
    Condition.freshness.Met options files now ↔
      ∃ minimum, candidate.minimum = .ok minimum ∧ minimum.moment < partition.moment := by
  constructor
  · intro met
    exact met candidate resolved checked noColumn partition found
  · intro fresh other same _ _
    rw [resolved] at same
    cases same
    exact (forall_given_iff found).mpr fresh

private theorem reports_tooOld {partition minimum : Instant}
    (resolved : Candidate.ofOptions options now = .ok candidate)
    (found : candidate.partition = some partition)
    (threshold : candidate.minimum = .ok minimum) :
    Reports options files now .freshness (Guard.tooOld partition minimum) := by
  obtain ⟨shownPartition, isShown⟩ := shown_of_partition resolved found
  cases shown : minimum.shown with
  | ok shownMinimum =>
      simp only [Guard.tooOld, isShown, shown]
      exact .refusal (.partitionTooOld resolved found threshold isShown shown)
  | error fault =>
      simp only [Guard.tooOld, isShown, shown]
      exact .thresholdWithoutDisplay resolved threshold shown

private theorem decides_checkFreshness
    (resolved : Candidate.ofOptions options now = .ok candidate) :
    Decides options files now [.freshness] (Guard.checkFreshness candidate) := by
  have sameOptions := (ofOptions_ok resolved).1
  by_cases skipped :
      (options.skipPartitionCheck || options.partitionColumn.isSome) = true
  · have outcome : Guard.checkFreshness candidate = .ok () := by
      simp only [Guard.checkFreshness, sameOptions, if_pos skipped]
    exact decides_of_ok outcome (freshness_met_of_skipped skipped)
  · obtain ⟨checked, column⟩ := Bool.or_eq_false_iff.mp (Bool.eq_false_iff.mpr skipped)
    have noColumn : options.partitionColumn = none :=
      Option.not_isSome_iff_eq_none.mp (Bool.eq_false_iff.mp column)
    cases found : candidate.partition with
    | none =>
        have outcome : Guard.checkFreshness candidate = .ok () := by
          simp only [Guard.checkFreshness, sameOptions, if_neg skipped, found]
        exact decides_of_ok outcome (freshness_met_of_absent resolved found)
    | some partition =>
        have asks : Condition.freshness.Met options files now ↔ _ :=
          freshness_met_iff resolved checked noColumn found
        cases threshold : candidate.minimum with
        | error fault =>
            have outcome : Guard.checkFreshness candidate = .error (.calendar fault) := by
              simp only [Guard.checkFreshness, sameOptions, if_neg skipped, found, threshold]
            refine decides_of_error outcome (mt asks.mp ?_) (.thresholdBeyond resolved threshold)
            rintro ⟨minimum, impossible, _⟩
            rw [threshold] at impossible
            cases impossible
        | ok minimum =>
            by_cases fresh : partition.isAfter minimum = true
            · have outcome : Guard.checkFreshness candidate = .ok () := by
                simp only [Guard.checkFreshness, sameOptions, if_neg skipped, found, threshold,
                  if_pos fresh]
              exact decides_of_ok outcome
                (asks.mpr ⟨minimum, threshold, of_decide_eq_true fresh⟩)
            · have outcome : Guard.checkFreshness candidate =
                  .error (Guard.tooOld partition minimum) := by
                simp only [Guard.checkFreshness, sameOptions, if_neg skipped, found, threshold,
                  if_neg fresh]
              refine decides_of_error outcome (mt asks.mp ?_)
                (reports_tooOld resolved found threshold)
              rintro ⟨other, same, after⟩
              rw [threshold] at same
              cases same
              exact fresh (decide_eq_true after)

/-! ### All guards -/

def ofGuard : Guard → Condition
  | .source => .source
  | .partitionColumn => .partitionColumn
  | .splitColumn => .splitColumn
  | .parallelism => .parallelism
  | .limit => .limit
  | .freshness => .freshness

theorem decides_check (resolved : Candidate.ofOptions options now = .ok candidate)
    (guard : Guard) : Decides options files now [ofGuard guard] (guard.check candidate) := by
  have sameOptions := (ofOptions_ok resolved).1
  cases guard with
  | source =>
      simp only [Guard.check, sameOptions]
      exact decides_checkSource
  | partitionColumn => exact decides_checkPartitionColumn resolved
  | splitColumn => exact decides_checkSplitColumn resolved
  | parallelism =>
      simp only [Guard.check, sameOptions]
      exact decides_checkPositive Iff.rfl (fun struck => .refusal (.parallelismStruck struck))
        (fun _ _ given written => .refusal (.parallelism given written))
        fun _ _ => .parallelismTooLong
  | limit =>
      simp only [Guard.check, sameOptions]
      exact decides_checkPositive Iff.rfl (fun struck => .refusal (.limitStruck struck))
        (fun _ _ given written => .refusal (.limit given written))
        fun _ _ => .limitTooLong
  | freshness => exact decides_checkFreshness resolved

theorem decides_checkAll (resolved : Candidate.ofOptions options now = .ok candidate)
    (guards : List Guard) :
    Decides options files now (guards.map ofGuard) (Guard.checkAll candidate guards) := by
  induction guards with
  | nil => exact decides_nil ()
  | cons guard later inductionHypothesis =>
      apply (decides_check resolved guard).bind
      intro _ _
      exact inductionHypothesis

theorem decides_guards (resolved : Candidate.ofOptions options now = .ok candidate) :
    Decides options files now
      [.source, .partitionColumn, .splitColumn, .parallelism, .limit, .freshness]
      (Guard.checkAll candidate Guard.all) :=
  decides_checkAll resolved Guard.all

/-! ### The file with the query -/

theorem sqlSource_of_valid {text : String} (valid : isAllBlank text = false) :
    sqlSource text = .ok (.sql ⟨text, valid⟩) := by
  simp only [sqlSource, SqlText.ofText?, dif_pos valid]

theorem sqlSource_of_blank {text : String} (blank : ¬ isAllBlank text = false) :
    sqlSource text = .error (.configuration .blankSql) := by
  simp only [sqlSource, SqlText.ofText?, dif_neg blank]

private theorem sqlFile_met_iff {path : String} (file : options.sqlFile = some (.value path)) :
    Condition.sqlFile.Met options files now ↔
      ∃ text, files.readText path = .ok text ∧ isAllBlank text = false := by
  apply (forall_given_iff file).trans
  constructor
  · rintro ⟨other, text, same, read, filled⟩
    cases same
    exact ⟨text, read, filled⟩
  · rintro ⟨text, read, filled⟩
    exact ⟨path, text, rfl, read, filled⟩

/-- Without a file the source is the table, which the guards have seen to be sound. -/
theorem sourceOf_isOk_of_table (noFile : options.sqlFile = none)
    (met : Condition.source.Met options files now) :
    ∃ source, sourceOf options files = .ok source := by
  obtain ⟨given | held, named⟩ := met
  · obtain ⟨held, table⟩ := Option.isSome_iff_exists.mp given
    obtain ⟨name, same, valid⟩ := named held table
    cases same
    refine ⟨.table ⟨name, valid⟩, ?_⟩
    simp only [sourceOf, noFile, table, Option.bind_some, Given.value?,
      tableName_of_valid valid]
    rfl
  · rw [noFile] at held
    cases held

theorem decides_sourceOf (met : Condition.source.Met options files now) :
    Decides options files now [.sqlFile] (sourceOf options files) := by
  cases file : options.sqlFile with
  | none =>
      obtain ⟨source, outcome⟩ := sourceOf_isOk_of_table file met
      exact decides_of_ok outcome (forall_given_of_none file)
  | some given =>
      cases given with
      | struck =>
          have outcome : sourceOf options files = .error (.misuse .path) := by
            simp only [sourceOf, file]
          refine decides_of_error outcome ?_ (.refusal (.sqlFileStruck file))
          intro met
          obtain ⟨path, text, impossible, _⟩ := (forall_given_iff file).mp met
          cases impossible
      | value path =>
          have asks : Condition.sqlFile.Met options files now ↔ _ := sqlFile_met_iff file
          cases read : files.readText path with
          | error fault =>
              have outcome : sourceOf options files = .error (.ofText path fault) := by
                simp only [sourceOf, file, read]
                rfl
              refine decides_of_error outcome (mt asks.mp ?_)
                (.refusal (.sqlFileUnreadable file read))
              rintro ⟨text, found, _⟩
              rw [read] at found
              cases found
          | ok text =>
              by_cases filled : isAllBlank text = false
              · have outcome : sourceOf options files = .ok (.sql ⟨text, filled⟩) := by
                  simp only [sourceOf, file, read]
                  exact sqlSource_of_valid filled
                exact decides_of_ok outcome (asks.mpr ⟨text, read, filled⟩)
              · have outcome : sourceOf options files =
                    .error (.configuration .blankSql) := by
                  simp only [sourceOf, file, read]
                  exact sqlSource_of_blank filled
                refine decides_of_error outcome (mt asks.mp ?_) (.refusal .sqlFileBlank)
                rintro ⟨other, isRead, valid⟩
                rw [read] at isRead
                cases isRead
                exact filled valid

end TableExport.Condition
