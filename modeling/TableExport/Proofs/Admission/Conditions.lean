import TableExport.Admission
import TableExport.Proofs.Sequence

/-!
What admission asks of options, stated apart from the checks. Ten conditions
stand in a fixed order; each has its own failures. A piece of work decides a list
of conditions when it succeeds only if all of them are met, and otherwise fails
with a failure of the first that is not. Deciding composes, so the order of the
checks is the order of the conditions.
-/

set_option autoImplicit false

namespace TableExport

open TableExport.Text
open TableExport.Calendar
open TableExport.Query

inductive Condition where
  | period
  | partition
  | minPartition
  | source
  | partitionColumn
  | splitColumn
  | parallelism
  | limit
  | freshness
  | sqlFile
deriving DecidableEq, Repr

namespace Condition

def all : List Condition :=
  [.period, .partition, .minPartition, .source, .partitionColumn, .splitColumn, .parallelism,
    .limit, .freshness, .sqlFile]

def InstantReadable (literal : Option (Given String)) : Prop :=
  ∀ given, literal = some given →
    ∃ text instant, given = .value text ∧ Literal.readInstant (some text) = .ok instant

def Positive (count : Option (Given Int)) : Prop :=
  ∀ given, count = some given → ∃ value, given = .value value ∧ 0 < value

/-- Whether options meet a condition, with the files and the time to measure them by. -/
def Met (options : Options) (files : Files.Tree) (now : Instant) : Condition → Prop
  | .period =>
      ∀ given, options.partitionPeriod = some given →
        ∃ text period, given = .value text ∧ Literal.readPeriod (some text) = .ok period
  | .partition => InstantReadable options.partition
  | .minPartition => InstantReadable options.minPartition
  | .source =>
      (options.table.isSome ∨ options.sqlFile.isSome) ∧
        ∀ given, options.table = some given →
          ∃ name, given = .value name ∧ isTableName name = true
  | .partitionColumn => options.partitionColumn.isSome → options.partition.isSome
  | .splitColumn => options.splitColumn.isSome ↔ options.parallelism.isSome
  | .parallelism => Positive options.parallelism
  | .limit => Positive options.limit
  | .freshness =>
      ∀ candidate, Candidate.ofOptions options now = .ok candidate →
        options.skipPartitionCheck = false → options.partitionColumn = none →
          ∀ partition, candidate.partition = some partition →
            ∃ minimum, candidate.minimum = .ok minimum ∧
              minimum.moment < partition.moment
  | .sqlFile =>
      ∀ given, options.sqlFile = some given →
        ∃ path text, given = .value path ∧ files.readText path = .ok text ∧
          isAllBlank text = false

inductive Refuses (options : Options) (files : Files.Tree) (now : Instant) :
    Condition → Failure → Prop
  | periodStruck :
      options.partitionPeriod = some .struck →
      Refuses options files now .period (.misuse .literal)
  | period {text : String} {fault : Literal.PeriodFault} :
      options.partitionPeriod = some (.value text) →
      Literal.readPeriod (some text) = .error fault →
      Refuses options files now .period (.ofPeriod fault)
  | partitionStruck :
      options.partition = some .struck →
      Refuses options files now .partition (.misuse .literal)
  | partition {text : String} {fault : Literal.InstantFault} :
      options.partition = some (.value text) →
      Literal.readInstant (some text) = .error fault →
      Refuses options files now .partition (.ofInstant fault)
  | minPartitionStruck :
      options.minPartition = some .struck →
      Refuses options files now .minPartition (.misuse .literal)
  | minPartition {text : String} {fault : Literal.InstantFault} :
      options.minPartition = some (.value text) →
      Literal.readInstant (some text) = .error fault →
      Refuses options files now .minPartition (.ofInstant fault)
  | sourceMissing :
      options.table = none →
      Refuses options files now .source (.configuration .sourceMissing)
  | tableStruck :
      options.table = some .struck →
      Refuses options files now .source (.misuse .name)
  | tableName {name : String} :
      options.table = some (.value name) →
      Refuses options files now .source (.configuration (.tableName name))
  | partitionMissing :
      Refuses options files now .partitionColumn (.configuration .partitionMissing)
  | splitIncomplete :
      Refuses options files now .splitColumn (.configuration .splitIncomplete)
  | parallelismStruck :
      options.parallelism = some .struck →
      Refuses options files now .parallelism .struckCount
  | parallelism {count : Int} {shown : String} :
      options.parallelism = some (.value count) → Numeral.write count = .ok shown →
      Refuses options files now .parallelism
        (.configuration (.parallelismNotPositive shown))
  | limitStruck :
      options.limit = some .struck →
      Refuses options files now .limit .struckCount
  | limit {count : Int} {shown : String} :
      options.limit = some (.value count) → Numeral.write count = .ok shown →
      Refuses options files now .limit (.configuration (.limitNotPositive shown))
  | partitionTooOld {candidate : Candidate} {partition minimum : Instant}
      {shownPartition shownMinimum : String} :
      Candidate.ofOptions options now = .ok candidate →
      candidate.partition = some partition → candidate.minimum = .ok minimum →
      partition.shown = .ok shownPartition → minimum.shown = .ok shownMinimum →
      Refuses options files now .freshness
        (.configuration (.partitionTooOld shownPartition shownMinimum))
  | sqlFileStruck :
      options.sqlFile = some .struck →
      Refuses options files now .sqlFile (.misuse .path)
  | sqlFileUnreadable {path : String} {fault : Files.TextFault} :
      options.sqlFile = some (.value path) → files.readText path = .error fault →
      Refuses options files now .sqlFile (.ofText path fault)
  | sqlFileBlank :
      Refuses options files now .sqlFile (.configuration .blankSql)

/-- The failures of each condition: it refuses the options, or something that belongs to its
refusal cannot be had. -/
inductive Reports (options : Options) (files : Files.Tree) (now : Instant) :
    Condition → Failure → Prop
  | refusal {condition : Condition} {failure : Failure} :
      condition.Refuses options files now failure →
      Reports options files now condition failure
  | parallelismTooLong {count : Int} {fault : Numeral.Fault} :
      options.parallelism = some (.value count) → Numeral.write count = .error fault →
      Reports options files now .parallelism (.numeral fault)
  | limitTooLong {count : Int} {fault : Numeral.Fault} :
      options.limit = some (.value count) → Numeral.write count = .error fault →
      Reports options files now .limit (.numeral fault)
  | thresholdBeyond {candidate : Candidate} {fault : Fault} :
      Candidate.ofOptions options now = .ok candidate →
      candidate.minimum = .error fault →
      Reports options files now .freshness (.calendar fault)
  | thresholdWithoutDisplay {candidate : Candidate} {minimum : Instant} {fault : Fault} :
      Candidate.ofOptions options now = .ok candidate →
      candidate.minimum = .ok minimum → minimum.shown = .error fault →
      Reports options files now .freshness (.calendar fault)

/-- The first condition of a list that is not met is told in a given way. -/
def FirstUnmet (options : Options) (files : Files.Tree) (now : Instant)
    (conditions : List Condition) (way : Condition → Prop) : Prop :=
  ∃ before condition later, conditions = before ++ condition :: later ∧
    (∀ earlier ∈ before, earlier.Met options files now) ∧
    ¬ condition.Met options files now ∧ way condition

structure Decides {Value : Type} (options : Options) (files : Files.Tree) (now : Instant)
    (conditions : List Condition) (outcome : Except Failure Value) : Prop where
  met : ∀ value, outcome = .ok value →
    ∀ condition ∈ conditions, condition.Met options files now
  unmet : ∀ failure, outcome = .error failure →
    FirstUnmet options files now conditions fun condition =>
      condition.Reports options files now failure

/-! ### Deciding composes -/

variable {Value Next : Type} {options : Options} {files : Files.Tree} {now : Instant}
variable {conditions later : List Condition}

theorem decides_nil (value : Value) : Decides options files now [] (.ok value) := by
  constructor
  · intro _ _ condition member
    cases member
  · intro failure impossible
    cases impossible

theorem decides_of_ok {condition : Condition} {outcome : Except Failure Value} {value : Value}
    (succeeded : outcome = .ok value) (met : condition.Met options files now) :
    Decides options files now [condition] outcome := by
  constructor
  · intro _ _ other member
    cases List.mem_singleton.mp member
    exact met
  · intro failure failed
    rw [succeeded] at failed
    cases failed

theorem decides_of_error {condition : Condition} {outcome : Except Failure Value}
    {failure : Failure} (failed : outcome = .error failure)
    (notMet : ¬ condition.Met options files now)
    (reported : condition.Reports options files now failure) :
    Decides options files now [condition] outcome := by
  constructor
  · intro value succeeded
    rw [failed] at succeeded
    cases succeeded
  · intro other same
    rw [failed] at same
    cases same
    exact ⟨[], condition, [], rfl, List.forall_mem_nil _, notMet, reported⟩

theorem FirstUnmet.imp {way other : Condition → Prop}
    (first : FirstUnmet options files now conditions way)
    (told : ∀ condition, ¬ condition.Met options files now → way condition → other condition) :
    FirstUnmet options files now conditions other := by
  obtain ⟨before, condition, later, same, met, notMet, reported⟩ := first
  exact ⟨before, condition, later, same, met, notMet, told condition notMet reported⟩

theorem FirstUnmet.append {way : Condition → Prop}
    (first : FirstUnmet options files now conditions way) (later : List Condition) :
    FirstUnmet options files now (conditions ++ later) way := by
  obtain ⟨before, condition, rest, same, met, notMet, reported⟩ := first
  refine ⟨before, condition, rest ++ later, ?_, met, notMet, reported⟩
  rw [same, List.append_assoc, List.cons_append]

/-- Work after work decides the conditions of the one and then those of the other. -/
theorem Decides.bind {work : Except Failure Value} {next : Value → Except Failure Next}
    (first : Decides options files now conditions work)
    (second : ∀ value, work = .ok value → Decides options files now later (next value)) :
    Decides options files now (conditions ++ later) (work >>= next) := by
  cases work with
  | error failure =>
      constructor
      · intro value impossible
        cases impossible
      · intro other same
        cases same
        exact (first.unmet failure rfl).append later
  | ok value =>
      have metFirst := first.met value rfl
      constructor
      · intro result succeeded condition member
        rcases List.mem_append.mp member with early | late
        · exact metFirst condition early
        · exact (second value rfl).met result succeeded condition late
      · intro failure failed
        obtain ⟨before, condition, rest, same, met, notMet, reported⟩ :=
          (second value rfl).unmet failure failed
        refine ⟨conditions ++ before, condition, rest, ?_, ?_, notMet, reported⟩
        · rw [same, List.append_assoc]
        · intro earlier member
          rcases List.mem_append.mp member with early | late
          · exact metFirst earlier early
          · exact met earlier late

/-- Work that decides conditions succeeds exactly when all of them are met. -/
theorem Decides.isOk_iff {outcome : Except Failure Value}
    (decided : Decides options files now conditions outcome) :
    (∃ value, outcome = .ok value) ↔
      ∀ condition ∈ conditions, condition.Met options files now := by
  constructor
  · rintro ⟨value, succeeded⟩
    exact decided.met value succeeded
  · intro met
    cases outcome with
    | ok value => exact ⟨value, rfl⟩
    | error failure =>
        obtain ⟨before, condition, rest, same, _, notMet, _⟩ := decided.unmet failure rfl
        have member : condition ∈ conditions := by
          rw [same]
          exact List.mem_append_right before List.mem_cons_self
        exact absurd (met condition member) notMet

end Condition

end TableExport
