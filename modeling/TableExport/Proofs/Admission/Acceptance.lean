import TableExport.Proofs.Admission.Checks
import TableExport.Proofs.Log.Soundness
import TableExport.Proofs.Session.Steps
import TableExport.Run

/-!
Admission as a whole. It decides all conditions in their order, and the request
that comes of it carries what the options name. The message about an accepted
request cannot fail when its count has a text, as every count does that was read:
its instant is in universal time already.
-/

set_option autoImplicit false

namespace TableExport

open TableExport.Text
open TableExport.Calendar
open TableExport.Query
open TableExport.Log

structure Carries (options : Options) (files : Files.Tree) (request : Request) : Prop where
  tableName : request.tableName = options.table.bind Given.value?
  limit : request.limit = options.limit.bind Given.value?
  parallelism : request.parallelism = options.parallelism.bind Given.value?
  partitionColumn : request.partitionColumn = options.partitionColumn
  splitColumn : request.splitColumn = options.splitColumn
  noPartition : options.partition = none → request.partition = none
  partition : ∀ text, options.partition = some (.value text) →
    ∃ instant, Literal.readInstant (some text) = .ok instant ∧
      request.partition = some instant
  dayPeriod : options.partitionPeriod = none → request.partitionPeriod = Period.oneDay
  period : ∀ text, options.partitionPeriod = some (.value text) →
    Literal.readPeriod (some text) = .ok request.partitionPeriod
  sqlSource : ∀ path, options.sqlFile = some (.value path) →
    ∃ query, files.readText path = .ok query.text ∧ request.source = .sql query
  tableSource : options.sqlFile = none →
    ∃ name, options.table = some (.value name.text) ∧ request.source = .table name

namespace Condition

variable {options : Options} {files : Files.Tree} {now : Instant} {request : Request}

theorem decides_admitted :
    Decides options files now Condition.all (admitted options files now) := by
  apply decides_ofOptions.bind
  intro candidate resolved
  have guards : Decides options files now
      [.source, .partitionColumn, .splitColumn, .parallelism, .limit, .freshness]
      (Guard.checkAll candidate Guard.all) := decides_guards resolved
  apply guards.bind
  intro _ passed
  -- a source is looked for only once the guards have seen that there is one
  have sourceMet := guards.met () passed .source List.mem_cons_self
  apply (decides_sourceOf sourceMet).bind
  intro source _
  exact decides_nil _

theorem admitted_ok (accepted : admitted options files now = .ok request) :
    ∃ candidate source, Candidate.ofOptions options now = .ok candidate ∧
      sourceOf options files = .ok source ∧
      request =
        { source := source
          tableName := options.table.bind Given.value?
          limit := options.limit.bind Given.value?
          partition := candidate.partition
          partitionColumn := options.partitionColumn
          partitionPeriod := candidate.partitionPeriod
          splitColumn := options.splitColumn
          parallelism := options.parallelism.bind Given.value? } := by
  simp only [admitted, Sequence.bind_ok_iff] at accepted
  obtain ⟨candidate, resolved, _, _, source, found, same⟩ := accepted
  cases same
  exact ⟨candidate, source, resolved, found, rfl⟩

private theorem sourceOf_sql {path : String} {source : Source}
    (file : options.sqlFile = some (.value path))
    (found : sourceOf options files = .ok source) :
    ∃ query, files.readText path = .ok query.text ∧ source = .sql query := by
  simp only [sourceOf, file, Sequence.bind_ok_iff, Sequence.mapError_ok_iff] at found
  obtain ⟨text, read, made⟩ := found
  by_cases valid : isAllBlank text = false
  · rw [sqlSource_of_valid valid] at made
    cases made
    exact ⟨⟨text, valid⟩, read, rfl⟩
  · rw [sqlSource_of_blank valid] at made
    cases made

private theorem sourceOf_table {source : Source} (noFile : options.sqlFile = none)
    (found : sourceOf options files = .ok source) :
    ∃ name, options.table = some (.value name.text) ∧ source = .table name := by
  simp only [sourceOf, noFile] at found
  cases table : options.table with
  | none =>
      rw [table] at found
      cases found
  | some given =>
      cases given with
      | struck =>
          rw [table] at found
          cases found
      | value text =>
          rw [table] at found
          by_cases valid : isTableName text = true
          · simp only [Option.bind_some, Given.value?, tableName_of_valid valid] at found
            cases found
            exact ⟨⟨text, valid⟩, rfl, rfl⟩
          · simp only [Option.bind_some, Given.value?, tableName_of_invalid valid] at found
            cases found

theorem carries_of_admitted (accepted : admitted options files now = .ok request) :
    Carries options files request := by
  obtain ⟨candidate, source, resolved, found, rfl⟩ := admitted_ok accepted
  have periodRead := (ofOptions_ok resolved).2.1
  constructor
  case tableName => rfl
  case limit => rfl
  case parallelism => rfl
  case partitionColumn => rfl
  case splitColumn => rfl
  case noPartition =>
    intro absent
    rcases partition_cases resolved with ⟨_, absent⟩ | ⟨_, _, given, _, _⟩
    · exact absent
    · rw [absent] at given
      cases given
  case partition =>
    intro text named
    rcases partition_cases resolved with ⟨absent, _⟩ | ⟨other, instant, given, read, held⟩
    · rw [absent] at named
      cases named
    · rw [given] at named
      cases named
      exact ⟨instant, read, held⟩
  case dayPeriod =>
    intro absent
    rw [absent] at periodRead
    exact (Except.ok.inj periodRead).symm
  case period =>
    intro text named
    rw [named] at periodRead
    exact (Sequence.mapError_ok_iff _ _ _).mp periodRead
  case sqlSource =>
    intro path file
    exact sourceOf_sql file found
  case tableSource =>
    intro noFile
    exact sourceOf_table noFile found

private theorem requestDetails_isOk {source partition column parallelism : Cell}
    (sourceShown : ∃ text, source.shown = .ok text)
    (partitionShown : ∃ text, partition.shown = .ok text)
    (columnShown : ∃ text, column.shown = .ok text)
    (parallelismShown : ∃ text, parallelism.shown = .ok text) :
    ∃ details, Event.requestDetails source partition column parallelism = .ok details := by
  obtain ⟨sourceText, sourceShown⟩ := sourceShown
  obtain ⟨partitionText, partitionShown⟩ := partitionShown
  obtain ⟨columnText, columnShown⟩ := columnShown
  obtain ⟨parallelismText, parallelismShown⟩ := parallelismShown
  simp only [Event.requestDetails, sourceShown, partitionShown, columnShown,
    parallelismShown, Sequence.ok_bind]
  by_cases absent : partition = .null
  · by_cases split : column.isSomething
    · simp only [if_pos absent, if_pos split, pure_bind]
      exact ⟨_, rfl⟩
    · simp only [if_pos absent, if_neg split, pure_bind]
      exact ⟨_, rfl⟩
  · by_cases split : column.isSomething
    · simp only [if_neg absent, if_pos split, pure_bind]
      exact ⟨_, rfl⟩
    · simp only [if_neg absent, if_neg split, pure_bind]
      exact ⟨_, rfl⟩

private theorem instantCell_isOk {instant : Option Instant}
    (displayed : ∀ held, instant = some held → ∃ text, held.shown = .ok text) :
    ∃ cell text, instantCell instant = .ok cell ∧ cell.shown = .ok text := by
  cases instant with
  | none => exact ⟨.null, "None", rfl, rfl⟩
  | some held =>
      obtain ⟨text, shown⟩ := displayed held rfl
      refine ⟨.text text, text, ?_, rfl⟩
      simp only [instantCell, shown]
      rfl

private theorem columnCell_isOk (column : Option (Given String)) :
    ∃ text, ((column.bind Given.value?).elim Cell.null Cell.text).shown = .ok text := by
  cases column.bind Given.value? with
  | none => exact ⟨"None", rfl⟩
  | some name => exact ⟨name, rfl⟩

private theorem countCell_isOk {count : Option Int}
    (writable : ∀ value, count = some value → Numeral.IsWritable value) :
    ∃ text, (count.elim Cell.null Cell.integer).shown = .ok text := by
  cases count with
  | none => exact ⟨"None", rfl⟩
  | some value => exact ⟨_, shown_integer (writable value rfl)⟩

/-- The message about a request has a text when its instant and its count have one. -/
theorem admissionEvent_isOk
    (displayed : ∀ held, request.partition = some held → ∃ text, held.shown = .ok text)
    (writable : ∀ value, request.parallelism = some value → Numeral.IsWritable value) :
    ∃ event text, admissionEvent request = .ok event ∧
      event.entry = noteFormatted .info event.text ∧ event.text = .ok text := by
  obtain ⟨partition, partitionText, found, partitionShown⟩ := instantCell_isOk displayed
  have sourceShown : ∃ text, (Cell.text (sourceLabel request)).shown = .ok text := ⟨_, rfl⟩
  obtain ⟨details, detailed⟩ := requestDetails_isOk sourceShown
    ⟨partitionText, partitionShown⟩ (columnCell_isOk request.splitColumn)
    (countCell_isOk writable)
  refine ⟨.requestValidated (.text (sourceLabel request)) partition
    ((request.splitColumn.bind Given.value?).elim .null Cell.text)
    (request.parallelism.elim .null Cell.integer),
    "Export request validated: " ++ details, ?_, rfl, ?_⟩
  · simp only [admissionEvent, found]
    rfl
  · simp only [Event.text, detailed]
    rfl

theorem accept_run_error {setting : Setting} {session : Session} {failure : Failure}
    (refused : admitted options session.files setting.now = .error failure) :
    (Run.accept setting options).run session = (.error failure, session) := by
  simp only [Run.accept, Sequence.run_bind, Sequence.run_get, Sequence.run_ofExcept, refused]

theorem accept_run_ok {setting : Setting} {session : Session}
    (sound : session.journal.IsSound)
    (writable : ∀ count, options.parallelism = some (.value count) →
      Numeral.IsWritable count)
    (accepted : admitted options session.files setting.now = .ok request) :
    ∃ after, (Run.accept setting options).run session = (.ok request, after) := by
  obtain ⟨candidate, source, resolved, _, same⟩ := admitted_ok accepted
  have displayed : ∀ held, request.partition = some held →
      ∃ text, held.shown = .ok text := by
    intro held found
    rw [same] at found
    exact shown_of_partition resolved found
  have countWritable : ∀ value, request.parallelism = some value →
      Numeral.IsWritable value := by
    intro value found
    rw [same] at found
    obtain ⟨given, named, held⟩ := Option.bind_eq_some_iff.mp found
    cases given with
    | struck => cases held
    | value count =>
        cases held
        exact writable value named
  obtain ⟨event, text, made, noted, shown⟩ := admissionEvent_isOk displayed countWritable
  obtain ⟨told, telling, _⟩ := tell_isOk sound noted shown
  refine ⟨{ session with journal := told }, ?_⟩
  simp only [Run.accept, Sequence.run_bind, Sequence.run_get, Sequence.run_ofExcept, accepted,
    made, Work.tell_run, telling, Sequence.run_pure]
  rfl

end Condition

end TableExport
