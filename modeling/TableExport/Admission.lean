import TableExport.Log.Journal
import TableExport.Options.Environment
import TableExport.Query.Request

/-!
From options to a request. The literals are read first, in a fixed order; then
the checks run in theirs, and the first that fails decides; only then is a file
with a query read. What passes carries a source that is sound in itself.
-/

set_option autoImplicit false

namespace TableExport

open TableExport.Text
open TableExport.Calendar
open TableExport.Query

/-- Options with their literals read, and the time to measure them by. -/
structure Candidate where
  options : Options
  partition : Option Instant
  partitionPeriod : Period
  minPartition : Option Instant
  now : Instant
deriving DecidableEq, Repr

namespace Candidate

def optionalInstant : Option (Given String) → Except Failure (Option Instant)
  | none => .ok none
  | some .struck => .error (.misuse .literal)
  | some (.value text) =>
      ((Literal.readInstant (some text)).mapError Failure.ofInstant).map some

def periodOrDay : Option (Given String) → Except Failure Period
  | none => .ok Period.oneDay
  | some .struck => .error (.misuse .literal)
  | some (.value text) => (Literal.readPeriod (some text)).mapError Failure.ofPeriod

def ofOptions (options : Options) (now : Instant) : Except Failure Candidate := do
  let period ← periodOrDay options.partitionPeriod
  let partition ← optionalInstant options.partition
  let minimum ← optionalInstant options.minPartition
  pure ⟨options, partition, period, minimum, now⟩

/-- The oldest instant that a partition must come after: the given one, or two periods
before now. -/
def minimum (candidate : Candidate) : Except Fault Instant :=
  match candidate.minPartition with
  | some minimum => .ok minimum
  | none => do
      let twice ← candidate.partitionPeriod.doubled
      twice.takenFrom candidate.now

end Candidate

inductive Guard where
  | source
  | partitionColumn
  | splitColumn
  | parallelism
  | limit
  | freshness
deriving DecidableEq, Repr

namespace Guard

def all : List Guard :=
  [.source, .partitionColumn, .splitColumn, .parallelism, .limit, .freshness]

def fail (cause : ConfigurationCause) : Except Failure Unit :=
  .error (.configuration cause)

def tableName (name : Option String) : Except Failure TableName :=
  match name.bind TableName.ofText? with
  | some name => .ok name
  | none => .error (.configuration (.tableName name))

/-- A table or a query must be given, and a table that is given needs a sound name. -/
def checkSource (options : Options) : Except Failure Unit :=
  match options.table with
  | some (.value name) => (tableName (some name)).map fun _ => ()
  | some .struck => .error (.misuse .name)
  | none => if options.sqlFile.isNone then fail .sourceMissing else .ok ()

def checkPositive (count : Option (Given Int)) (cause : String → ConfigurationCause) :
    Except Failure Unit :=
  match count with
  | none => .ok ()
  | some .struck => .error .struckCount
  | some (.value count) =>
      if count ≤ 0 then
        match Numeral.write count with
        | .ok shown => fail (cause shown)
        | .error fault => .error (.numeral fault)
      else .ok ()

def tooOld (partition minimum : Instant) : Failure :=
  match partition.shown, minimum.shown with
  | .ok partition, .ok minimum => .configuration (.partitionTooOld partition minimum)
  | .error fault, _ => .calendar fault
  | _, .error fault => .calendar fault

/-- A partition must come after the minimum, unless the check is skipped or the partition
selects rows by a column. -/
def checkFreshness (candidate : Candidate) : Except Failure Unit :=
  if candidate.options.skipPartitionCheck || candidate.options.partitionColumn.isSome then
    .ok ()
  else
    match candidate.partition with
    | none => .ok ()
    | some partition =>
        match candidate.minimum with
        | .error fault => .error (.calendar fault)
        | .ok minimum =>
            if partition.isAfter minimum then .ok ()
            else .error (tooOld partition minimum)

def check (candidate : Candidate) (guard : Guard) : Except Failure Unit :=
  let options := candidate.options
  match guard with
  | .source => checkSource options
  | .partitionColumn =>
      if options.partitionColumn.isSome && candidate.partition.isNone then
        fail .partitionMissing
      else .ok ()
  | .splitColumn =>
      if options.splitColumn.isNone != options.parallelism.isNone then fail .splitIncomplete
      else .ok ()
  | .parallelism => checkPositive options.parallelism .parallelismNotPositive
  | .limit => checkPositive options.limit .limitNotPositive
  | .freshness => checkFreshness candidate

def checkAll (candidate : Candidate) : List Guard → Except Failure Unit
  | [] => .ok ()
  | guard :: later => do
      guard.check candidate
      checkAll candidate later

end Guard

def sqlSource (text : String) : Except Failure Source :=
  match SqlText.ofText? text with
  | some query => .ok (.sql query)
  | none => .error (.configuration .blankSql)

/-- The source that options name; a file with a query comes before a table. -/
def sourceOf (options : Options) (files : Files.Tree) : Except Failure Source :=
  match options.sqlFile with
  | some (.value path) => do
      let text ← (files.readText path).mapError (Failure.ofText path)
      sqlSource text
  | some .struck => .error (.misuse .path)
  | none => (Guard.tableName (options.table.bind Given.value?)).map Source.table

def admitted (options : Options) (files : Files.Tree) (now : Instant) :
    Except Failure Request := do
  let candidate ← Candidate.ofOptions options now
  Guard.checkAll candidate Guard.all
  let source ← sourceOf options files
  pure
    { source := source
      tableName := options.table.bind Given.value?
      limit := options.limit.bind Given.value?
      partition := candidate.partition
      partitionColumn := options.partitionColumn
      partitionPeriod := candidate.partitionPeriod
      splitColumn := options.splitColumn
      parallelism := options.parallelism.bind Given.value? }

def sourceLabel (request : Request) : String :=
  match request.source with
  | .sql _ => "sqlFile"
  | .table _ => "table " ++ request.tableName.getD "None"

def instantCell : Option Instant → Except Failure Cell
  | none => .ok .null
  | some instant => (instant.shown.mapError Failure.calendar).map Cell.text

/-- What the journal is told of an admitted request; a struck column is not mentioned. -/
def admissionEvent (request : Request) : Except Failure Log.Event := do
  let partition ← instantCell request.partition
  let column := (request.splitColumn.bind Given.value?).elim .null Cell.text
  pure (.requestValidated (.text (sourceLabel request)) partition column
    (request.parallelism.elim .null Cell.integer))

end TableExport
