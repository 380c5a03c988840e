import TableExport.Log.Level
import TableExport.Log.Measure
import TableExport.Log.Redaction

/-!
The journal of a run. Each record carries the progress of the current export and
the memory in use in front of its message, and is redacted before it is kept. An
event first updates the progress and then writes; an event whose message has no
display is lost with its fault, but its update stays. What the journal is told
are cells: it shows whatever they hold, and only where it compares, adds or
divides must they be numbers.
-/

set_option autoImplicit false

namespace TableExport.Log

open TableExport.Text
open TableExport.Number

structure Progress where
  name : Cell
  total : Cell
  completed : Int
  failed : Int
  rows : Quantity
deriving DecidableEq, Repr

structure Record where
  level : Level
  text : String
  asksFailure : Bool
deriving DecidableEq, Repr

/-- What stands below a text that asks for the failure under way. A journal is told of
failures after they are over, so none is under way. -/
def noFailureText : String := "NoneType: None"

/-- The text of a record as it is shown; what is asked for begins a line. -/
def Record.shownText (record : Record) (text : String) : String :=
  if !record.asksFailure then text
  else if text.toList.getLast? == some '\n' then text ++ noFailureText
  else text ++ "\n" ++ noFailureText

def Record.line (record : Record) : String :=
  "[" ++ record.level.label ++ "] " ++ record.shownText record.text

structure Journal where
  threshold : Nat
  memory : Option Int
  progress : Option Progress
  records : List Record
deriving DecidableEq, Repr

/-- Work on a journal that may meet a message without a display. -/
abbrev Entry := ExceptT Cell.Fault (StateM Journal) Unit

def Progress.started (name total : Cell) : Progress :=
  ⟨name, total, 0, 0, .integer 0⟩

def Progress.rowParts (progress : Progress) : Except Cell.Fault (List String) := do
  let rows := Cell.ofQuantity progress.rows
  if ← rows.greater (.integer 0) then
    let shown ← rowsText rows
    pure ["ROWS:" ++ shown]
  else pure []

def Progress.parts (progress : Progress) : Except Cell.Fault (List String) := do
  let name ← progress.name.shown
  if ← progress.total.greater (.integer 0) then
    let completed ← countText progress.completed
    let total ← progress.total.shown
    let rows ← progress.rowParts
    pure (("EXPORT:" ++ name) :: ("QUERIES:" ++ completed ++ "/" ++ total) :: rows)
  else pure ["EXPORT:" ++ name]

def Journal.heading (journal : Journal) : Except Cell.Fault String := do
  let parts ←
    match journal.progress with
    | none => pure []
    | some progress => progress.parts
  let memory ← memoryText journal.memory
  pure ("[" ++ String.intercalate "] [" (parts ++ ["MEM:" ++ memory]) ++ "]")

def Journal.keepAsking (journal : Journal) (level : Level) (text : String)
    (asksFailure : Bool) : Journal :=
  { journal with records := journal.records ++ [⟨level, redact text, asksFailure⟩] }

def Journal.keep (journal : Journal) (level : Level) (text : String) : Journal :=
  journal.keepAsking level text false

def Journal.isOpenTo (journal : Journal) (level : Level) : Bool :=
  journal.threshold ≤ level.weight

def Journal.headed (journal : Journal) (message : Cell) : Except Cell.Fault String := do
  let heading ← journal.heading
  let text ← message.shown
  pure (heading ++ " " ++ text)

def note (level : Level) (message : Cell) : Entry := do
  let journal ← get
  if journal.isOpenTo level then
    let text ← ofExcept (journal.headed message)
    set (journal.keep level text)

def noteFormatted (level : Level) (message : Except Cell.Fault String) : Entry := do
  let message ← ofExcept message
  note level (.text message)

def updateProgress (change : Progress → Progress) : Entry :=
  modify fun journal => { journal with progress := journal.progress.map change }

def addRows (rows : Cell) : Entry := do
  match (← get).progress with
  | none => pure ()
  | some progress => do
      let sum ← ofExcept ((Cell.ofQuantity progress.rows).plus rows)
      updateProgress fun progress => { progress with rows := sum }

inductive Event where
  | requestValidated (source partition splitColumn parallelism : Cell)
  | probeCompleted (column low high duration : Cell)
  | rangeDivided (low high count width parallelism : Int)
  | queriesBuilt (count parallelism : Cell)
  | connected (kind : String) (database : Option String)
  | exportStarted (name total workers : Cell)
  | queryCompleted (index rows duration : Cell)
  | queryFailed (index reason : Cell)
  | exportCompleted (rows duration : Cell)
  | exportFailed (reason : Cell)
  | message (level : Level) (text : Cell)
  | progressSet (name total : Cell)
  | progressCleared
deriving DecidableEq, Repr

namespace Event

def requestDetails (source partition splitColumn parallelism : Cell) :
    Except Cell.Fault String := do
  let source ← source.shown
  let partitionPart ←
    if partition = .null then pure []
    else (partition.shown).map fun text => ["partition=" ++ text]
  let splitPart ←
    if splitColumn.isSomething then do
      let column ← splitColumn.shown
      let parallelism ← parallelism.shown
      pure ["split=" ++ column ++ "x" ++ parallelism]
    else pure []
  pure (String.intercalate ", " (("source=" ++ source) :: partitionPart ++ splitPart))

def isReduced (count parallelism : Cell) : Except Cell.Fault Bool :=
  if parallelism.isSomething then count.less parallelism else .ok false

def text : Event → Except Cell.Fault String
  | .requestValidated source partition splitColumn parallelism => do
      let details ← requestDetails source partition splitColumn parallelism
      pure ("Export request validated: " ++ details)
  | .probeCompleted column low high duration => do
      let column ← column.shown
      let low ← low.shown
      let high ← high.shown
      let duration ← durationText duration
      pure ("Probed " ++ column ++ " bounds [" ++ low ++ ", " ++ high ++ "] in " ++ duration)
  | .rangeDivided low high count width parallelism => do
      let low ← countText low
      let high ← countText high
      let count ← countText count
      let width ← countText width
      let parallelism ← countText parallelism
      pure ("Split [" ++ low ++ ", " ++ high ++ "] into " ++ count ++
        " ranges (bucket size: " ++ width ++ ", requested: " ++ parallelism ++ ")")
  | .connected kind database =>
      .ok ("Connected to " ++ kind ++ " database " ++ database.getD "None")
  | .queriesBuilt count parallelism => do
      if ← isReduced count parallelism then
        let built ← count.shown
        let parallelism ← parallelism.shown
        pure ("Built " ++ built ++ " queries (parallelism " ++ parallelism ++
          " reduced to fit the value range)")
      else
        let built ← count.shown
        pure ("Built " ++ built ++ " queries")
  | .exportStarted _ total workers => do
      let total ← total.shown
      let workers ← workers.shown
      pure ("Started export of " ++ total ++ " queries with " ++ workers ++ " workers")
  | .queryCompleted index rows duration => do
      let index ← index.shown
      let rows ← rowsText rows
      let duration ← durationText duration
      pure ("Query " ++ index ++ " completed: " ++ rows ++ " rows in " ++ duration)
  | .queryFailed index reason => do
      let index ← index.shown
      let reason ← reason.shown
      pure ("Query " ++ index ++ " failed: " ++ reason)
  | .exportCompleted rows duration => do
      let throughput ← throughput rows duration
      let rows ← rowsText rows
      let duration ← durationText duration
      let throughput ← rowsText (.integer throughput)
      pure ("Export completed: " ++ rows ++ " rows in " ++ duration ++ " at " ++
        throughput ++ "/sec")
  | .exportFailed reason => (reason.shown).map fun reason => "Export failed: " ++ reason
  | .message _ text => text.shown
  | .progressSet _ _ => .ok ""
  | .progressCleared => .ok ""

def entry (event : Event) : Entry :=
  match event with
  | .requestValidated .. => noteFormatted .info event.text
  | .probeCompleted .. => noteFormatted .info event.text
  | .rangeDivided .. => noteFormatted .debug event.text
  | .queriesBuilt .. => noteFormatted .info event.text
  | .connected .. => noteFormatted .debug event.text
  | .exportStarted name total _ => do
      modify fun journal => { journal with progress := some (Progress.started name total) }
      noteFormatted .info event.text
  | .queryCompleted _ rows _ => do
      updateProgress fun progress => { progress with completed := progress.completed + 1 }
      addRows rows
      noteFormatted .info event.text
  | .queryFailed .. => do
      updateProgress fun progress => { progress with failed := progress.failed + 1 }
      noteFormatted .error event.text
  | .exportCompleted .. => noteFormatted .info event.text
  | .exportFailed _ => noteFormatted .error event.text
  | .message level text => note level text
  | .progressSet name total =>
      modify fun journal => { journal with progress := some (Progress.started name total) }
  | .progressCleared => modify fun journal => { journal with progress := none }

end Event

def Journal.tell (journal : Journal) (event : Event) : Except Cell.Fault Unit × Journal :=
  event.entry.run journal

end TableExport.Log
