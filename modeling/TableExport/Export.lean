import TableExport.Files.Destination
import TableExport.Session

/-!
The export of statements. Every statement is tried once, on a connection of its
own, whatever becomes of the others; each success is a part file numbered like
its statement. Outcomes are collected in the order in which workers complete,
and the summary does not depend on it.
-/

set_option autoImplicit false

namespace TableExport.Export

open TableExport.Text
open TableExport.Connection
open TableExport.Database
open TableExport.Log
open TableExport.Number

/-- The name of the part file with a number, which has four digits or more. A minus sign
takes the place of a digit. -/
def partFileName (index : Int) : String :=
  if index < 0 then "part--" ++ Numeral.padded 3 index.natAbs ++ ".parquet"
  else "part-" ++ Numeral.padded 4 index.natAbs ++ ".parquet"

def writtenPartFileName (index : Int) : Except Numeral.Fault String :=
  (Numeral.write index).map fun _ => partFileName index

abbrev Rows := Except Failure Frame

structure Outcome where
  index : Nat
  opening : Option Opening
  connected : Option (String × Option String)
  rows : Rows
  place : Option (List String)

def queryFailure (index : Nat) (reason : String) : Failure :=
  .database (.queryFailed index reason)

def overConnection (behaviour : Behaviour) (index : Nat) (sql : String) (fetchSize : Given Int) :
    Rows × List Call :=
  let (answer, calls) := (Dialogue.askRows behaviour sql fetchSize).outcome
  let rows : Rows :=
    match answer with
    | .ok frame => .ok frame
    | .error refusal => .error (queryFailure index refusal.message)
  (rows, calls ++ [.closeConnection])

/-- Tries one statement; the number of its opening counts from the start of the run. -/
def outcomeOf (behaviour : Behaviour) (config : Config) (number index : Nat) (sql : String)
    (fetchSize : Given Int) : Outcome :=
  match attempt behaviour config number with
  | .unsupported failure => ⟨index, none, none, .error failure, none⟩
  | .refused target failure => ⟨index, some ⟨target, []⟩, none, .error failure, none⟩
  | .absent kind target =>
      ⟨index, some ⟨target, []⟩, some (kind.name, config.database),
        .error .connectionAbsent, none⟩
  | .ready kind target =>
      let (rows, calls) := overConnection behaviour index sql fetchSize
      ⟨index, some ⟨target, calls⟩, some (kind.name, config.database), rows, none⟩

abbrev Trial := (number index : Nat) → (sql : String) → Outcome

def outcomesOf (trial : Trial) (opened : Nat) (statements : List String) : List Outcome :=
  statements.zipIdx.map fun (sql, index) => trial (opened + index) index sql

/-- Where the rows of a statement are written. A frame that no file can hold is refused
after a folder in the place of the file, and before any other fault of the place. -/
def partPlace (files : Files.Tree) (home : Option String) (path : String) (frame : Frame) :
    Except Failure (Option (List String)) :=
  match frame.isWritable, files.placeFor home path with
  | _, .error (.fileExpected path) => .error (.file (.fileExpected path))
  | false, _ => .error (.frame .unwritable)
  | true, place => place.mapError Failure.file

def Outcome.placed (files : Files.Tree) (home : Option String) (folder : List String)
    (outcome : Outcome) : Outcome :=
  match outcome.rows with
  | .error _ => outcome
  | .ok frame =>
      match partPlace files home (Files.childText folder (partFileName outcome.index)) frame with
      | .ok place => { outcome with place := place }
      | .error failure => { outcome with rows := .error failure }

def workerCount (maxWorkers : Int) (statements : Nat) : Int :=
  max 1 (min maxWorkers statements)

/-- The refusal of something that is no count where a count of workers is wanted. -/
def noWorkerLimit (type : String) : Failure :=
  .cell (.unordered .less (Cell.integer 0).typeWord type)

/-- The greatest count of workers, which must be neither absent nor struck. -/
def workerLimit : Option (Given Int) → Except Failure Int
  | some (.value count) => .ok count
  | some .struck => .error (noWorkerLimit Given.struckWord)
  | none => .error (noWorkerLimit Cell.null.typeWord)

structure Summary where
  queries : Nat
  rows : Nat
  files : List String
  duration : Binary64
deriving DecidableEq, Repr

def Outcome.rowCount (outcome : Outcome) : Nat :=
  match outcome.rows with
  | .ok frame => frame.rows.length
  | .error _ => 0

def failures (outcomes : List Outcome) : List (Nat × String) :=
  outcomes.filterMap fun outcome =>
    match outcome.rows with
    | .ok _ => none
    | .error failure => some (outcome.index, failure.message)

def firstFailure? : List (Nat × String) → Option (Nat × String)
  | [] => none
  | failure :: rest =>
      match firstFailure? rest with
      | none => some failure
      | some other => if failure.1 ≤ other.1 then some failure else some other

def insertSorted (number : Nat) : List Nat → List Nat
  | [] => [number]
  | first :: rest =>
      if number ≤ first then number :: first :: rest else first :: insertSorted number rest

def sorted (numbers : List Nat) : List Nat :=
  numbers.foldr insertSorted []

/-- The numbers of the statements that succeeded, in ascending order. -/
def succeeded (outcomes : List Outcome) : List Nat :=
  sorted (outcomes.filterMap fun outcome =>
    match outcome.rows with
    | .ok _ => some outcome.index
    | .error _ => none)

def Outcome.event (outcome : Outcome) (duration : Binary64) : Event :=
  match outcome.rows with
  | .ok frame =>
      .queryCompleted (.integer outcome.index) (.integer frame.rows.length) (.real duration)
  | .error failure => .queryFailed (.integer outcome.index) (.text failure.message)

def keepPart (part : Part) : Work Unit :=
  modify fun session =>
    { session with
      parts := session.parts.filter (fun other => other.steps != part.steps) ++ [part] }

def keepAttempt : Option Opening → Work Unit
  | none => pure ()
  | some opening => Work.keepOpening opening

def showProgress (progress : Option Progress) : Work Unit :=
  modify fun session =>
    { session with journal := { session.journal with progress := progress } }

/-- Tells the journal of a connection that a worker opened. A worker has no progress of its
own, so it is told without one. -/
def tellConnected : Option (String × Option String) → Work Unit
  | none => pure ()
  | some (kind, database) => do
      let session ← get
      showProgress none
      Work.tell (.connected kind database)
      showProgress session.journal.progress

/-- Keeps the part file of an outcome, if its rows are written to one. -/
def keepRows (outcome : Outcome) : Work Unit :=
  match outcome.rows, outcome.place with
  | .ok frame, some steps => keepPart ⟨steps, frame.stored⟩
  | _, _ => pure ()

def keepOutcome (outcome : Outcome) : Work Unit := do
  keepAttempt outcome.opening
  tellConnected outcome.connected
  keepRows outcome

def collect (duration : Binary64) : List Outcome → Work Unit
  | [] => pure ()
  | outcome :: rest => do
      Work.tell (outcome.event duration)
      collect duration rest

def totalRows : List Outcome → Nat
  | [] => 0
  | outcome :: rest => outcome.rowCount + totalRows rest

def conclude (folder : List String) (duration : Binary64) (outcomes : List Outcome) :
    Work Summary := do
  let failed := failures outcomes
  match firstFailure? failed with
  | some (index, reason) => do
      let cause := DatabaseCause.exportFailed failed.length outcomes.length index reason
      Work.tell (.exportFailed (.text cause.message))
      throw (.database cause)
  | none => do
      let rows := totalRows outcomes
      Work.tell (.exportCompleted (.integer rows) (.real duration))
      pure
        { queries := outcomes.length
          rows := rows
          files := (succeeded outcomes).map fun (index : Nat) =>
            Files.childText folder (partFileName index)
          duration := duration }

def clearingProgress {α : Type} (work : Work α) : Work α := do
  let outcome ← (ExceptT.lift work.run : Work (Except Failure α))
  Work.tell .progressCleared
  ofExcept outcome

/-- The order in which workers complete, as a rearrangement of outcomes. -/
abbrev Completion := List Outcome → List Outcome

/-- Keeps what came of every statement, collects the outcomes as the workers complete, and
ends the export. -/
def settle (setting : Setting) (folder : List String) (outcomes : List Outcome)
    (completion : Completion) : Work Summary := do
  outcomes.forM keepOutcome
  let collected := completion outcomes
  collect setting.queryTime collected
  conclude folder setting.totalTime collected

/-- Exports the rows of statements into part files of a folder, by a given way to try them. -/
def performBy (trial : Trial) (setting : Setting) (statements : List String)
    (output : String) (maxWorkers : Option (Given Int)) (name : Cell)
    (completion : Completion) : Work Summary := do
  let session ← get
  let files ← ofExcept ((session.files.ensureFolder output).mapError Failure.file)
  set { session with files := files }
  let limit ← ofExcept (workerLimit maxWorkers)
  let folder := Files.normalSteps output
  let outcomes := (outcomesOf trial session.openings.length statements).map
    (Outcome.placed files setting.home? folder)
  Work.tell (.exportStarted name (.integer statements.length)
    (.integer (workerCount limit statements.length)))
  clearingProgress (settle setting folder outcomes completion)

def perform (setting : Setting) (config : Config) (statements : List String)
    (output : String) (maxWorkers : Option (Given Int)) (fetchSize : Given Int) (name : Cell)
    (completion : Completion) : Work Summary :=
  performBy
    (fun number index sql => outcomeOf setting.database config number index sql fetchSize)
    setting statements output maxWorkers name completion

end TableExport.Export
