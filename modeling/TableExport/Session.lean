import TableExport.Database.Opening
import TableExport.Frame
import TableExport.Log.Journal
import TableExport.Options.Environment
import TableExport.Plan

/-!
The state of a run and what it stands on. The setting is fixed: the environment,
the clock, the database, and the times that will be measured. The session grows:
journal, files, openings, part files and printed text. A failure ends the work
and keeps the session as it is.
-/

set_option autoImplicit false

namespace TableExport

open TableExport.Calendar
open TableExport.Connection
open TableExport.Database
open TableExport.Log
open TableExport.Number

structure Setting where
  environment : Options.Environment
  now : Instant
  database : Behaviour
  probeTime : Binary64
  queryTime : Binary64
  totalTime : Binary64
deriving DecidableEq, Repr

def homeVariable : String := "HOME"

def Setting.home? (setting : Setting) : Option String :=
  setting.environment.get? homeVariable

structure Part where
  steps : List String
  frame : Frame
deriving DecidableEq, Repr

/-- The path of a part file as seen from a folder, if it stands below it. -/
def Part.pathFrom? (folder : String) (part : Part) : Option (List String) :=
  let above := Files.resolvedSteps folder
  let below := part.steps.drop above.length
  let outside := below.isEmpty || below.head? == some ".." || below.head? == some Files.rootStep
  if above.isPrefixOf part.steps && !outside then some (Files.normalSteps folder ++ below)
  else none

def partsBelow (folder : String) (parts : List Part) : List (String × Frame) :=
  let found := parts.filterMap fun part =>
    (part.pathFrom? folder).map fun path => (path, part.frame)
  let ordered := found.mergeSort fun first second => !decide (second.1 < first.1)
  ordered.map fun (path, frame) => (Files.pathText path, frame)

structure Session where
  journal : Journal
  files : Files.Tree
  openings : List Opening
  parts : List Part
  printed : String
deriving DecidableEq, Repr

abbrev Work (α : Type) := ExceptT Failure (StateM Session) α

namespace Work

def tell (event : Event) : Work Unit := do
  let session ← get
  let (told, journal) := session.journal.tell event
  set { session with journal := journal }
  ofExcept (told.mapError Failure.cell)

def print (text : String) : Work Unit :=
  modify fun session => { session with printed := session.printed ++ text }

def keepOpening (opening : Opening) : Work Unit :=
  modify fun session => { session with openings := session.openings ++ [opening] }

/-- Tells the journal of an opened connection. When that fails no work follows that would
keep the opening, so it is kept at once. -/
def tellOpened (target : Target) (event : Event) : Work Unit := do
  match ← (ExceptT.lift (tell event).run : Work (Except Failure Unit)) with
  | .ok () => pure ()
  | .error failure => do
      keepOpening ⟨target, []⟩
      throw failure

/-- Opens a connection. Nothing is kept open: the opening is written down when the work
over it is done, so the target is all that is given back. -/
def connect (setting : Setting) (config : Config) : Work (Option Target) := do
  let session ← get
  match attempt setting.database config session.openings.length with
  | .unsupported failure => throw failure
  | .refused target failure => do
      keepOpening ⟨target, []⟩
      throw failure
  | .absent kind target => do
      keepOpening ⟨target, []⟩
      tell (.connected kind.name config.database)
      pure none
  | .ready kind target => do
      tellOpened target (.connected kind.name config.database)
      pure (some target)

/-- Plans over an opened connection and closes it, whatever comes of the planning. -/
def planOver {α : Type} (target : Target) (planning : Planning α) : Work α := do
  let session ← get
  let (outcome, exchange) := planning.run ⟨session.journal, []⟩
  set { session with journal := exchange.journal }
  keepOpening ⟨target, exchange.calls ++ [.closeConnection]⟩
  ofExcept outcome

def planAlone {α : Type} (planning : Planning α) : Work α := do
  let session ← get
  let (outcome, exchange) := planning.run ⟨session.journal, []⟩
  set { session with journal := exchange.journal }
  ofExcept outcome

end Work

end TableExport
