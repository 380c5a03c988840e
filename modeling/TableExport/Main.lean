import Std.Time.DateTime.Timestamp
import TableExport.Log.Logger
import TableExport.Run

/-!
The program. It gathers the environment, the time and the files that the options
name, runs the command line on them, and writes out what the run printed and
told its journal. No database is within its reach: a run ends with statements
when they need no bounds, and with the code of a failing database otherwise.
-/

set_option autoImplicit false

namespace TableExport.Program

open TableExport.Database
open TableExport.Log

def environment : IO Options.Environment := do
  let found ← (homeVariable :: Options.variableNames).mapM fun name => do
    let value ← IO.getEnv name
    pure (value.map fun value => (name, value))
  pure (found.filterMap id)

def now : IO Calendar.Instant := do
  let stamp ← Std.Time.Timestamp.now
  match Calendar.Instant.ofEpochSeconds? stamp.toSecondsSinceUnixEpoch.val with
  | some instant => pure instant
  | none => throw (IO.userError "the clock is beyond the calendar")

def withPath (tree : Files.Tree) (path : String) : IO Files.Tree := do
  let steps := Files.resolvedSteps path
  match ← (IO.FS.readBinFile path).toBaseIO with
  | .ok bytes => pure (tree.plant steps (.file bytes.toList))
  | .error (.inappropriateType ..) => pure (tree.plant steps .folder)
  | .error _ => pure tree

def namedPaths : Options.Reading → List String
  | .options options =>
      [options.sqlFile, options.passwordFile].filterMap fun path => path.bind Given.filled?
  | .exit _ => []
  | .failure _ => []

def unreachable : Behaviour :=
  { Behaviour.silent with connectError := some "no driver is installed" }

/-- What a run stands on; its measured times are zero, since nothing is ever measured. -/
def setting (environment : Options.Environment) (now : Calendar.Instant) : Setting :=
  { environment := environment
    now := now
    database := unreachable
    probeTime := .zero
    queryTime := .zero
    totalTime := .zero }

def stamp (now : Calendar.Instant) : String :=
  "[" ++ now.date.display ++ " " ++ now.clock ++ "] "

def stamped (now : Calendar.Instant) (records : List Record) : String :=
  String.join (records.map fun record => stamp now ++ record.line ++ "\n")

/-- Appends to the log file, if there is one; a file out of reach is only complained of. -/
def appendLog (path : Option String) (text : String) : IO Unit :=
  match path with
  | none => pure ()
  | some path => do
      try
        let folder := Files.folderText path
        if !folder.isEmpty then IO.FS.createDirAll folder
        let handle ← IO.FS.Handle.mk path .append
        handle.putStr text
      catch fault => IO.eprintln fault

def conclude : Run.Ending → IO UInt32
  | .code code => pure code.toUInt32
  | .exit .help => do
      IO.println Options.usage
      pure 0
  | .exit (.usage fault) => do
      IO.eprintln Options.usage
      IO.eprintln fault.complaint
      pure 2
  | .broken failure => do
      IO.eprintln failure.message
      pure 1

def run (arguments : List String) : IO UInt32 := do
  let environment ← environment
  let now ← now
  let files ← (namedPaths (Options.read environment arguments)).foldlM withPath
    Files.Tree.empty
  match Logger.make environment none (stamp now) files with
  | .error fault => conclude (.broken (.level fault))
  | .ok (logger, files) =>
      let (ending, session) := Run.commandLine (setting environment now) arguments
        { journal := logger.journal
          files := files
          openings := []
          parts := []
          printed := "" }
      let log := stamped now session.journal.records
      IO.print session.printed
      IO.eprint log
      appendLog logger.file log
      conclude ending

end TableExport.Program

def main (arguments : List String) : IO UInt32 :=
  TableExport.Program.run arguments
