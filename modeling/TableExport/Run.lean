import TableExport.Admission
import TableExport.Export
import TableExport.Options.CommandLine

/-!
A whole run: from a command line to printed statements or to part files. A run
ends with a code, or it leaves through the command line, or it is broken off by
a failure that no code stands for.
-/

set_option autoImplicit false

namespace TableExport.Run

open TableExport.Text
open TableExport.Connection
open TableExport.Log

inductive Ending where
  | code (number : Nat)
  | exit (exit : Options.Exit)
  | broken (failure : Failure)
deriving DecidableEq, Repr

def codeOk : Nat := 0

def codeFailed : Nat := 1

def codeConfiguration : Nat := 2

def codeDatabase : Nat := 3

def accept (setting : Setting) (options : Options) : Work Query.Request := do
  let session ← get
  let request ← ofExcept (admitted options session.files setting.now)
  let event ← ofExcept (admissionEvent request)
  Work.tell event
  pure request

/-- The configuration of the connection; the password is looked up before the address is
read. -/
def configure (setting : Setting) (options : Options) : Work Config := do
  let session ← get
  let password ← ofExcept (options.resolvedPassword setting.environment session.files)
  ofExcept ((Config.ofUrl options.connectionUrl options.username password).mapError
    Failure.ofConnection)

/-- The statements of a request, over a connection when it is split. -/
def plan (setting : Setting) (config : Config) (request : Query.Request) :
    Work (List String) := do
  let duration := Cell.real setting.probeTime
  if request.isSplit then
    match ← Work.connect setting config with
    | none => Work.planAlone (Planning.statements none request duration)
    | some target =>
        Work.planOver target (Planning.statements (some setting.database) request duration)
  else Work.planAlone (Planning.statements none request duration)

def printStatements : List String → Work Unit
  | [] => pure ()
  | statement :: rest => do
      Work.print (statement ++ "\n")
      printStatements rest

def exportRows (setting : Setting) (options : Options) (request : Query.Request)
    (config : Config) (statements : List String) (output : String)
    (completion : Export.Completion) : Work Unit := do
  let summary ← Export.perform setting config statements output
    (some options.maxWorkers) options.fetchSize (.text request.exportName) completion
  Work.print ("Exported " ++ Numeral.ofNat summary.rows ++ " rows to " ++
    Numeral.ofNat summary.files.length ++ " files in " ++ output ++ "\n")

/-- Runs options. A dry run without a split needs no configuration. -/
def perform (setting : Setting) (options : Options) (completion : Export.Completion) :
    Work Unit := do
  let request ← accept setting options
  if options.dryRun && !request.isSplit then
    let statements ← Work.planAlone
      (Planning.statements none request (.real setting.probeTime))
    printStatements statements
  else
    let config ← configure setting options
    let output := options.output.bind Given.filled?
    if !options.dryRun && output.isNone then throw (.configuration .outputMissing)
    let statements ← plan setting config request
    if options.dryRun then printStatements statements
    else exportRows setting options request config statements (output.getD "") completion

def concluded (code : Nat) (text : String) : Work Nat := do
  Work.tell (.message .error (.text text))
  pure code

/-- The code for a failure, after it is told; a failure without a code breaks the run off. -/
def codeFor (failure : Failure) : Work Nat :=
  match failure with
  | .configuration cause =>
      concluded codeConfiguration ("Invalid configuration: " ++ cause.message)
  | .literal fault =>
      concluded codeConfiguration ("Invalid configuration: " ++ fault.message)
  | .database cause => concluded codeDatabase ("Database error: " ++ cause.message)
  | .connectionRequired column =>
      concluded codeFailed
        ("Export failed: " ++ (Failure.connectionRequired column).message)
  | other => throw other

def performCoded (setting : Setting) (options : Options) (completion : Export.Completion) :
    Work Nat := do
  let outcome ← (ExceptT.lift (perform setting options completion).run :
    Work (Except Failure Unit))
  match outcome with
  | .ok () => pure codeOk
  | .error failure => codeFor failure

def endingOf : Except Failure Nat → Ending
  | .ok code => .code code
  | .error failure => .broken failure

/-- Runs a command line in a session, with a given order of completion. -/
def commandLineIn (setting : Setting) (arguments : List String)
    (completion : Export.Completion) (session : Session) : Ending × Session :=
  match Options.read setting.environment arguments with
  | .exit exit => (.exit exit, session)
  | .failure failure =>
      let (outcome, session) := (codeFor failure).run session
      (endingOf outcome, session)
  | .options options =>
      let (outcome, session) := (performCoded setting options completion).run session
      (endingOf outcome, session)

/-- Runs a command line in a session; workers complete in the order of the statements. -/
def commandLine (setting : Setting) (arguments : List String) (session : Session) :
    Ending × Session :=
  commandLineIn setting arguments id session

end TableExport.Run
