import TableExport.Files.Tree
import TableExport.Log.Journal
import TableExport.Options.Environment

/-!
A logger writes over a channel: the console, and a file to which every record is
appended if it could be opened. A file that cannot be opened is reported once and
the logger goes on without it; only a threshold that is no level keeps a logger
from being made. Channels are kept by name and outlive the loggers over them: one
that has a place to write to is taken as it is, also when it was left half set up.
-/

set_option autoImplicit false

namespace TableExport.Log

open TableExport.Options

inductive Sink where
  | console
  | file (path : String)
deriving DecidableEq, Repr

structure Channel where
  sinks : List Sink
  weight : Nat
  propagates : Bool
deriving DecidableEq, Repr

def Channel.fresh : Channel := ⟨[], 0, true⟩

def Channel.file? (channel : Channel) : Option String :=
  channel.sinks.findSome? fun sink =>
    match sink with
    | .console => none
    | .file path => some path

def Channel.attach (sink : Sink) (channel : Channel) : Channel :=
  { channel with sinks := channel.sinks ++ [sink] }

structure Site where
  channel : Channel
  journal : Journal
  files : Files.Tree
deriving DecidableEq, Repr

def Site.fresh (memory : Option Int) (files : Files.Tree) : Site :=
  { channel := .fresh
    journal :=
      { threshold := thresholdOf Channel.fresh.weight
        memory := memory
        progress := none
        records := [] }
    files := files }

def fileMessage (path : String) (fault : Files.Fault) : String :=
  "Failed to setup file logging to " ++ path ++ ": " ++ fault.message

/-- Attaches the log file that the environment names, if it names one that can be opened. -/
def Site.openFile (environment : Environment) (site : Site) : Site :=
  match environment.value? "LOG_FILE" with
  | none => site
  | some path =>
      match site.files.openLog path with
      | .ok files => { site with channel := site.channel.attach (.file path), files := files }
      | .error fault =>
          { site with journal := site.journal.keep .warning (fileMessage path fault) }

def levelName (environment : Environment) : String :=
  (environment.get? (variableName "LOG_LEVEL")).getD "INFO"

/-- Sets the level of a channel, and keeps its records to itself from then on. -/
def Site.setWeight (weight : Nat) (site : Site) : Site :=
  { site with
    channel := { site.channel with weight := weight, propagates := false }
    journal := { site.journal with threshold := thresholdOf weight } }

def setUp (environment : Environment) : ExceptT LevelFault (StateM Site) Unit := do
  let site ← get
  if site.channel.sinks.isEmpty then
    set { site with channel := site.channel.attach .console }
    modify (Site.openFile environment)
    let weight ← ofExcept (namedWeight (levelName environment))
    modify (Site.setWeight weight)

/-- Constructs a logger on a site; a new logger knows of no progress. -/
def construct (environment : Environment) (site : Site) : Except LevelFault Unit × Site :=
  (setUp environment).run { site with journal := { site.journal with progress := none } }

structure Logger where
  journal : Journal
  channel : Channel
  stamp : String
deriving DecidableEq, Repr

namespace Logger

def sinkCount (logger : Logger) : Nat :=
  logger.channel.sinks.length

def weight (logger : Logger) : Nat :=
  logger.channel.weight

def file (logger : Logger) : Option String :=
  logger.channel.file?

def make (environment : Environment) (memory : Option Int) (stamp : String)
    (files : Files.Tree) : Except LevelFault (Logger × Files.Tree) :=
  match construct environment (Site.fresh memory files) with
  | (.ok (), site) => .ok (⟨site.journal, site.channel, stamp⟩, site.files)
  | (.error fault, _) => .error fault

/-- The lines that records add to a file, where each record is masked once more. -/
def fileText (stamp : String) (records : List Record) : String :=
  String.join (records.map fun record =>
    stamp ++ "[" ++ record.level.label ++ "] " ++ record.shownText (redact record.text) ++
      "\n")

def goOn (logger : Logger) (files : Files.Tree) (journal : Journal) :
    List Record × Logger × Files.Tree :=
  let added := journal.records.drop logger.journal.records.length
  let files :=
    match logger.file with
    | none => files
    | some path => files.append path (Text.Utf8.encode (fileText logger.stamp added))
  (added, { logger with journal := journal }, files)

def tell (logger : Logger) (files : Files.Tree) (event : Event) :
    Except Cell.Fault Unit × List Record × Logger × Files.Tree :=
  let (told, journal) := logger.journal.tell event
  (told, logger.goOn files journal)

/-- The same logger seen anew: over the same channel, without progress. -/
def again (logger : Logger) : Logger :=
  { logger with journal := { logger.journal with progress := none } }

end Logger

end TableExport.Log
