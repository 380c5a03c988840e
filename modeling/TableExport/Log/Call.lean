import TableExport.Log.Logger
import TableExport.Log.Signature

/-!
The calls that a logger understands by name. A message takes requests along
under names of their own: to show the failure under way, to add fields to its
record, to count callers. The requests of a message whose level is dropped are
not looked at. Asking for the callers themselves is passed over.
-/

set_option autoImplicit false

namespace TableExport.Log

inductive CallFault where
  | cell (fault : Cell.Fault)
  | misuse (cause : Misuse)
  | notIterable (type : String)
  | fieldByName
  | fieldBeyond
deriving DecidableEq, Repr

def CallFault.message : CallFault → String
  | .cell fault => fault.message
  | .misuse cause => cause.message
  | .notIterable type => "'" ++ type ++ "' object is not iterable"
  | .fieldByName => "string indices must be integers, not 'str'"
  | .fieldBeyond => "index out of range"

def requestNames : List String :=
  ["exc_info", "extra", "stack_info", "stacklevel"]

def requestMisuse? (name : String) : Option Misuse :=
  if name = "args" then some (.repeated "Logger._log" name)
  else if requestNames.contains name then none
  else some (.unexpected "Logger._log" name)

/-- The misuse of several requests; the text itself comes before the others. -/
def requestsMisuse? (requests : List (String × Cell)) : Option Misuse :=
  if (requests.lookup "msg").isSome then some (.repeated "Logger.log" "msg")
  else requests.findSome? fun (name, _) => requestMisuse? name

/-- The fault of fields that are added to a record: the cell must yield names, and each name
must lead to a value. -/
def fieldsFault? : Cell → Option CallFault
  | .null => none
  | .text text => if text.isEmpty then none else some .fieldByName
  | .bytes bytes =>
      if bytes.all fun byte => byte.toNat < bytes.length then none else some .fieldBeyond
  | other => some (.notIterable other.typeWord)

def requestsFault? (requests : List (String × Cell)) : Option CallFault :=
  let callers := (requests.lookup "stacklevel").getD (.integer 1)
  match callers.greater (.integer 0) with
  | .error fault => some (.cell fault)
  | .ok _ => fieldsFault? ((requests.lookup "extra").getD .null)

def asksFailure (requests : List (String × Cell)) : Bool :=
  ((requests.lookup "exc_info").getD .null).isSomething

def Journal.remark (journal : Journal) (level : Level) (message : Cell)
    (requests : List (String × Cell)) : Except CallFault Journal :=
  if (requests.lookup "level").isSome then
    .error (.misuse (.repeated "EnhancedLogger._log" "level"))
  else if !journal.isOpenTo level then .ok journal
  else
    match journal.headed message with
    | .error fault => .error (.cell fault)
    | .ok text =>
        match (requestsMisuse? requests).map .misuse, requestsFault? requests with
        | some fault, _ => .error fault
        | none, some fault => .error fault
        | none, none => .ok (journal.keepAsking level text (asksFailure requests))

def messageLevel? : String → Option Level
  | "debug" => some .debug
  | "info" => some .info
  | "warning" => some .warning
  | "error" => some .error
  | _ => none

def messageSignature (name : String) : Signature :=
  ⟨name, ["message"], [], true⟩

def closedSignature (name : String) (required : List String)
    (defaults : List (String × Cell)) : Signature :=
  ⟨name, required, defaults, false⟩

def callSignature? : String → Option Signature
  | "request_validated" => some (closedSignature "request_validated" ["source"]
      [("partition", .null), ("split_column", .null), ("parallelism", .null)])
  | "probe_completed" => some (closedSignature "probe_completed"
      ["column", "min_value", "max_value", "duration"] [])
  | "queries_built" => some (closedSignature "queries_built" ["count"]
      [("requested_parallelism", .null)])
  | "export_started" => some (closedSignature "export_started"
      ["name", "total_queries", "max_workers"] [])
  | "query_completed" => some (closedSignature "query_completed"
      ["index", "rows", "duration"] [])
  | "query_failed" => some (closedSignature "query_failed" ["index", "error"] [])
  | "export_completed" => some (closedSignature "export_completed"
      ["total_rows", "duration"] [])
  | "export_failed" => some (closedSignature "export_failed" ["error"] [])
  | "set_export_context" => some (closedSignature "set_export_context" ["name"]
      [("total_queries", .integer 0)])
  | "get_export_context" => some (closedSignature "get_export_context" [] [])
  | "clear_export_context" => some (closedSignature "clear_export_context" [] [])
  | _ => none

def callEvent? : String → List Cell → Option Event
  | "request_validated", [source, partition, column, parallelism] =>
      some (.requestValidated source partition column parallelism)
  | "probe_completed", [column, low, high, duration] =>
      some (.probeCompleted column low high duration)
  | "queries_built", [count, parallelism] => some (.queriesBuilt count parallelism)
  | "export_started", [name, total, workers] => some (.exportStarted name total workers)
  | "query_completed", [index, rows, duration] => some (.queryCompleted index rows duration)
  | "query_failed", [index, reason] => some (.queryFailed index reason)
  | "export_completed", [rows, duration] => some (.exportCompleted rows duration)
  | "export_failed", [reason] => some (.exportFailed reason)
  | "set_export_context", [name, total] => some (.progressSet name total)
  | "clear_export_context", [] => some .progressCleared
  | _, _ => none

def Journal.callMessage (journal : Journal) (level : Level) (name : String)
    (arguments : Arguments) : Except CallFault Journal :=
  let signature := messageSignature name
  match signature.values arguments with
  | .error cause => .error (.misuse cause)
  | .ok values =>
      journal.remark level (values.headD .null) (signature.others arguments)

/-- Tells a journal of the event of a call; a call without an event only looks. -/
def Journal.callEvent (journal : Journal) (signature : Signature) (arguments : Arguments) :
    Except CallFault Unit × Journal :=
  match signature.values arguments with
  | .error cause => (.error (.misuse cause), journal)
  | .ok values =>
      match callEvent? signature.name values with
      | none => (.ok (), journal)
      | some event =>
          let (told, journal) := journal.tell event
          (told.mapError .cell, journal)

def Journal.call (journal : Journal) (name : String) (arguments : Arguments) :
    Except CallFault Unit × Journal :=
  match messageLevel? name, callSignature? name with
  | some level, _ =>
      match journal.callMessage level name arguments with
      | .ok journal => (.ok (), journal)
      | .error fault => (.error fault, journal)
  | none, some signature => journal.callEvent signature arguments
  | none, none => (.error (.misuse (.unknown name)), journal)

def Logger.call (logger : Logger) (files : Files.Tree) (name : String)
    (arguments : Arguments) :
    Except CallFault Unit × List Record × Logger × Files.Tree :=
  let (outcome, journal) := logger.journal.call name arguments
  (outcome, logger.goOn files journal)

end TableExport.Log
