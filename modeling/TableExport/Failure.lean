import TableExport.Cell.Arithmetic
import TableExport.Connection.Config
import TableExport.Files.Tree
import TableExport.Frame.Fault
import TableExport.Literal.Instant
import TableExport.Literal.Period
import TableExport.Log.Level

/-!
Everything that can end a piece of work. The first four constructors are the
expected ones: wrong options, an unreadable literal, a failing database, and a
broken contract between the parts. The others are faults of single values that
no part of the program takes upon itself. `message` is the text of each.
-/

set_option autoImplicit false

namespace TableExport

open TableExport.Text
open TableExport.Number
open TableExport.Connection

inductive ConfigurationCause where
  | sourceMissing
  | partitionMissing
  | splitIncomplete
  | parallelismNotPositive (shown : String)
  | limitNotPositive (shown : String)
  | partitionTooOld (partition minimum : String)
  | tableName (name : Option String)
  | blankSql
  | unreadableFile (path : String) (fault : Files.Fault)
  | environmentInteger (name value : String)
  | connection (fault : ConnectionFault)
  | outputMissing
  | unsupportedDatabase (name : String)
deriving DecidableEq, Repr

def tableNameForm : String := "^[a-zA-Z_][a-zA-Z0-9_]*$"

def ConfigurationCause.message : ConfigurationCause → String
  | .sourceMissing => "Either --table or --sqlFile must be configured"
  | .partitionMissing =>
      "To use --partitionColumn the --partition parameter must also be configured"
  | .splitIncomplete =>
      "Either both --queryParallelism and --splitColumn must be present or none of them"
  | .parallelismNotPositive shown =>
      "Query Parallelism must be a positive number. Specified queryParallelism was " ++ shown
  | .limitNotPositive shown => "--limit must be a positive number, got " ++ shown
  | .partitionTooOld partition minimum =>
      "Too old partition date " ++ partition ++ ". Use a partition date >= " ++ minimum ++
        " or use --skipPartitionCheck"
  | .tableName name =>
      "'table' must follow " ++ tableNameForm ++
        " (letters, digits and underscore, no schema prefix), got: " ++ name.getD "None"
  | .blankSql => "'sqlFile' must contain a SQL query"
  | .unreadableFile path fault => "Could not read file " ++ path ++ ": " ++ fault.message
  | .environmentInteger name value => name ++ " must be an integer, got: " ++ value
  | .connection fault => fault.message
  | .outputMissing => "--output must be configured unless --dryRun is used"
  | .unsupportedDatabase name => "Unsupported database type for data source: " ++ name

inductive DatabaseCause where
  | unreachable (kind : DatabaseKind) (database : Option String) (reason : String)
  | probeFailed (column sql reason : String)
  | probeEmpty (sql : String)
  | notNumeric (column low high : String)
  | queryFailed (index : Nat) (reason : String)
  | exportFailed (failed total index : Nat) (reason : String)
deriving DecidableEq, Repr

def DatabaseCause.message : DatabaseCause → String
  | .unreachable kind database reason =>
      "Could not connect to " ++ kind.name ++ " database " ++ database.getD "None" ++ ": " ++
        reason
  | .probeFailed column sql reason =>
      "Failed to probe bounds of " ++ column ++ " with '" ++ sql ++ "': " ++ reason
  | .probeEmpty sql => "Probe query returned no rows: '" ++ sql ++ "'"
  | .notNumeric column low high =>
      "Split column " ++ column ++ " is not numeric: " ++ low ++ ", " ++ high
  | .queryFailed index reason =>
      "Query " ++ Numeral.ofNat index ++ " failed: " ++ reason
  | .exportFailed failed total index reason =>
      Numeral.ofNat failed ++ "/" ++ Numeral.ofNat total ++ " queries failed, first: query " ++
        Numeral.ofNat index ++ ": " ++ reason

inductive Failure where
  | configuration (cause : ConfigurationCause)
  | literal (fault : Literal.Fault)
  | database (cause : DatabaseCause)
  | connectionRequired (column : String)
  | calendar (fault : Calendar.Fault)
  | numeral (fault : Numeral.Fault)
  | cell (fault : Cell.Fault)
  | misuse (kind : Given.Misuse)
  | encoding (fault : Utf8.Fault)
  | file (fault : Files.Fault)
  | frame (fault : Frame.Fault)
  | address (fault : AddressFault)
  | level (fault : Log.LevelFault)
  | partsNotPositive (shown : String)
  | rowTooShort
  | connectionAbsent
deriving DecidableEq, Repr

namespace Failure

def message : Failure → String
  | .configuration cause => cause.message
  | .literal fault => fault.message
  | .database cause => cause.message
  | .connectionRequired column => "A database connection is required to split on " ++ column
  | .calendar fault => fault.message
  | .numeral fault => fault.message
  | .cell fault => fault.message
  | .misuse kind => kind.message
  | .encoding fault => fault.message
  | .file fault => fault.message
  | .frame fault => fault.message
  | .address fault => fault.message
  | .level fault => fault.message
  | .partsNotPositive shown => "parallelism must be positive, got " ++ shown
  | .rowTooShort => "tuple index out of range"
  | .connectionAbsent => "'NoneType' object has no attribute 'close'"

/-- The failure of a count that is struck where it is compared with a number. -/
def struckCount : Failure :=
  .cell (.unordered .lessOrEqual Given.struckWord (Cell.integer 0).typeWord)

/-- The failure of a count that is absent where it is compared with a number. -/
def absentCount : Failure :=
  .cell (.unordered .lessOrEqual Cell.null.typeWord (Cell.integer 0).typeWord)

def ofInstant : Literal.InstantFault → Failure
  | .literal fault => .literal fault
  | .calendar fault => .calendar fault

def ofPeriod : Literal.PeriodFault → Failure
  | .literal fault => .literal fault
  | .number fault => .numeral fault
  | .calendar fault => .calendar fault

/-- A fault of an address is nobody's; the other faults of a connection are the options'. -/
def ofConnection : ConnectionFault → Failure
  | .address fault => .address fault
  | other => .configuration (.connection other)

/-- A file that cannot be read is a fault of the options; one that holds no text is not,
and neither is a path that is none. -/
def ofText (path : String) : Files.TextFault → Failure
  | .file .nullByte => .file .nullByte
  | .file fault => .configuration (.unreadableFile path fault)
  | .encoding fault => .encoding fault

end Failure

end TableExport
