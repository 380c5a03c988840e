import TableExport.Failure
import TableExport.KeyRange
import TableExport.Query.Request

/-!
The text of the statements of a request: the source, then the window of the
partition, then the range of keys, then the limit. The window is computed on
dates of universal time; each part that is not asked for is empty.
-/

set_option autoImplicit false

namespace TableExport.Query

open TableExport.Text
open TableExport.Calendar

structure Window where
  column : String
  start : String
  stop : String
deriving DecidableEq, Repr

def Window.condition (window : Window) : String :=
  " AND " ++ window.column ++ " >= '" ++ window.start ++ "' AND " ++ window.column ++
    " < '" ++ window.stop ++ "'"

def windowEnd (period : Period) (instant : Instant) : Except Fault String := do
  let later ← period.addedTo instant
  later.universalDate

namespace Request

/-- The window of the partition, when both the partition and its column are given. -/
def window? (request : Request) : Except Fault (Option Window) :=
  match request.partitionColumn, request.partition with
  | some column, some partition => do
      let start ← partition.universalDate
      let stop ← windowEnd request.partitionPeriod partition
      pure (some ⟨column.shown, start, stop⟩)
  | _, _ => .ok none

def partitionCondition (request : Request) : Except Failure String :=
  match request.window? with
  | .ok none => .ok ""
  | .ok (some window) => .ok window.condition
  | .error fault => .error (.calendar fault)

def limitClause (request : Request) : Except Failure String :=
  match request.limit with
  | none => .ok ""
  | some limit =>
      match Numeral.write limit with
      | .ok shown => .ok (" LIMIT " ++ shown)
      | .error fault => .error (.numeral fault)

def filteredStatement (request : Request) : Except Failure String := do
  let condition ← request.partitionCondition
  pure (request.source.statement ++ condition)

def shownSplitColumn (request : Request) : String :=
  (request.splitColumn.map Given.shown).getD "None"

end Request

def rangedStatement (filtered column limit : String) (range : KeyRange) :
    Except Failure String :=
  match range.condition column with
  | .ok condition => .ok (filtered ++ " AND " ++ condition ++ limit)
  | .error fault => .error (.numeral fault)

end TableExport.Query
