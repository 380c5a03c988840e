import TableExport.Database.Dialogue
import TableExport.Log.Journal
import TableExport.Query.Statement

/-!
The plan of an export: the statements to run, in order. Without a split there is
one statement and no call is made. With a split the bounds of the column are
asked for over the filtered statement, without its limit, and there is one
statement for each part of the range between them.
-/

set_option autoImplicit false

namespace TableExport

open TableExport.Text
open TableExport.Query
open TableExport.Database
open TableExport.Log

structure Exchange where
  journal : Journal
  calls : List Call
deriving DecidableEq, Repr

abbrev Planning (α : Type) := ExceptT Failure (StateM Exchange) α

namespace Planning

def tell (event : Event) : Planning Unit := do
  let exchange ← get
  let (told, journal) := exchange.journal.tell event
  set { exchange with journal := journal }
  ofExcept (told.mapError Failure.cell)

def converse {α : Type} (dialogue : Dialogue α) : Planning (Except Refusal α) := do
  let exchange ← get
  let (outcome, calls) := dialogue.run exchange.calls
  set { exchange with calls := calls }
  pure outcome

/-- Divides a range into at most the given count of parts. -/
def divide (whole : KeyRange) (parallelism : Int) : Planning (List KeyRange) := do
  if parallelism ≤ 0 then
    let shown ← ofExcept ((Numeral.write parallelism).mapError Failure.numeral)
    throw (.partsNotPositive shown)
  let parts := whole.divided parallelism
  if whole.low < whole.high then
    tell (.rangeDivided whole.low whole.high parts.length
      (KeyRange.partWidth (whole.high - whole.low) parallelism) parallelism)
  pure parts

def boundsStatement (filtered column : String) : String :=
  "SELECT MIN(" ++ column ++ "), MAX(" ++ column ++ ") FROM (" ++ filtered ++ ")"

def notNumeric (column : String) (low high : Cell) : Failure :=
  match low.quoted, high.quoted with
  | .ok low, .ok high => .database (.notNumeric column low high)
  | .error fault, _ => .numeral fault
  | _, .error fault => .numeral fault

def boundTooLong : Failure :=
  .cell (.number (.decimal .tooLong))

def rangeBetween (column : String) (low high : Cell) : Except Failure KeyRange :=
  if low.isTooLong then .error boundTooLong
  else
    match low.floor? with
    | none => .error (notNumeric column low high)
    | some least =>
        if high.isTooLong then .error boundTooLong
        else
          match high.ceiling? with
          | none => .error (notNumeric column low high)
          | some greatest => .ok ⟨least, greatest⟩

def rangeOfAnswer (column sql : String) (answer : Except Refusal (Option (List Cell))) :
    Except Failure KeyRange :=
  match answer with
  | .error refusal => .error (.database (.probeFailed column sql refusal.message))
  | .ok none => .error (.database (.probeEmpty sql))
  | .ok (some []) => .error (.database (.probeEmpty sql))
  | .ok (some [_]) => .error .rowTooShort
  | .ok (some (low :: high :: _)) => rangeBetween column low high

def probe (behaviour : Behaviour) (filtered column : String) (duration : Cell) :
    Planning KeyRange := do
  let sql := boundsStatement filtered column
  let answer ← converse (Dialogue.askBounds behaviour sql)
  let range ← ofExcept (rangeOfAnswer column sql answer)
  tell (.probeCompleted (.text column) (.integer range.low) (.integer range.high) duration)
  pure range

def splitRanges (connection : Option Behaviour) (request : Request) (duration : Cell) :
    Planning (List KeyRange) :=
  match connection with
  | none => throw (.connectionRequired request.shownSplitColumn)
  | some behaviour => do
      let filtered ← ofExcept request.filteredStatement
      let range ← probe behaviour filtered request.shownSplitColumn duration
      match request.parallelism with
      | none => throw .absentCount
      | some parallelism => divide range parallelism

def statements (connection : Option Behaviour) (request : Request) (duration : Cell) :
    Planning (List String) := do
  let filtered ← ofExcept request.filteredStatement
  let limit ← ofExcept request.limitClause
  let built ←
    if request.isSplit then do
      let ranges ← splitRanges connection request duration
      ofExcept (ranges.mapM (rangedStatement filtered request.shownSplitColumn limit))
    else pure [filtered ++ limit]
  tell (.queriesBuilt (.integer built.length) (request.parallelism.elim .null Cell.integer))
  pure built

end Planning

end TableExport
