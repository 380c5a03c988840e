import TableExport.Cell.Arithmetic

/-!
Sizes and durations in messages. A unit is chosen by size and one decimal is
shown; small counts are shown whole. A measure may be any cell: one that does
not compare with numbers, or whose quotient cannot be held, has no display.
-/

set_option autoImplicit false

namespace TableExport.Log

open TableExport.Text
open TableExport.Number

def countText (count : Int) : Except Cell.Fault String :=
  (Cell.integer count).shown

def unitText (measure : Cell) (unit : Nat) (letter : String) : Except Cell.Fault String := do
  let quotient ← measure.dividedBy (.integer unit)
  let shown ← (quotient.fixed 1).mapError Cell.Fault.number
  pure (shown ++ letter)

def durationText (seconds : Cell) : Except Cell.Fault String := do
  if ← seconds.less (.integer 60) then
    let shown ← seconds.fixed 1
    pure (shown ++ "s")
  else if ← seconds.less (.integer 3600) then unitText seconds 60 "m"
  else unitText seconds 3600 "h"

/-- A count of rows: whole below a thousand, then in thousands, millions or billions. -/
def rowsText (count : Cell) : Except Cell.Fault String := do
  if ← count.less (.integer 1000) then count.shown
  else if ← count.less (.integer 1000000) then unitText count 1000 "K"
  else if ← count.less (.integer 1000000000) then unitText count 1000000 "M"
  else unitText count 1000000000 "B"

/-- Rows per second, without a fraction; zero for a duration that is not positive. -/
def throughput (rows seconds : Cell) : Except Cell.Fault Int := do
  if ← seconds.greater (.integer 0) then
    let quotient ← rows.dividedBy seconds
    quotient.truncate.mapError .number
  else pure 0

def memoryText : Option Int → Except Cell.Fault String
  | none => .ok "Unknown"
  | some bytes => do
      let units ← (Cell.integer bytes).dividedBy (.integer 1024)
      let shown ← ((units.divide (.integer 1024)).bind (Quantity.fixed 1)).mapError
        Cell.Fault.number
      pure (shown ++ "MB")

end TableExport.Log
