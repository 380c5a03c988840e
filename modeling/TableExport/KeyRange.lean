import TableExport.Text.Numeral

/-!
Ranges of integer keys and the division of one range into several. The parts
are in ascending order, each begins where the one before it ended, and there are
at most as many as were asked for; there may be fewer.
-/

set_option autoImplicit false

namespace TableExport

open TableExport.Text

structure KeyRange where
  low : Int
  high : Int
deriving DecidableEq, Repr

namespace KeyRange

def quotientUp (dividend divisor : Int) : Int :=
  -((-dividend).fdiv divisor)

def partWidth (span parts : Int) : Int :=
  max 1 (quotientUp span parts)

def partCount (span width : Int) : Nat :=
  (quotientUp span width).toNat

/-- The part with the given place; only the last part ends at the end of the whole. -/
def part (whole : KeyRange) (width : Int) (count place : Nat) : KeyRange :=
  let low := whole.low + place * width
  { low := low
    high := if place + 1 = count then whole.high else low + width - 1 }

def parts (whole : KeyRange) (width : Int) : List KeyRange :=
  let count := partCount (whole.high - whole.low) width
  (List.range count).map (whole.part width count)

/-- Divides a range into at most the given count of parts, which must be positive. A range
of one key, or one that ends before it begins, stays whole. -/
def divided (whole : KeyRange) (parallelism : Int) : List KeyRange :=
  if whole.high ≤ whole.low then [whole]
  else whole.parts (partWidth (whole.high - whole.low) parallelism)

def condition (range : KeyRange) (column : String) : Except Numeral.Fault String := do
  let low ← Numeral.write range.low
  let high ← Numeral.write range.high
  pure (column ++ " >= " ++ low ++ " AND " ++ column ++ " <= " ++ high)

end KeyRange

end TableExport
