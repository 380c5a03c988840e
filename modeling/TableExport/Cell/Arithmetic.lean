import TableExport.Cell
import TableExport.Number.Quantity

/-!
Cells that are compared, added and divided. Numbers go by their values, and a
truth value is one or zero; texts, bytes and dates compare among themselves in
their usual order. Any other pair is refused, and the fault names the sign of
the operation and the types on both sides of it.
-/

set_option autoImplicit false

namespace TableExport

open TableExport.Text
open TableExport.Number
open TableExport.Calendar

inductive Sign where
  | less
  | lessOrEqual
  | greater
  | plus
  | divided
deriving DecidableEq, Repr

def Sign.text : Sign → String
  | .less => "<"
  | .lessOrEqual => "<="
  | .greater => ">"
  | .plus => "+="
  | .divided => "/"

namespace Cell

inductive Fault where
  | unordered (sign : Sign) (left right : String)
  | unsupported (sign : Sign) (left right : String)
  | numeral (fault : Numeral.Fault)
  | number (fault : Quantity.Fault)
deriving DecidableEq, Repr

def Fault.message : Fault → String
  | .unordered sign left right =>
      "'" ++ sign.text ++ "' not supported between instances of '" ++ left ++ "' and '" ++
        right ++ "'"
  | .unsupported sign left right =>
      "unsupported operand type(s) for " ++ sign.text ++ ": '" ++ left ++ "' and '" ++
        right ++ "'"
  | .numeral fault => fault.message
  | .number fault => fault.message

def quantity? : Cell → Option Quantity
  | .boolean value => some (.integer (if value then 1 else 0))
  | .integer value => some (.integer value)
  | .real value => some (.real value)
  | .decimal value => some (.decimal value)
  | _ => none

def ofQuantity : Quantity → Cell
  | .integer value => .integer value
  | .real value => .real value
  | .decimal value => .decimal value

def bytesBefore : List UInt8 → List UInt8 → Bool
  | _, [] => false
  | [], _ :: _ => true
  | first :: left, second :: right =>
      first < second || (first == second && bytesBefore left right)

def before? : Cell → Cell → Option Bool
  | .text first, .text second => some (first < second)
  | .bytes first, .bytes second => some (bytesBefore first second)
  | .date first, .date second => some (first.dayNumber < second.dayNumber)
  | _, _ => none

/-- Whether the first cell is below the second, with the fault for cells without an order. -/
def below (refusal : Fault) (first second : Cell) : Except Fault Bool :=
  match first.quantity?, second.quantity? with
  | some left, some right => (left.less right).mapError .number
  | _, _ =>
      match before? first second with
      | some answer => .ok answer
      | none => .error refusal

def less (first second : Cell) : Except Fault Bool :=
  below (.unordered .less first.typeWord second.typeWord) first second

def greater (first second : Cell) : Except Fault Bool :=
  below (.unordered .greater first.typeWord second.typeWord) second first

def operands (sign : Sign) (first second : Cell) : Except Fault (Quantity × Quantity) :=
  match first.quantity?, second.quantity? with
  | some left, some right =>
      if left.mixes right then .ok (left, right)
      else .error (.unsupported sign first.typeWord second.typeWord)
  | _, _ => .error (.unsupported sign first.typeWord second.typeWord)

def plus (first second : Cell) : Except Fault Quantity := do
  let (left, right) ← operands .plus first second
  (left.add right).mapError .number

def dividedBy (first second : Cell) : Except Fault Quantity := do
  let (left, right) ← operands .divided first second
  (left.divide right).mapError .number

def shown (cell : Cell) : Except Fault String :=
  cell.plain.mapError .numeral

/-- A number with a fixed count of decimals; any other cell as plain text. -/
def fixed (places : Nat) (cell : Cell) : Except Fault String :=
  match cell.quantity? with
  | some value => (value.fixed places).mapError .number
  | none => cell.shown

end Cell

end TableExport
