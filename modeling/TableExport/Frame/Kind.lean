import TableExport.Cell

/-!
The kinds of columns and the cells they hold. Integers come in two kinds: those
of one word and those of two. A wider kind takes the cells of a narrower one,
converted; a column of texts shows them.
-/

set_option autoImplicit false

namespace TableExport.Frame

open TableExport.Text
open TableExport.Number

inductive Kind where
  | null
  | boolean
  | integer
  | wideInteger
  | real
  | text
deriving DecidableEq, Repr

def Kind.width : Kind → Nat
  | .null => 0
  | .boolean => 1
  | .integer => 2
  | .wideInteger => 3
  | .real => 4
  | .text => 5

def Kind.join (first second : Kind) : Kind :=
  if first.width < second.width then second else first

def wordBound : Int := 9223372036854775808

def twoWordBound : Int := wordBound * wordBound * 2

/-- Whether a bound holds an integer; its negative still does, the bound itself does not. -/
def isWithin (bound value : Int) : Bool :=
  -bound ≤ value && value < bound

def kindOf : Cell → Kind
  | .null => .null
  | .boolean _ => .boolean
  | .integer value => if isWithin wordBound value then .integer else .wideInteger
  | .real _ => .real
  | _ => .text

def textOf : Cell → Cell
  | .null => .null
  | .boolean value => .text (if value then "true" else "false")
  | .integer value => .text (Numeral.ofInt value)
  | .real value => .text value.shortest
  | .decimal value => .text value.display
  | .text value => .text value
  | .bytes value => .text (quotedBytes value)
  | .date value => .text value.display

def truthNumber (value : Bool) : Nat :=
  if value then 1 else 0

/-- Converts a cell to a kind that is at least as wide as its own. -/
def convert (kind : Kind) (cell : Cell) : Cell :=
  match kind, cell with
  | .integer, .boolean value => .integer (truthNumber value)
  | .wideInteger, .boolean value => .integer (truthNumber value)
  | .real, .boolean value => .real (Binary64.ofNat (truthNumber value))
  | .real, .integer value => .real (Binary64.ofRatio (value < 0) value.natAbs 1)
  | .text, cell => textOf cell
  | _, cell => cell

/-- The cell of a row in a column, null when the row is too short. -/
def cellAt (row : List Cell) (column : Nat) : Cell :=
  row.getD column .null

def columnKind (rows : List (List Cell)) (column : Nat) : Kind :=
  rows.foldl (fun kind row => kind.join (kindOf (cellAt row column))) .null

def kindsOf (width : Nat) (rows : List (List Cell)) : List Kind :=
  (List.range width).map (columnKind rows)

def convertRow (kinds : List Kind) (row : List Cell) : List Cell :=
  kinds.zipIdx.map fun (kind, column) => convert kind (cellAt row column)

def unify (width : Nat) (rows : List (List Cell)) : List Kind × List (List Cell) :=
  let kinds := kindsOf width rows
  (kinds, rows.map (convertRow kinds))

def joinKinds (width : Nat) (batches : List (List Kind)) : List Kind :=
  (List.range width).map fun column =>
    batches.foldl (fun kind kinds => kind.join (kinds.getD column .null)) .null

end TableExport.Frame
