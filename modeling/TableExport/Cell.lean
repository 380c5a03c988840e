import TableExport.Calendar.Date
import TableExport.Number.Decimal
import TableExport.Text.Quoted

/-!
Values in the cells of a table. A cell has a plain text, a quoted display that
tells its type, and, when it is a finite number, the integers just below and
above it, unless those are too long to be written out.
-/

set_option autoImplicit false

namespace TableExport

open TableExport.Text
open TableExport.Number
open TableExport.Calendar

inductive Cell where
  | null
  | boolean (value : Bool)
  | integer (value : Int)
  | real (value : Binary64)
  | decimal (value : Decimal)
  | text (value : String)
  | bytes (value : List UInt8)
  | date (value : Date)
deriving DecidableEq, Repr

namespace Cell

def truthText (value : Bool) : String :=
  if value then "True" else "False"

def typeWord : Cell → String
  | .null => "NoneType"
  | .boolean _ => "bool"
  | .integer _ => "int"
  | .real _ => "float"
  | .decimal _ => "decimal.Decimal"
  | .text _ => "str"
  | .bytes _ => "bytes"
  | .date _ => "datetime.date"

def plain : Cell → Except Numeral.Fault String
  | .null => .ok "None"
  | .boolean value => .ok (truthText value)
  | .integer value => Numeral.write value
  | .real value => .ok value.shortest
  | .decimal value => .ok value.display
  | .text value => .ok value
  | .bytes value => .ok (quotedBytes value)
  | .date value => .ok value.display

def quoted : Cell → Except Numeral.Fault String
  | .decimal value => .ok ("Decimal('" ++ value.display ++ "')")
  | .text value => .ok (Text.quoted value)
  | .date value =>
      .ok ("datetime.date(" ++ Numeral.ofNat value.year ++ ", " ++
        Numeral.ofNat value.month ++ ", " ++ Numeral.ofNat value.day ++ ")")
  | other => other.plain

/-- Whether the cell counts as something: neither null, nor a zero, nor empty. -/
def isSomething : Cell → Bool
  | .null => false
  | .boolean value => value
  | .integer value => value != 0
  | .real (.finite _ mantissa _) => mantissa != 0
  | .real _ => true
  | .decimal (.finite _ digits _) => digits != 0
  | .decimal _ => true
  | .text value => !value.isEmpty
  | .bytes value => !value.isEmpty
  | .date _ => true

/-- Whether a number is too long for the integers around it to be written out. -/
def isTooLong : Cell → Bool
  | .decimal value => value.isTooLong
  | _ => false

/-- A number brought to an integer by a rounding of quotients; null counts as zero. -/
def rounded? (rounding : Int → Int → Int) : Cell → Option Int
  | .null => some 0
  | .boolean value => some (if value then 1 else 0)
  | .integer value => some value
  | .real value => (value.toIntegerBy rounding).toOption
  | .decimal value => (value.toIntegerBy rounding).toOption
  | .text _ => none
  | .bytes _ => none
  | .date _ => none

def floor? : Cell → Option Int :=
  rounded? Int.fdiv

def ceiling? : Cell → Option Int :=
  rounded? Binary64.quotientUp

end Cell

end TableExport
