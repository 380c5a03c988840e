import TableExport.Text.Numeral
import TableExport.Number.Binary64

/-!
What can go wrong with calendar values. A field fault names the first field that
is outside its range; the other faults say that a result lies beyond the
calendar, which holds the years 1 to 9999, or beyond the sizes it can count.
-/

set_option autoImplicit false

namespace TableExport.Calendar

open TableExport.Text
open TableExport.Number

inductive FieldFault where
  | year (value : Int)
  | month
  | day
  | hour
  | minute
  | second
  | offsetShape (text : String)
  | offsetSize (text : String)
deriving DecidableEq, Repr

inductive Fault where
  | field (fault : FieldFault)
  | beyondCalendar
  | yearTooLong
  | yearTooLarge
  | yearTooSmall
  | daysTooLong
  | daysTooMany (days : Int)
  | number (fault : Binary64.Fault)
deriving DecidableEq, Repr

def FieldFault.message : FieldFault → String
  | .year value => "year " ++ Numeral.ofInt value ++ " is out of range"
  | .month => "month must be in 1..12"
  | .day => "day is out of range for month"
  | .hour => "hour must be in 0..23"
  | .minute => "minute must be in 0..59"
  | .second => "second must be in 0..59"
  | .offsetShape text => "invalid offset " ++ text
  | .offsetSize text => "offset " ++ text ++ " out of range"

def Fault.message : Fault → String
  | .field fault => fault.message
  | .beyondCalendar => "date value out of range"
  | .yearTooLong => "Python int too large to convert to C long"
  | .yearTooLarge => "signed integer is greater than maximum"
  | .yearTooSmall => "signed integer is less than minimum"
  | .daysTooLong => "Python int too large to convert to C int"
  | .daysTooMany days =>
      "days=" ++ Numeral.ofInt days ++ "; must have magnitude <= 999999999"
  | .number fault => fault.message

end TableExport.Calendar
