import TableExport.Calendar.Date

/-!
Instants: a date and a time of day on a clock that is a known distance from
universal time. Instants compare by the moment they name, so two clocks can show
different dates for equal instants.
-/

set_option autoImplicit false

namespace TableExport.Calendar

open TableExport.Text

def microsPerSecond : Nat := 1000000

def microsPerDay : Nat := 86400 * microsPerSecond

/-- A date, the microseconds since its midnight, and the clock's lead in seconds. -/
structure Instant where
  date : Date
  micros : Nat
  offset : Int
  micros_lt : micros < microsPerDay
deriving DecidableEq, Repr

namespace Instant

def localMicros (instant : Instant) : Int :=
  (instant.date.dayNumber : Int) * microsPerDay + instant.micros

/-- Microseconds in universal time since the day before the calendar. -/
def moment (instant : Instant) : Int :=
  instant.localMicros - instant.offset * microsPerSecond

def ofLocalMicros? (offset micros : Int) : Option Instant :=
  (Date.ofDayNumber? (micros / microsPerDay)).map fun date =>
    { date := date
      micros := (micros % microsPerDay).toNat
      offset := offset
      micros_lt := by
        have positive : (0 : Int) < microsPerDay := by decide
        have low := Int.emod_nonneg micros (Int.ne_of_gt positive)
        have high := Int.emod_lt_of_pos micros positive
        omega }

def epochDay : Nat := 719163

def ofEpochSeconds? (seconds : Int) : Option Instant :=
  ofLocalMicros? 0 (epochDay * microsPerDay + seconds * microsPerSecond)

def toUniversal (instant : Instant) : Except Fault Instant :=
  match ofLocalMicros? 0 instant.moment with
  | some universal => .ok universal
  | none => .error .beyondCalendar

def isAfter (later earlier : Instant) : Bool :=
  earlier.moment < later.moment

/-- The instant with a date and a time of day; a fault names the first field out of range. -/
def ofFields (date : Except FieldFault Date) (hour minute second : Nat) (offset : Int) :
    Except FieldFault Instant := do
  let date ← date
  if hours : hour < 24 then
    if minutes : minute < 60 then
      if seconds : second < 60 then
        pure
          { date := date
            micros := ((hour * 60 + minute) * 60 + second) * microsPerSecond
            offset := offset
            micros_lt := by
              have bound : (hour * 60 + minute) * 60 + second < 86400 := by omega
              exact Nat.mul_lt_mul_of_pos_right bound (by decide) }
      else throw .second
    else throw .minute
  else throw .hour

def seconds (instant : Instant) : Nat :=
  instant.micros / microsPerSecond

def clock (instant : Instant) : String :=
  Numeral.padded 2 (instant.seconds / 3600) ++ ":" ++
    Numeral.padded 2 (instant.seconds / 60 % 60) ++ ":" ++
    Numeral.padded 2 (instant.seconds % 60)

/-- An offset as in +05:30, with seconds only when there are any. -/
def offsetDisplay (offset : Int) : String :=
  let size := offset.natAbs
  (if offset < 0 then "-" else "+") ++ Numeral.padded 2 (size / 3600) ++ ":" ++
    Numeral.padded 2 (size / 60 % 60) ++
    (if size % 60 = 0 then "" else ":" ++ Numeral.padded 2 (size % 60))

/-- The instant on its own clock, as in 2027-05-01T00:00:00+00:00. -/
def display (instant : Instant) : String :=
  let fraction := instant.micros % microsPerSecond
  instant.date.display ++ "T" ++ instant.clock ++
    (if fraction = 0 then "" else "." ++ Numeral.padded 6 fraction) ++
    offsetDisplay instant.offset

def universalDate (instant : Instant) : Except Fault String :=
  instant.toUniversal.map fun universal => universal.date.display

/-- The instant as messages show it: in universal time, to the second, and with as
many digits of the year as it has. -/
def shown (instant : Instant) : Except Fault String :=
  instant.toUniversal.map fun universal =>
    Numeral.ofNat universal.date.year ++ "-" ++ Numeral.padded 2 universal.date.month ++
      "-" ++ Numeral.padded 2 universal.date.day ++ "T" ++ universal.clock ++ "Z"

end Instant

end TableExport.Calendar
