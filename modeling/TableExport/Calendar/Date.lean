import TableExport.Calendar.Fault

/-!
Dates of the Gregorian calendar, extended backwards to year 1 and ending with
year 9999. A date knows its day number, counted from 1 on the first day of year
1, and a day number inside the calendar gives back its date.
-/

set_option autoImplicit false

namespace TableExport.Calendar

open TableExport.Text

/-- Every fourth year, save the centuries that four hundred does not divide. -/
def isLeapYear (year : Int) : Bool :=
  year % 4 == 0 && (year % 100 != 0 || year % 400 == 0)

def monthLengths (leap : Bool) : List Nat :=
  [31, if leap then 29 else 28, 31, 30, 31, 30, 31, 31, 30, 31, 30, 31]

/-- The count of days of a month, zero for a number that is no month. -/
def monthLength (leap : Bool) (month : Nat) : Nat :=
  match month with
  | 0 => 0
  | earlier + 1 => (monthLengths leap).getD earlier 0

def lastYear : Nat := 9999

structure Date where
  year : Nat
  month : Nat
  day : Nat
  year_pos : 1 ≤ year
  year_le : year ≤ lastYear
  month_pos : 1 ≤ month
  month_le : month ≤ 12
  day_pos : 1 ≤ day
  day_le : day ≤ monthLength (isLeapYear year) month
deriving DecidableEq, Repr

namespace Date

/-- The date with the given fields; a fault names the first field out of range. -/
def ofFields (year month day : Nat) : Except FieldFault Date :=
  if years : 1 ≤ year ∧ year ≤ lastYear then
    if months : 1 ≤ month ∧ month ≤ 12 then
      if days : 1 ≤ day ∧ day ≤ monthLength (isLeapYear year) month then
        .ok ⟨year, month, day, years.1, years.2, months.1, months.2, days.1, days.2⟩
      else .error .day
    else .error .month
  else .error (.year year)

def daysBeforeYear (year : Nat) : Nat :=
  365 * (year - 1) + (year - 1) / 4 - (year - 1) / 100 + (year - 1) / 400

def daysBeforeMonth (leap : Bool) (month : Nat) : Nat :=
  ((monthLengths leap).take (month - 1)).foldl (· + ·) 0

def dayNumber (date : Date) : Nat :=
  daysBeforeYear date.year + daysBeforeMonth (isLeapYear date.year) date.month + date.day

/-- The year that holds a day number: an estimate, corrected by at most one year. -/
def yearOfDay (number : Nat) : Nat :=
  let estimate := (number - 1) * 400 / 146097 + 1
  if daysBeforeYear (estimate + 1) < number then estimate + 1
  else if number ≤ daysBeforeYear estimate then estimate - 1
  else estimate

def monthAndDay : List Nat → Nat → Nat → Nat × Nat
  | [], month, day => (month, day)
  | length :: rest, month, day =>
      if day ≤ length then (month, day) else monthAndDay rest (month + 1) (day - length)

def lastDayNumber : Nat := daysBeforeYear (lastYear + 1)

def ofDayNumber? (number : Int) : Option Date :=
  if 1 ≤ number && number ≤ lastDayNumber then
    let number := number.toNat
    let year := yearOfDay number
    let leap := isLeapYear year
    let place := monthAndDay (monthLengths leap) 1 (number - daysBeforeYear year)
    (ofFields year place.1 place.2).toOption
  else none

def display (date : Date) : String :=
  Numeral.padded 4 date.year ++ "-" ++ Numeral.padded 2 date.month ++ "-" ++
    Numeral.padded 2 date.day

end Date

end TableExport.Calendar
