import TableExport.Calendar.Instant

/-!
Periods of years, months and days. Months are kept below a year; the rest is
carried into the years with its own sign. Adding a period moves by whole months
first, cuts the day to the length of the month reached, and then moves by days.
-/

set_option autoImplicit false

namespace TableExport.Calendar

open TableExport.Number

structure Period where
  years : Int
  months : Int
  days : Int
  months_lt : months.natAbs < 12
deriving DecidableEq, Repr

namespace Period

def normalized (years months days : Int) : Period :=
  { years := years + months.tdiv 12
    months := months.tmod 12
    days := days
    months_lt := by
      rw [Int.natAbs_tmod]
      exact Nat.mod_lt _ (by decide) }

/-- The period with the given parts; a carry needs months that a binary number can hold. -/
def ofParts (years months days : Int) : Except Fault Period :=
  if months.natAbs < 12 then .ok (normalized years months days)
  else
    match Binary64.ofInt months with
    | .ok _ => .ok (normalized years months days)
    | .error fault => .error (.number fault)

def oneDay : Period := ⟨0, 0, 1, by decide⟩

def negated (period : Period) : Period :=
  { years := -period.years
    months := -period.months
    days := -period.days
    months_lt := by rw [Int.natAbs_neg]; exact period.months_lt }

/-- Twice a count, by way of binary numbers, so only 53 bits are kept. -/
def doubledCount (count : Int) : Except Fault Int :=
  match Binary64.ofInt count with
  | .error fault => .error (.number fault)
  | .ok value =>
      match value.double.truncate with
      | .error fault => .error (.number fault)
      | .ok doubled => .ok doubled

def doubled (period : Period) : Except Fault Period := do
  let years ← doubledCount period.years
  let months ← doubledCount period.months
  let days ← doubledCount period.days
  ofParts years months days

def shiftedMonth (period : Period) (year month : Nat) : Int × Nat :=
  let years : Int := year + period.years
  let months : Int := month + period.months
  if 12 < months then (years + 1, (months - 12).toNat)
  else if months < 1 then (years - 1, (months + 12).toNat)
  else (years, months.toNat)

def wordBound : Int := 9223372036854775808

def halfWordBound : Int := 2147483648

/-- Checks that a year fits a word, then half a word, then the calendar. -/
def checkedYear (year : Int) : Except Fault Nat :=
  if year < -wordBound || wordBound ≤ year then .error .yearTooLong
  else if halfWordBound ≤ year then .error .yearTooLarge
  else if year < -halfWordBound then .error .yearTooSmall
  else if year < 1 || (lastYear : Int) < year then .error (.field (.year year))
  else .ok year.toNat

def checkedDays (days : Int) : Except Fault Int :=
  if days < -halfWordBound || halfWordBound ≤ days then .error .daysTooLong
  else if 999999999 < days.natAbs then .error (.daysTooMany days)
  else .ok days

def movedDate (period : Period) (date : Date) : Except Fault Date := do
  let (year, month) := period.shiftedMonth date.year date.month
  let day := min (monthLength (isLeapYear year) month) date.day
  let year ← checkedYear year
  (Date.ofFields year month day).mapError Fault.field

/-- The instant a period later, on the same clock and at the same time of day. -/
def addedTo (period : Period) (instant : Instant) : Except Fault Instant := do
  let date ← period.movedDate instant.date
  let days ← checkedDays period.days
  match Date.ofDayNumber? (date.dayNumber + days) with
  | some date => pure { instant with date := date }
  | none => throw .beyondCalendar

def takenFrom (period : Period) (instant : Instant) : Except Fault Instant :=
  period.negated.addedTo instant

end Period

end TableExport.Calendar
