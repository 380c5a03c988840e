import TableExport.Calendar.Period
import TableExport.Literal.Fault

/-!
Reading of period literals such as P1D, P2W or -P1Y2M3D: a sign, the letter P,
then years, months, weeks and days in this order, each of them optional and each
with a sign of its own. At least one unit must be there.
-/

set_option autoImplicit false

namespace TableExport.Literal

open TableExport.Text
open TableExport.Calendar

structure Count where
  negative : Bool
  digits : List Nat
deriving DecidableEq, Repr

namespace Count

/-- The value of a count, when it is not too long; leading zeros count. -/
def value (count : Count) : Except Numeral.Fault Int :=
  (Numeral.readDigits count.digits).map fun size =>
    if count.negative then -(size : Int) else size

def valueOrZero : Option Count → Except Numeral.Fault Int
  | none => .ok 0
  | some count => count.value

end Count

def takeSign : List Char → Bool × List Char
  | '-' :: rest => (true, rest)
  | '+' :: rest => (false, rest)
  | text => (false, text)

def takeDigits : List Char → List Nat × List Char
  | [] => ([], [])
  | character :: rest =>
      match digitValue? character with
      | none => ([], character :: rest)
      | some digit =>
          let (digits, rest) := takeDigits rest
          (digit :: digits, rest)

/-- Reads a count in front of its unit; without the unit nothing is taken. -/
def takeUnit (unit : Char) (text : List Char) : Option Count × List Char :=
  let (negative, unsigned) := takeSign text
  match takeDigits unsigned with
  | ([], _) => (none, text)
  | (_, []) => (none, text)
  | (digits, letter :: rest) =>
      if letter.toUpper = unit then (some ⟨negative, digits⟩, rest) else (none, text)

structure PeriodCounts where
  negative : Bool
  years : Option Count
  months : Option Count
  weeks : Option Count
  days : Option Count
deriving DecidableEq, Repr

namespace PeriodCounts

def readUnits? (negative : Bool) (text : List Char) : Option PeriodCounts :=
  let (years, rest) := takeUnit 'Y' text
  let (months, rest) := takeUnit 'M' rest
  let (weeks, rest) := takeUnit 'W' rest
  let (days, rest) := takeUnit 'D' rest
  if rest.isEmpty && (years.isSome || months.isSome || weeks.isSome || days.isSome) then
    some ⟨negative, years, months, weeks, days⟩
  else none

def read? (text : List Char) : Option PeriodCounts :=
  match takeSign text with
  | (negative, letter :: rest) =>
      if letter.toUpper = 'P' then readUnits? negative rest else none
  | (_, []) => none

end PeriodCounts

/-- What keeps a literal from being a period: its form, the length of a count, or
months beyond the carry. -/
inductive PeriodFault where
  | literal (fault : Fault)
  | number (fault : Numeral.Fault)
  | calendar (fault : Calendar.Fault)
deriving DecidableEq, Repr

/-- The period of the given counts, with weeks as seven days each. -/
def PeriodCounts.period (counts : PeriodCounts) : Except PeriodFault Period := do
  let years ← (Count.valueOrZero counts.years).mapError .number
  let months ← (Count.valueOrZero counts.months).mapError .number
  let weeks ← (Count.valueOrZero counts.weeks).mapError .number
  let days ← (Count.valueOrZero counts.days).mapError .number
  let direction : Int := if counts.negative then -1 else 1
  (Period.ofParts (direction * years) (direction * months)
    (direction * (weeks * 7 + days))).mapError .calendar

def readPeriod (text : Option String) : Except PeriodFault Period :=
  match text with
  | none => .error (.literal ⟨none, .missing .period⟩)
  | some literal =>
      match PeriodCounts.read? (strip literal.toList) with
      | none => .error (.literal ⟨some literal, .unreadable .period⟩)
      | some counts => counts.period

end TableExport.Literal
