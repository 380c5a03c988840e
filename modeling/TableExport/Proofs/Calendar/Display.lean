import TableExport.Proofs.Calendar.Months
import TableExport.Proofs.Text.Order

/-!
The display of a date as a text among texts. Year, month and day stand in this
order, each padded to the width that its greatest value needs, so displays
compare exactly like the dates they show, in every year of the calendar.
-/

set_option autoImplicit false

namespace TableExport.Calendar.Date

open TableExport.Text

theorem toList_display (date : Date) :
    date.display.toList =
      (Numeral.padded 4 date.year).toList ++
        '-' :: ((Numeral.padded 2 date.month).toList ++
          '-' :: (Numeral.padded 2 date.day).toList) := by
  have mark : "-".toList = ['-'] := rfl
  unfold display
  simp only [String.toList_append, mark, List.append_assoc, List.cons_append,
    List.nil_append]

variable {date other : Date}

theorem fields_fit (date : Date) :
    date.year < Nat.pow 10 4 ∧ date.month < Nat.pow 10 2 ∧ date.day < Nat.pow 10 2 := by
  have year := date.year_le
  have month := date.month_le
  have day := date.day_le
  have length := (monthLength_bounds (isLeapYear date.year) date.month_pos month).2
  have last : lastYear < Nat.pow 10 4 := by decide
  have hundred : Nat.pow 10 2 = 100 := rfl
  omega

theorem display_lt_iff : date.display < other.display ↔ date.dayNumber < other.dayNumber := by
  obtain ⟨year, month, day⟩ := date.fields_fit
  obtain ⟨otherYear, otherMonth, otherDay⟩ := other.fields_fit
  have years := Numeral.length_padded (by decide) year
  have otherYears := Numeral.length_padded (by decide) otherYear
  have months := Numeral.length_padded (by decide) month
  have otherMonths := Numeral.length_padded (by decide) otherMonth
  have sameYear : (Numeral.padded 4 date.year).toList = (Numeral.padded 4 other.year).toList ↔
      date.year = other.year :=
    ⟨fun same => Numeral.padded_injective (String.toList_inj.mp same), fun same => by rw [same]⟩
  have sameMonth :
      (Numeral.padded 2 date.month).toList = (Numeral.padded 2 other.month).toList ↔
        date.month = other.month :=
    ⟨fun same => Numeral.padded_injective (String.toList_inj.mp same), fun same => by rw [same]⟩
  change date.display.toList < other.display.toList ↔ _
  rw [toList_display, toList_display, append_lt_append_iff (years.trans otherYears.symm),
    List.cons_lt_cons_iff, append_lt_append_iff (months.trans otherMonths.symm),
    List.cons_lt_cons_iff, Numeral.padded_lt_iff (by decide) year otherYear,
    Numeral.padded_lt_iff (by decide) month otherMonth,
    Numeral.padded_lt_iff (by decide) day otherDay, sameYear, sameMonth, dayNumber_lt_iff]
  simp only [Char.lt_irrefl, true_and, false_or]
  have first := date.month_pos
  have otherFirst := other.month_pos
  have last := date.month_le
  have otherLast := other.month_le
  unfold monthIndex
  omega

theorem display_le_iff : date.display ≤ other.display ↔ date.dayNumber ≤ other.dayNumber := by
  rw [← String.not_lt, display_lt_iff, Nat.not_lt]

end TableExport.Calendar.Date
