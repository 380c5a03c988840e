import TableExport.Proofs.Calendar.Doubling
import TableExport.Proofs.Literal.InstantText
import TableExport.Proofs.Literal.Period
import TableExport.Proofs.Text.Numeral

/-!
Periods of literals without long numbers. A count of more than 4300 digits is not
read, and months beyond the range of binary numbers cannot be carried into years;
where no run of digits has more than 300 digits neither can happen. Such a literal
then is a period exactly when it is written as one, and every other one is handed
back as unreadable. Nothing is claimed about literals with longer runs.
-/

set_option autoImplicit false

namespace TableExport.Text

/-- A text in which no run of digits, of any script, is longer than a limit. -/
def RunsWithin (limit : Nat) (text : List Char) : Prop :=
  ∀ run, run <:+: text → (∀ character ∈ run, isDigit character = true) → run.length ≤ limit

variable {limit : Nat} {text part : List Char}

private theorem RunsWithin.of_infix (short : RunsWithin limit text) (inside : part <:+: text) :
    RunsWithin limit part := by
  intro run within digits
  exact short run (within.trans inside) digits

private theorem strip_isInfix (text : List Char) : strip text <:+: text := by
  unfold strip
  rw [dropTrailing_eq_rdropWhile]
  have front := List.rdropWhile_prefix isBlank (text.dropWhile isBlank)
  exact front.isInfix.trans (List.dropWhile_suffix isBlank).isInfix

private theorem digitValue?_lt {character : Char} {digit : Nat}
    (found : digitValue? character = some digit) : digit < 10 := by
  obtain ⟨base, first, rfl⟩ := Option.map_eq_some_iff.mp found
  have inRun := List.find?_some first
  rw [Bool.and_eq_true, decide_eq_true_eq, decide_eq_true_eq] at inRun
  omega

private theorem digit_lt_of_said {digits : List Nat}
    (said : text.map digitValue? = digits.map some) :
    ∀ digit ∈ digits, digit < 10 := by
  intro digit member
  have found : some digit ∈ digits.map some := List.mem_map_of_mem member
  rw [← said] at found
  obtain ⟨character, _, same⟩ := List.mem_map.mp found
  exact digitValue?_lt same

end TableExport.Text

namespace TableExport.Calendar.Period

open TableExport.Number

theorem ofParts_isOk (years days : Int) {months : Int} {bits : Nat}
    (below : months.natAbs < Nat.pow 2 bits) (small : bits ≤ 1022) :
    ∃ period, ofParts years months days = .ok period := by
  refine ⟨normalized years months days, ?_⟩
  unfold ofParts
  by_cases underYear : months.natAbs < 12
  · exact if_pos underYear
  · rw [← Nat.mul_one (Nat.pow 2 bits)] at below
    obtain ⟨mantissa, exponent, rounded, _⟩ :=
      Binary64.ofRatio_bounded (decide (months < 0)) Nat.one_pos below small
    have held : Binary64.ofInt months =
        .ok (.finite (decide (months < 0)) mantissa exponent) := by
      unfold Binary64.ofInt
      rw [rounded]
      rfl
    rw [if_neg underYear, held]

end TableExport.Calendar.Period

namespace TableExport.Literal

open TableExport.Text
open TableExport.Calendar

structure Count.IsShort (limit : Nat) (count : Count) : Prop where
  length_le : count.digits.length ≤ limit
  digit_lt : ∀ digit ∈ count.digits, digit < 10

variable {limit : Nat} {front text : List Char} {count : Option Count}

private theorem UnitText.isShort {unit : Char} (written : UnitText unit front count)
    (short : RunsWithin limit front) : ∀ given ∈ count, given.IsShort limit := by
  intro given known
  cases written with
  | absent => cases known
  | @given sign digitText negative digits letter signed present said isUnit =>
      cases known
      have inside : digitText <:+: sign ++ digitText ++ [letter] := ⟨sign, [letter], rfl⟩
      have spelled : Spells digits.length digitText (digitsValue digits) :=
        ⟨digits, said, rfl, rfl⟩
      constructor
      · rw [← spelled.length_eq]
        apply short digitText inside
        intro character member
        obtain ⟨digit, found⟩ := spelled.digit_of_mem member
        exact Option.isSome_iff_exists.mpr ⟨digit, found⟩
      · exact digit_lt_of_said said

private theorem Count.valueOrZero_of_short (few : limit ≤ Numeral.digitLimit)
    (short : ∀ given ∈ count, given.IsShort limit) :
    Count.valueOrZero count = .ok (Count.amount count) := by
  cases count with
  | none => rfl
  | some given =>
      have length := (short given rfl).length_le
      change Count.value given = _
      unfold Count.value Numeral.readDigits
      rw [if_pos (Nat.le_trans length few)]
      rfl

private theorem Count.natAbs_amount_lt (short : ∀ given ∈ count, given.IsShort limit) :
    (Count.amount count).natAbs < Nat.pow 10 limit := by
  cases count with
  | none => exact Nat.pow_pos (Nat.succ_pos 9)
  | some given =>
      have isShort := short given rfl
      have size : (Count.amount (some given)).natAbs = digitsValue given.digits := by
        change (if given.negative then -(digitsValue given.digits : Int)
          else digitsValue given.digits).natAbs = _
        cases given.negative with
        | false => rfl
        | true => exact Int.natAbs_neg _
      have below := Numeral.digitsValueFrom_lt isShort.digit_lt 0
      rw [Nat.zero_add, Nat.one_mul] at below
      rw [size]
      exact Nat.lt_of_lt_of_le below (Numeral.tenPow_le isShort.length_le)

namespace PeriodCounts

variable {counts : PeriodCounts}

structure IsShort (limit : Nat) (counts : PeriodCounts) : Prop where
  years : ∀ given ∈ counts.years, given.IsShort limit
  months : ∀ given ∈ counts.months, given.IsShort limit
  weeks : ∀ given ∈ counts.weeks, given.IsShort limit
  days : ∀ given ∈ counts.days, given.IsShort limit

private theorem isShort_of_text (written : PeriodText text counts) (short : RunsWithin limit text) :
    counts.IsShort limit := by
  cases written with
  | @spelled sign years months weeks days letter _ signed isPeriod yearsWritten monthsWritten
      weeksWritten daysWritten present =>
      have units : years ++ (months ++ (weeks ++ days)) <:+:
          sign ++ letter :: (years ++ (months ++ (weeks ++ days))) :=
        ⟨sign ++ [letter], [], by simp only [List.append_assoc, List.append_nil,
          List.singleton_append]⟩
      have behindYears := (List.suffix_append years _).isInfix.trans units
      have behindMonths := (List.suffix_append months _).isInfix.trans behindYears
      constructor
      · exact yearsWritten.isShort
          (short.of_infix ((List.prefix_append years _).isInfix.trans units))
      · exact monthsWritten.isShort
          (short.of_infix ((List.prefix_append months _).isInfix.trans behindYears))
      · exact weeksWritten.isShort
          (short.of_infix ((List.prefix_append weeks _).isInfix.trans behindMonths))
      · exact daysWritten.isShort
          (short.of_infix ((List.suffix_append weeks _).isInfix.trans behindMonths))

theorem IsShort.period_isOk (short : counts.IsShort limit) (few : limit ≤ Numeral.digitLimit)
    (power : Nat.pow 10 limit < Nat.pow 2 1022) : ∃ period, counts.period = .ok period := by
  have months := Nat.lt_trans (Count.natAbs_amount_lt short.months) power
  have turned : (counts.direction * Count.amount counts.months).natAbs < Nat.pow 2 1022 := by
    rcases counts.direction_cases with forward | backward
    · rw [forward, Int.one_mul]
      exact months
    · rw [backward, Int.neg_mul, Int.one_mul, Int.natAbs_neg]
      exact months
  obtain ⟨period, made⟩ :=
    Period.ofParts_isOk (counts.direction * Count.amount counts.years)
      (counts.direction * (Count.amount counts.weeks * 7 + Count.amount counts.days))
      turned (Nat.le_refl 1022)
  refine ⟨period, ?_⟩
  unfold PeriodCounts.period
  rw [Count.valueOrZero_of_short few short.years, Count.valueOrZero_of_short few short.months,
    Count.valueOrZero_of_short few short.weeks, Count.valueOrZero_of_short few short.days]
  exact congrArg (Except.mapError PeriodFault.calendar) made

end PeriodCounts

variable {literal : String}

/-- Without long runs of digits a literal is read exactly when it is written as a period, and
what is read holds its months and its days, with the months kept below a year. -/
theorem readPeriod_of_short_runs (short : RunsWithin 300 literal.toList) :
    (∀ counts, PeriodText (strip literal.toList) counts →
      ∃ period, readPeriod (some literal) = .ok period ∧ period.months.natAbs ≤ 11 ∧
        12 * period.years + period.months =
          counts.direction * (12 * Count.amount counts.years + Count.amount counts.months) ∧
        period.days =
          counts.direction * (7 * Count.amount counts.weeks + Count.amount counts.days)) ∧
    ((¬ ∃ counts, PeriodText (strip literal.toList) counts) →
      readPeriod (some literal) = .error (.literal ⟨some literal, .unreadable .period⟩)) := by
  constructor
  · intro counts written
    have shortCounts := PeriodCounts.isShort_of_text written (short.of_infix (strip_isInfix _))
    obtain ⟨period, made⟩ := shortCounts.period_isOk (by decide) (by decide +kernel)
    obtain ⟨months, days⟩ := PeriodCounts.period_ok made
    have found := PeriodCounts.read?_eq_some_iff.mpr written
    refine ⟨period, ?_, Nat.le_of_lt_succ period.months_lt, months, days⟩
    simp only [readPeriod, found, made]
  · intro unwritten
    have unread : PeriodCounts.read? (strip literal.toList) = none := by
      rw [Option.eq_none_iff_forall_ne_some]
      intro counts found
      exact unwritten ⟨counts, PeriodCounts.read?_eq_some_iff.mp found⟩
    simp only [readPeriod, unread]

theorem readPeriod_mixed_signs :
    RunsWithin 300 " -p1y+14M\u0663w-2d".toList ∧ RunsWithin 300 "P1M1Y".toList ∧
      (∃ period, readPeriod (some " -p1y+14M\u0663w-2d") = .ok period ∧
        period.months.natAbs ≤ 11 ∧ 12 * period.years + period.months = -26 ∧
          period.days = -19) ∧
      readPeriod (some "P1M1Y") = .error (.literal ⟨some "P1M1Y", .unreadable .period⟩) := by
  have signed : RunsWithin 300 " -p1y+14M\u0663w-2d".toList := by
    intro run inside _
    exact Nat.le_trans inside.length_le (by decide)
  have reversed : RunsWithin 300 "P1M1Y".toList := by
    intro run inside _
    exact Nat.le_trans inside.length_le (by decide)
  have written : PeriodText (strip " -p1y+14M\u0663w-2d".toList)
      ⟨true, some ⟨false, [1]⟩, some ⟨false, [1, 4]⟩, some ⟨false, [3]⟩, some ⟨true, [2]⟩⟩ :=
    PeriodCounts.read?_eq_some_iff.mp (by decide)
  have unwritten : ¬ ∃ counts, PeriodText (strip "P1M1Y".toList) counts := by
    rintro ⟨counts, written⟩
    have found := PeriodCounts.read?_eq_some_iff.mpr written
    have unread : PeriodCounts.read? (strip "P1M1Y".toList) = none := by decide
    rw [unread] at found
    cases found
  obtain ⟨period, read, months, total, days⟩ := (readPeriod_of_short_runs signed).1 _ written
  exact ⟨signed, reversed, ⟨period, read, months, total, days⟩,
    (readPeriod_of_short_runs reversed).2 unwritten⟩

end TableExport.Literal
