import TableExport.Literal.Period
import TableExport.Proofs.Calendar.Shift
import TableExport.Proofs.Text.Margins

/-!
The grammar of period literals, apart from the reader: how a sign, a count with
its unit and a whole literal are written. The reader finds counts exactly when
the literal is written with them, so a literal has one reading. What it denotes
is a count of months and a count of days; a period that was read holds both.
-/

set_option autoImplicit false

namespace TableExport.Literal

open TableExport.Text
open TableExport.Calendar

/-! ### The grammar -/

inductive SignText : List Char → Bool → Prop where
  | absent : SignText [] false
  | plus : SignText ['+'] false
  | minus : SignText ['-'] true

inductive UnitText (unit : Char) : List Char → Option Count → Prop where
  | absent : UnitText unit [] none
  | given {sign written : List Char} {negative : Bool} {digits : List Nat} {letter : Char} :
      SignText sign negative → written ≠ [] → written.map digitValue? = digits.map some →
      letter.toUpper = unit →
      UnitText unit (sign ++ written ++ [letter]) (some ⟨negative, digits⟩)

inductive PeriodText : List Char → PeriodCounts → Prop where
  | spelled {sign years months weeks days : List Char} {letter : Char} {counts : PeriodCounts} :
      SignText sign counts.negative → letter.toUpper = 'P' →
      UnitText 'Y' years counts.years → UnitText 'M' months counts.months →
      UnitText 'W' weeks counts.weeks → UnitText 'D' days counts.days →
      years ++ (months ++ (weeks ++ days)) ≠ [] →
      PeriodText (sign ++ letter :: (years ++ (months ++ (weeks ++ days)))) counts

/-! ### What a literal denotes -/

def Count.amount : Option Count → Int
  | none => 0
  | some count => if count.negative then -(digitsValue count.digits : Int)
      else digitsValue count.digits

namespace PeriodCounts

def direction (counts : PeriodCounts) : Int :=
  if counts.negative then -1 else 1

theorem direction_cases (counts : PeriodCounts) :
    counts.direction = 1 ∨ counts.direction = -1 := by
  unfold direction
  cases counts.negative with
  | false => exact .inl rfl
  | true => exact .inr rfl

def totalMonths (counts : PeriodCounts) : Int :=
  counts.direction * (12 * Count.amount counts.years + Count.amount counts.months)

def totalDays (counts : PeriodCounts) : Int :=
  counts.direction * (7 * Count.amount counts.weeks + Count.amount counts.days)

/-- Units that all lead forward, not all of them zero, lead forward together. -/
theorem forward_of_nonneg (counts : PeriodCounts)
    (years : 0 ≤ counts.direction * Count.amount counts.years)
    (months : 0 ≤ counts.direction * Count.amount counts.months)
    (weeks : 0 ≤ counts.direction * Count.amount counts.weeks)
    (days : 0 ≤ counts.direction * Count.amount counts.days)
    (notAllZero : ¬ (Count.amount counts.years = 0 ∧ Count.amount counts.months = 0 ∧
      Count.amount counts.weeks = 0 ∧ Count.amount counts.days = 0)) :
    0 ≤ counts.totalMonths ∧ 0 ≤ counts.totalDays ∧
      (counts.totalMonths ≠ 0 ∨ counts.totalDays ≠ 0) := by
  unfold totalMonths totalDays
  rcases counts.direction_cases with forward | backward
  · rw [forward] at years months weeks days ⊢
    omega
  · rw [backward] at years months weeks days ⊢
    omega

end PeriodCounts

/-- A literal that is written with counts of so many months and so many days in all. -/
def Denotes (literal : String) (months days : Int) : Prop :=
  ∃ counts, PeriodText (strip literal.toList) counts ∧
    months = counts.totalMonths ∧ days = counts.totalDays

/-! ### Letters and digits -/

/-- A character whose upper case is a letter is that letter in one of its cases. -/
theorem letter_bounds {character unit : Char} (letter : character.toUpper = unit)
    (upper : 65 ≤ unit.toNat ∧ unit.toNat ≤ 90) :
    65 ≤ character.toNat ∧ character.toNat ≤ 122 := by
  unfold Char.toUpper at letter
  split at letter
  next lower =>
    have low : 97 ≤ character.toNat := UInt32.le_iff_toNat_le.mp lower.1
    have high : character.toNat ≤ 122 := UInt32.le_iff_toNat_le.mp lower.2
    omega
  next =>
    subst letter
    omega

/-! ### Signs -/

private theorem takeSign_text {text rest : List Char} {negative : Bool}
    (taken : takeSign text = (negative, rest)) :
    ∃ sign, SignText sign negative ∧ text = sign ++ rest := by
  unfold takeSign at taken
  split at taken
  · cases taken
    exact ⟨['-'], .minus, rfl⟩
  · cases taken
    exact ⟨['+'], .plus, rfl⟩
  · cases taken
    exact ⟨[], .absent, rfl⟩

private theorem takeSign_append {sign rest : List Char} {negative : Bool} {character : Char}
    (signed : SignText sign negative) (notPlus : character ≠ '+') (notMinus : character ≠ '-') :
    takeSign (sign ++ character :: rest) = (negative, character :: rest) := by
  cases signed with
  | absent =>
      change takeSign (character :: rest) = _
      unfold takeSign
      split
      · next same => exact absurd (List.cons.inj same).1 notMinus
      · next same => exact absurd (List.cons.inj same).1 notPlus
      · rfl
  | plus => rfl
  | minus => rfl

/-! ### Digits -/

private theorem takeDigits_text {text rest : List Char} {digits : List Nat}
    (taken : takeDigits text = (digits, rest)) :
    ∃ written, written.map digitValue? = digits.map some ∧ text = written ++ rest := by
  induction text generalizing digits rest with
  | nil =>
      cases taken
      exact ⟨[], rfl, rfl⟩
  | cons character later inductionHypothesis =>
      cases digit : digitValue? character with
      | none =>
          rw [takeDigits, digit] at taken
          cases taken
          exact ⟨[], rfl, rfl⟩
      | some value =>
          rw [takeDigits, digit] at taken
          cases taken
          obtain ⟨written, said, same⟩ := inductionHypothesis rfl
          refine ⟨character :: written, ?_, ?_⟩
          · rw [List.map_cons, List.map_cons, digit, said]
          · rw [List.cons_append, ← same]

private theorem takeDigits_append {written : List Char} {digits : List Nat} {rest : List Char}
    {character : Char} (said : written.map digitValue? = digits.map some)
    (ends : digitValue? character = none) :
    takeDigits (written ++ character :: rest) = (digits, character :: rest) := by
  induction written generalizing digits with
  | nil =>
      cases digits with
      | nil =>
          change takeDigits (character :: rest) = _
          unfold takeDigits
          rw [ends]
      | cons digit later => cases said
  | cons first written inductionHypothesis =>
      cases digits with
      | nil => cases said
      | cons digit later =>
          obtain ⟨isFirst, others⟩ := List.cons.inj said
          rw [List.cons_append, takeDigits, isFirst]
          dsimp only
          rw [inductionHypothesis others]

private theorem ne_of_said {first mark : Char} {later : List Char} {digits : List Nat}
    (said : (first :: later).map digitValue? = digits.map some)
    (noDigit : digitValue? mark = none) : first ≠ mark := by
  rintro rfl
  cases digits with
  | nil => cases said
  | cons digit others =>
      have isDigit := (List.cons.inj said).1
      rw [noDigit] at isDigit
      cases isDigit

/-! ### Units -/

private theorem takeUnit_text {unit : Char} {text rest : List Char} {count : Option Count}
    (taken : takeUnit unit text = (count, rest)) :
    ∃ front, UnitText unit front count ∧ text = front ++ rest := by
  rcases signTaken : takeSign text with ⟨negative, unsigned⟩
  rcases digitsTaken : takeDigits unsigned with ⟨digits, behind⟩
  obtain ⟨sign, signed, sameSign⟩ := takeSign_text signTaken
  obtain ⟨written, said, sameDigits⟩ := takeDigits_text digitsTaken
  simp only [takeUnit, signTaken, digitsTaken] at taken
  split at taken
  · cases taken
    exact ⟨[], .absent, rfl⟩
  · cases taken
    exact ⟨[], .absent, rfl⟩
  · next letter behind present same =>
      obtain ⟨rfl, rfl⟩ := Prod.mk.inj same
      by_cases isUnit : letter.toUpper = unit
      · rw [if_pos isUnit] at taken
        cases taken
        have notEmpty : written ≠ [] := by
          rintro rfl
          exact present (List.map_eq_nil_iff.mp said.symm)
        refine ⟨sign ++ written ++ [letter], .given signed notEmpty said isUnit, ?_⟩
        rw [sameSign, sameDigits, List.append_assoc, List.append_assoc, List.singleton_append]
      · rw [if_neg isUnit] at taken
        cases taken
        exact ⟨[], .absent, rfl⟩

section Units

variable {unit other : Char} {front rest : List Char} {count : Option Count}

/-- A count that is written is read up to the letter behind it, whatever its unit. -/
theorem takeUnit_given {given : Count} (upper : 65 ≤ other.toNat ∧ other.toNat ≤ 90)
    (written : UnitText other front (some given)) :
    takeUnit unit (front ++ rest) =
      if other = unit then (some given, rest) else (none, front ++ rest) := by
  cases written with
  | @given sign digitText negative digits letter signed present said isUnit =>
      have bounds := letter_bounds isUnit upper
      obtain ⟨first, later, rfl⟩ := List.exists_cons_of_ne_nil present
      have shape : sign ++ (first :: later) ++ [letter] ++ rest =
          sign ++ first :: (later ++ letter :: rest) := by
        simp only [List.append_assoc, List.cons_append, List.nil_append]
      have ends : digitValue? letter = none := digitValue?_eq_none (by omega) bounds.2
      have digitsRead : takeDigits (first :: (later ++ letter :: rest)) =
          (digits, letter :: rest) := takeDigits_append said ends
      have signRead : takeSign (sign ++ first :: (later ++ letter :: rest)) =
          (negative, first :: (later ++ letter :: rest)) :=
        takeSign_append signed (ne_of_said said (by decide)) (ne_of_said said (by decide))
      have notEmpty : digits ≠ [] := by
        rintro rfl
        cases said
      obtain ⟨digit, others, rfl⟩ := List.exists_cons_of_ne_nil notEmpty
      unfold takeUnit
      rw [shape, signRead]
      dsimp only
      rw [digitsRead]
      dsimp only
      rw [isUnit]

/-- Units that are written in front of a rest without the unit that is looked for. -/
theorem takeUnit_skips (upper : 65 ≤ other.toNat ∧ other.toNat ≤ 90) (apart : other ≠ unit)
    (written : UnitText other front count) (skips : takeUnit unit rest = (none, rest)) :
    takeUnit unit (front ++ rest) = (none, front ++ rest) := by
  cases count with
  | none =>
      cases written
      exact skips
  | some given => rw [takeUnit_given upper written, if_neg apart]

private theorem takeUnit_append (upper : 65 ≤ unit.toNat ∧ unit.toNat ≤ 90)
    (written : UnitText unit front count) (skips : takeUnit unit rest = (none, rest)) :
    takeUnit unit (front ++ rest) = (count, rest) := by
  cases count with
  | none =>
      cases written
      exact skips
  | some given => rw [takeUnit_given upper written, if_pos rfl]

private theorem UnitText.isSome_iff (written : UnitText unit front count) :
    count.isSome = true ↔ front ≠ [] := by
  cases written with
  | absent => simp only [Option.isSome_none, Bool.false_eq_true, ne_eq, not_true_eq_false]
  | given signed present said isUnit =>
      refine iff_of_true rfl ?_
      intro empty
      exact List.cons_ne_nil _ _ (List.append_eq_nil_iff.mp empty).2

end Units

/-! ### Literals -/

namespace PeriodCounts

variable {text : List Char} {negative : Bool} {counts : PeriodCounts}

private theorem isSome_iff_written {years months weeks days : Option Count}
    {yearsText monthsText weeksText daysText : List Char}
    (yearsWritten : UnitText 'Y' yearsText years)
    (monthsWritten : UnitText 'M' monthsText months)
    (weeksWritten : UnitText 'W' weeksText weeks)
    (daysWritten : UnitText 'D' daysText days) :
    (years.isSome || months.isSome || weeks.isSome || days.isSome) = true ↔
      yearsText ++ (monthsText ++ (weeksText ++ daysText)) ≠ [] := by
  simp only [Bool.or_eq_true, yearsWritten.isSome_iff, monthsWritten.isSome_iff,
    weeksWritten.isSome_iff, daysWritten.isSome_iff, ne_eq, List.append_eq_nil_iff,
    Classical.not_and_iff_not_or_not, or_assoc]

private theorem readUnits?_text (found : readUnits? negative text = some counts) :
    counts.negative = negative ∧
      ∃ years months weeks days,
        UnitText 'Y' years counts.years ∧ UnitText 'M' months counts.months ∧
          UnitText 'W' weeks counts.weeks ∧ UnitText 'D' days counts.days ∧
            years ++ (months ++ (weeks ++ days)) ≠ [] ∧
              text = years ++ (months ++ (weeks ++ days)) := by
  rcases yearsTaken : takeUnit 'Y' text with ⟨years, afterYears⟩
  rcases monthsTaken : takeUnit 'M' afterYears with ⟨months, afterMonths⟩
  rcases weeksTaken : takeUnit 'W' afterMonths with ⟨weeks, afterWeeks⟩
  rcases daysTaken : takeUnit 'D' afterWeeks with ⟨days, afterDays⟩
  obtain ⟨yearsText, yearsWritten, rfl⟩ := takeUnit_text yearsTaken
  obtain ⟨monthsText, monthsWritten, rfl⟩ := takeUnit_text monthsTaken
  obtain ⟨weeksText, weeksWritten, rfl⟩ := takeUnit_text weeksTaken
  obtain ⟨daysText, daysWritten, rfl⟩ := takeUnit_text daysTaken
  simp only [readUnits?, yearsTaken, monthsTaken, weeksTaken, daysTaken] at found
  split at found
  next complete =>
    cases found
    obtain ⟨atEnd, present⟩ := Bool.and_eq_true_iff.mp complete
    cases List.isEmpty_iff.mp atEnd
    refine ⟨rfl, yearsText, monthsText, weeksText, daysText, yearsWritten, monthsWritten,
      weeksWritten, daysWritten, ?_, ?_⟩
    · exact (isSome_iff_written yearsWritten monthsWritten weeksWritten daysWritten).mp present
    · rw [List.append_nil]
  next =>
    cases found

private theorem readUnits?_append {years months weeks days : List Char}
    (yearsWritten : UnitText 'Y' years counts.years)
    (monthsWritten : UnitText 'M' months counts.months)
    (weeksWritten : UnitText 'W' weeks counts.weeks)
    (daysWritten : UnitText 'D' days counts.days)
    (present : years ++ (months ++ (weeks ++ days)) ≠ []) :
    readUnits? counts.negative (years ++ (months ++ (weeks ++ days))) = some counts := by
  have nothing (unit : Char) : takeUnit unit [] = (none, []) := rfl
  have daysSkipped (unit : Char) (apart : 'D' ≠ unit) : takeUnit unit days = (none, days) := by
    have skipped := takeUnit_skips (by decide) apart daysWritten (nothing unit)
    rw [List.append_nil] at skipped
    exact skipped
  have weeksSkipped (unit : Char) (apartDays : 'D' ≠ unit) (apart : 'W' ≠ unit) :
      takeUnit unit (weeks ++ days) = (none, weeks ++ days) :=
    takeUnit_skips (by decide) apart weeksWritten (daysSkipped unit apartDays)
  have monthsSkipped : takeUnit 'Y' (months ++ (weeks ++ days)) =
      (none, months ++ (weeks ++ days)) :=
    takeUnit_skips (by decide) (by decide) monthsWritten (weeksSkipped 'Y' (by decide) (by decide))
  have daysTaken : takeUnit 'D' days = (counts.days, []) := by
    have taken := takeUnit_append (by decide) daysWritten (nothing 'D')
    rw [List.append_nil] at taken
    exact taken
  simp only [readUnits?, takeUnit_append (by decide) yearsWritten monthsSkipped,
    takeUnit_append (by decide) monthsWritten (weeksSkipped 'M' (by decide) (by decide)),
    takeUnit_append (by decide) weeksWritten (daysSkipped 'W' (by decide)), daysTaken,
    (isSome_iff_written yearsWritten monthsWritten weeksWritten daysWritten).mpr present]
  rfl

/-- The reader finds counts exactly when the literal is written with them. -/
theorem read?_eq_some_iff : read? text = some counts ↔ PeriodText text counts := by
  constructor
  · intro found
    rcases taken : takeSign text with ⟨negative, rest⟩
    obtain ⟨sign, signed, rfl⟩ := takeSign_text taken
    cases rest with
    | nil =>
        rw [read?, taken] at found
        cases found
    | cons letter rest =>
        rw [read?, taken] at found
        dsimp only at found
        by_cases isPeriod : letter.toUpper = 'P'
        · rw [if_pos isPeriod] at found
          obtain ⟨rfl, years, months, weeks, days, yearsWritten, monthsWritten, weeksWritten,
            daysWritten, present, rfl⟩ := readUnits?_text found
          exact .spelled signed isPeriod yearsWritten monthsWritten weeksWritten daysWritten
            present
        · rw [if_neg isPeriod] at found
          cases found
  · rintro ⟨signed, isPeriod, yearsWritten, monthsWritten, weeksWritten, daysWritten, present⟩
    have bounds := letter_bounds isPeriod (by decide)
    rw [read?, takeSign_append signed (by rintro rfl; revert bounds; decide)
      (by rintro rfl; revert bounds; decide)]
    dsimp only
    rw [if_pos isPeriod]
    exact readUnits?_append yearsWritten monthsWritten weeksWritten daysWritten present

/-! ### Periods -/

private theorem valueOrZero_ok {count : Option Count} {value : Int}
    (found : Count.valueOrZero count = .ok value) : value = Count.amount count := by
  cases count with
  | none =>
      cases found
      rfl
  | some count =>
      change Count.value count = .ok value at found
      unfold Count.value Numeral.readDigits at found
      by_cases short : count.digits.length ≤ Numeral.digitLimit
      · rw [if_pos short] at found
        cases found
        rfl
      · rw [if_neg short] at found
        cases found

theorem period_ok {period : Period} (made : counts.period = .ok period) :
    period.totalMonths = counts.totalMonths ∧ period.days = counts.totalDays := by
  simp only [PeriodCounts.period, Sequence.bind_ok_iff, Sequence.mapError_ok_iff] at made
  obtain ⟨years, yearsFound, months, monthsFound, weeks, weeksFound, days, daysFound, made⟩ :=
    made
  cases valueOrZero_ok yearsFound
  cases valueOrZero_ok monthsFound
  cases valueOrZero_ok weeksFound
  cases valueOrZero_ok daysFound
  obtain ⟨sameMonths, sameDays⟩ := Period.ofParts_ok made
  rw [sameMonths, sameDays]
  unfold totalMonths totalDays direction
  constructor
  · rw [Int.mul_add, Int.mul_left_comm]
  · rw [Int.mul_comm (Count.amount counts.weeks)]

end PeriodCounts

/-- A literal that is read as a period denotes its months and its days and nothing else. -/
theorem denotes_iff {literal : String} {period : Period} {months days : Int}
    (read : readPeriod (some literal) = .ok period) :
    Denotes literal months days ↔ months = period.totalMonths ∧ days = period.days := by
  cases found : PeriodCounts.read? (strip literal.toList) with
  | none =>
      simp only [readPeriod, found] at read
      cases read
  | some counts =>
      simp only [readPeriod, found] at read
      obtain ⟨sameMonths, sameDays⟩ := PeriodCounts.period_ok read
      rw [sameMonths, sameDays]
      constructor
      · rintro ⟨others, written, rfl, rfl⟩
        have again := PeriodCounts.read?_eq_some_iff.mpr written
        rw [found] at again
        cases again
        exact ⟨rfl, rfl⟩
      · rintro ⟨rfl, rfl⟩
        exact ⟨counts, PeriodCounts.read?_eq_some_iff.mp found, rfl, rfl⟩

end TableExport.Literal
