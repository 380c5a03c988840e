import Mathlib.Data.List.Basic
import TableExport.Literal.Instant

/-!
The grammar of partial date and time literals, apart from the reader: a year of
four digits, later fields of two digits behind their separators, as many as there
are, and an offset. Some texts are written in two ways, because the hours of a
negative offset look like a month or a day. The reader takes the way with the
most fields, so a literal has at most one reading, and it has one exactly when it
is written in any way at all. Which fields name an instant is not said here.
-/

set_option autoImplicit false

namespace TableExport.Literal

open TableExport.Text
open TableExport.Calendar

/-! ### The grammar -/

/-- A number that is spelled with a count of decimal digits, of any script. -/
def Spells (width : Nat) (written : List Char) (value : Nat) : Prop :=
  ∃ digits, written.map digitValue? = digits.map some ∧ digits.length = width ∧
    value = digitsValue digits

inductive FieldsText : List Char → List Char → List Nat → Prop where
  | ended (separators : List Char) : FieldsText separators [] []
  | field {separator letter : Char} {later written rest : List Char} {value : Nat}
      {values : List Nat} :
      letter.toUpper = separator → Spells 2 written value → FieldsText later rest values →
      FieldsText (separator :: later) (letter :: (written ++ rest)) (value :: values)

inductive OffsetFieldText : List Char → Nat → Prop where
  | plain {written : List Char} {value : Nat} :
      Spells 2 written value → OffsetFieldText written value
  | behindColon {written : List Char} {value : Nat} :
      Spells 2 written value → OffsetFieldText (':' :: written) value

inductive SizeText (negative : Bool) : List Char → Offset → Prop where
  | hours {hourText : List Char} {hours : Nat} :
      Spells 2 hourText hours → SizeText negative hourText ⟨negative, hours, 0, 0⟩
  | minutes {hourText minuteText : List Char} {hours minutes : Nat} :
      Spells 2 hourText hours → OffsetFieldText minuteText minutes →
      SizeText negative (hourText ++ minuteText) ⟨negative, hours, minutes, 0⟩
  | seconds {hourText minuteText secondText : List Char} {hours minutes seconds : Nat} :
      Spells 2 hourText hours → OffsetFieldText minuteText minutes →
      OffsetFieldText secondText seconds →
      SizeText negative (hourText ++ (minuteText ++ secondText))
        ⟨negative, hours, minutes, seconds⟩

inductive OffsetText : List Char → Offset → Prop where
  | absent : OffsetText [] ⟨false, 0, 0, 0⟩
  | universal {letter : Char} : letter.toUpper = 'Z' → OffsetText [letter] ⟨false, 0, 0, 0⟩
  | ahead {size : List Char} {offset : Offset} :
      SizeText false size offset → OffsetText ('+' :: size) offset
  | behind {size : List Char} {offset : Offset} :
      SizeText true size offset → OffsetText ('-' :: size) offset

inductive InstantText : List Char → PartialInstant → Prop where
  | spelled {year later : List Char} {fields : PartialInstant} :
      Spells 4 year fields.year → FieldsText ['-', '-', 'T', ':', ':'] later fields.later →
      OffsetText fields.offsetText fields.offset →
      InstantText (year ++ (later ++ fields.offsetText)) fields

/-- A way to write the text that has as many fields as any other. -/
structure IsReading (text : List Char) (fields : PartialInstant) : Prop where
  written : InstantText text fields
  fullest : ∀ other, InstantText text other → other.later.length ≤ fields.later.length

/-! ### Digits -/

variable {text written rest : List Char} {value : Nat}

theorem Spells.length_eq {width : Nat} (spelled : Spells width written value) :
    written.length = width := by
  obtain ⟨digits, said, rfl, _⟩ := spelled
  rw [← List.length_map digitValue?, said, List.length_map]

theorem Spells.digit_of_mem {width : Nat} {character : Char}
    (spelled : Spells width written value) (member : character ∈ written) :
    ∃ digit, digitValue? character = some digit := by
  obtain ⟨digits, said, _, _⟩ := spelled
  have found : digitValue? character ∈ written.map digitValue? := List.mem_map_of_mem member
  rw [said] at found
  obtain ⟨digit, _, same⟩ := List.mem_map.mp found
  exact ⟨digit, same.symm⟩

theorem Spells.eq_of_same {width other otherValue : Nat} (spelled : Spells width written value)
    (again : Spells other written otherValue) : value = otherValue := by
  obtain ⟨digits, said, _, rfl⟩ := spelled
  obtain ⟨digitsAgain, saidAgain, _, rfl⟩ := again
  have same : digits.map some = digitsAgain.map some := said.symm.trans saidAgain
  rw [(List.map_inj_right fun _ _ => Option.some.inj).mp same]

theorem spells_two_iff :
    Spells 2 written value ↔
      ∃ first second high low, written = [first, second] ∧ digitValue? first = some high ∧
        digitValue? second = some low ∧ value = 10 * high + low := by
  constructor
  · intro spelled
    obtain ⟨first, second, rfl⟩ := List.length_eq_two.mp spelled.length_eq
    obtain ⟨digits, said, width, rfl⟩ := spelled
    obtain ⟨high, low, rfl⟩ := List.length_eq_two.mp width
    obtain ⟨isHigh, others⟩ := List.cons.inj said
    refine ⟨first, second, high, low, rfl, isHigh, (List.cons.inj others).1, ?_⟩
    change 10 * (10 * 0 + high) + low = _
    rw [Nat.mul_zero, Nat.zero_add]
  · rintro ⟨first, second, high, low, rfl, isHigh, isLow, rfl⟩
    refine ⟨[high, low], ?_, rfl, ?_⟩
    · rw [List.map_cons, List.map_cons, isHigh, isLow]
      rfl
    · change _ = 10 * (10 * 0 + high) + low
      rw [Nat.mul_zero, Nat.zero_add]

private theorem twoDigits?_eq_some_iff :
    twoDigits? text = some (value, rest) ↔
      ∃ written, Spells 2 written value ∧ text = written ++ rest := by
  constructor
  · intro found
    unfold twoDigits? at found
    split at found
    next first second others =>
      simp only [Option.bind_eq_bind, Option.bind_eq_some_iff] at found
      obtain ⟨high, isHigh, low, isLow, same⟩ := found
      cases same
      exact ⟨[first, second], spells_two_iff.mpr ⟨_, _, _, _, rfl, isHigh, isLow, rfl⟩, rfl⟩
    next => cases found
  · rintro ⟨written, spelled, rfl⟩
    obtain ⟨first, second, high, low, rfl, isHigh, isLow, rfl⟩ := spells_two_iff.mp spelled
    change twoDigits? (first :: second :: rest) = _
    rw [twoDigits?, isHigh, isLow]
    rfl

private theorem spells_four_iff :
    Spells 4 written value ↔
      ∃ front back high low, written = front ++ back ∧ Spells 2 front high ∧
        Spells 2 back low ∧ value = 100 * high + low := by
  constructor
  · rintro ⟨digits, said, width, rfl⟩
    obtain ⟨first, second, third, fourth, rfl⟩ := List.length_eq_four.mp width
    have halves : written.map digitValue? =
        [first, second].map some ++ [third, fourth].map some := said
    obtain ⟨front, back, rfl, saidFront, saidBack⟩ := List.map_eq_append_iff.mp halves
    refine ⟨front, back, _, _, rfl, ⟨[first, second], saidFront, rfl, rfl⟩,
      ⟨[third, fourth], saidBack, rfl, rfl⟩, ?_⟩
    change 10 * (10 * (10 * (10 * 0 + first) + second) + third) + fourth =
      100 * (10 * (10 * 0 + first) + second) + (10 * (10 * 0 + third) + fourth)
    omega
  · rintro ⟨front, back, high, low, rfl, spelledFront, spelledBack, rfl⟩
    obtain ⟨frontDigits, saidFront, frontWidth, rfl⟩ := spelledFront
    obtain ⟨backDigits, saidBack, backWidth, rfl⟩ := spelledBack
    obtain ⟨first, second, rfl⟩ := List.length_eq_two.mp frontWidth
    obtain ⟨third, fourth, rfl⟩ := List.length_eq_two.mp backWidth
    refine ⟨[first, second] ++ [third, fourth], ?_, rfl, ?_⟩
    · rw [List.map_append, List.map_append, saidFront, saidBack]
    · change 100 * (10 * (10 * 0 + first) + second) + (10 * (10 * 0 + third) + fourth) =
        10 * (10 * (10 * (10 * 0 + first) + second) + third) + fourth
      omega

private theorem fourDigits?_eq_some_iff :
    fourDigits? text = some (value, rest) ↔
      ∃ written, Spells 4 written value ∧ text = written ++ rest := by
  unfold fourDigits?
  simp only [Option.bind_eq_bind, Option.bind_eq_some_iff, Prod.exists, twoDigits?_eq_some_iff]
  constructor
  · rintro ⟨high, middle, ⟨front, spelledFront, rfl⟩, low, others, ⟨back, spelledBack, rfl⟩, same⟩
    cases same
    have spelled := spells_four_iff.mpr ⟨front, back, _, _, rfl, spelledFront, spelledBack, rfl⟩
    exact ⟨front ++ back, spelled, (List.append_assoc _ _ _).symm⟩
  · rintro ⟨written, spelled, rfl⟩
    obtain ⟨front, back, high, low, rfl, spelledFront, spelledBack, rfl⟩ :=
      spells_four_iff.mp spelled
    refine ⟨high, back ++ rest, ⟨front, spelledFront, List.append_assoc _ _ _⟩, low, rest,
      ⟨back, spelledBack, rfl⟩, rfl⟩

/-! ### Later fields -/

private theorem field?_eq_some_iff {separator : Char} :
    field? separator text = some (value, rest) ↔
      ∃ letter written, letter.toUpper = separator ∧ Spells 2 written value ∧
        text = letter :: (written ++ rest) := by
  cases text with
  | nil =>
      constructor
      · intro found
        cases found
      · rintro ⟨letter, written, _, _, same⟩
        cases same
  | cons letter others =>
      rw [field?]
      constructor
      · intro found
        by_cases marked : letter.toUpper = separator
        · rw [if_pos marked] at found
          obtain ⟨written, spelled, rfl⟩ := twoDigits?_eq_some_iff.mp found
          exact ⟨letter, written, marked, spelled, rfl⟩
        · rw [if_neg marked] at found
          cases found
      · rintro ⟨other, written, marked, spelled, same⟩
        obtain ⟨rfl, rfl⟩ := List.cons.inj same
        rw [if_pos marked]
        exact twoDigits?_eq_some_iff.mpr ⟨written, spelled, rfl⟩

/-- The readings of fields are the ways in which a front of the text is written. -/
theorem mem_readings_iff {separators : List Char} {values : List Nat} :
    (values, rest) ∈ readings separators text ↔
      ∃ front, FieldsText separators front values ∧ text = front ++ rest := by
  induction separators generalizing text values with
  | nil =>
      rw [readings, List.mem_singleton]
      constructor
      · intro same
        cases same
        exact ⟨[], .ended [], rfl⟩
      · rintro ⟨front, fields, rfl⟩
        cases fields
        rfl
  | cons separator later inductionHypothesis =>
      rw [readings, List.mem_append, List.mem_singleton]
      constructor
      · rintro (further | same)
        · cases found : field? separator text with
          | none =>
              rw [found] at further
              cases further
          | some read =>
              rw [found] at further
              obtain ⟨⟨others, left⟩, member, same⟩ := List.mem_map.mp further
              cases same
              obtain ⟨letter, written, marked, spelled, rfl⟩ := field?_eq_some_iff.mp found
              obtain ⟨front, fields, rest⟩ := inductionHypothesis.mp member
              refine ⟨letter :: (written ++ front), .field marked spelled fields, ?_⟩
              rw [rest, List.cons_append, List.append_assoc]
        · cases same
          exact ⟨[], .ended _, rfl⟩
      · rintro ⟨front, fields, rfl⟩
        cases fields with
        | ended => exact .inr rfl
        | @field _ letter _ written front value values marked spelled fields =>
            refine .inl ?_
            have found : field? separator (letter :: (written ++ front) ++ rest) =
                some (value, front ++ rest) := by
              refine field?_eq_some_iff.mpr ⟨letter, written, marked, spelled, ?_⟩
              rw [List.cons_append, List.append_assoc]
            rw [found]
            exact List.mem_map.mpr
              ⟨(values, rest), inductionHypothesis.mpr ⟨front, fields, rfl⟩, rfl⟩

theorem readings_pairwise (separators text : List Char) :
    (readings separators text).Pairwise fun more fewer => fewer.1.length < more.1.length := by
  induction separators generalizing text with
  | nil => exact List.pairwise_singleton _ _
  | cons separator later inductionHypothesis =>
      rw [readings, List.pairwise_append]
      refine ⟨?_, List.pairwise_singleton _ _, ?_⟩
      · cases field? separator text with
        | none => exact List.Pairwise.nil
        | some read =>
            refine List.pairwise_map.mpr ((inductionHypothesis read.2).imp ?_)
            intro more fewer less
            exact Nat.succ_lt_succ less
      · intro more further fewer last
        cases List.mem_singleton.mp last
        cases found : field? separator text with
        | none =>
            rw [found] at further
            cases further
        | some read =>
            rw [found] at further
            obtain ⟨reading, _, rfl⟩ := List.mem_map.mp further
            exact Nat.succ_pos _

/-! ### Offsets -/

private theorem offsetField?_eq_some_iff :
    offsetField? text = some (value, rest) ↔
      ∃ front, OffsetFieldText front value ∧ text = front ++ rest := by
  unfold offsetField?
  constructor
  · intro found
    split at found
    · obtain ⟨written, spelled, rfl⟩ := twoDigits?_eq_some_iff.mp found
      exact ⟨':' :: written, .behindColon spelled, rfl⟩
    · obtain ⟨written, spelled, rfl⟩ := twoDigits?_eq_some_iff.mp found
      exact ⟨written, .plain spelled, rfl⟩
  · rintro ⟨front, fields, rfl⟩
    cases fields with
    | plain spelled =>
        split
        next others same =>
          obtain ⟨first, second, high, low, rfl, isHigh, _, _⟩ := spells_two_iff.mp spelled
          have colon : first = ':' := (List.cons.inj same).1
          have noDigit : digitValue? ':' = none := by decide
          rw [colon, noDigit] at isHigh
          cases isHigh
        next => exact twoDigits?_eq_some_iff.mpr ⟨_, spelled, rfl⟩
    | behindColon spelled => exact twoDigits?_eq_some_iff.mpr ⟨_, spelled, rfl⟩

private theorem Spells.twoDigits?_append (spelled : Spells 2 written value) (rest : List Char) :
    twoDigits? (written ++ rest) = some (value, rest) :=
  twoDigits?_eq_some_iff.mpr ⟨written, spelled, rfl⟩

private theorem OffsetFieldText.offsetField?_append {front : List Char}
    (field : OffsetFieldText front value) (rest : List Char) :
    offsetField? (front ++ rest) = some (value, rest) :=
  offsetField?_eq_some_iff.mpr ⟨front, field, rfl⟩

private theorem OffsetFieldText.isEmpty_append {front : List Char}
    (field : OffsetFieldText front value) (rest : List Char) :
    (front ++ rest).isEmpty = false := by
  cases field with
  | plain spelled =>
      obtain ⟨first, second, high, low, rfl, _, _, _⟩ := spells_two_iff.mp spelled
      rfl
  | behindColon spelled => rfl

variable {negative : Bool} {offset : Offset}

private theorem sizeText_of_signedOffset? (found : signedOffset? negative text = some offset) :
    SizeText negative text offset := by
  simp only [signedOffset?, Option.bind_eq_bind, Option.bind_eq_some_iff, Prod.exists] at found
  obtain ⟨hours, behindHours, isHours, found⟩ := found
  obtain ⟨hourText, hoursSpelled, rfl⟩ := twoDigits?_eq_some_iff.mp isHours
  split at found
  next ended =>
    cases found
    rw [List.isEmpty_iff.mp ended, List.append_nil]
    exact .hours hoursSpelled
  next =>
    simp only [Option.bind_eq_some_iff, Prod.exists] at found
    obtain ⟨minutes, behindMinutes, isMinutes, found⟩ := found
    obtain ⟨minuteText, minutesWritten, rfl⟩ := offsetField?_eq_some_iff.mp isMinutes
    split at found
    next ended =>
      cases found
      rw [List.isEmpty_iff.mp ended, List.append_nil]
      exact .minutes hoursSpelled minutesWritten
    next =>
      simp only [Option.bind_eq_some_iff, Prod.exists] at found
      obtain ⟨seconds, behindSeconds, isSeconds, found⟩ := found
      obtain ⟨secondText, secondsWritten, rfl⟩ := offsetField?_eq_some_iff.mp isSeconds
      split at found
      next ended =>
        cases found
        rw [List.isEmpty_iff.mp ended, List.append_nil]
        exact .seconds hoursSpelled minutesWritten secondsWritten
      next => cases found

private theorem signedOffset?_of_sizeText (size : SizeText negative text offset) :
    signedOffset? negative text = some offset := by
  cases size with
  | hours hoursSpelled =>
      have isHours := hoursSpelled.twoDigits?_append []
      rw [List.append_nil] at isHours
      rw [signedOffset?, isHours]
      rfl
  | minutes hoursSpelled minutesWritten =>
      have isMinutes := minutesWritten.offsetField?_append []
      have more := minutesWritten.isEmpty_append []
      rw [List.append_nil] at isMinutes more
      rw [signedOffset?, hoursSpelled.twoDigits?_append]
      simp only [Option.bind_eq_bind, Option.bind_some, more, isMinutes]
      rfl
  | seconds hoursSpelled minutesWritten secondsWritten =>
      have isSeconds := secondsWritten.offsetField?_append []
      have more := secondsWritten.isEmpty_append []
      rw [List.append_nil] at isSeconds more
      rw [signedOffset?, hoursSpelled.twoDigits?_append]
      simp only [Option.bind_eq_bind, Option.bind_some, minutesWritten.isEmpty_append,
        minutesWritten.offsetField?_append, more, isSeconds]
      rfl

theorem offset?_eq_some_iff :
    offset? text = some offset ↔ OffsetText text offset := by
  constructor
  · intro found
    unfold offset? at found
    split at found
    · cases found
      exact .absent
    · exact .ahead (sizeText_of_signedOffset? found)
    · exact .behind (sizeText_of_signedOffset? found)
    next letter _ _ =>
      by_cases marked : letter.toUpper = 'Z'
      · rw [if_pos marked] at found
        cases found
        exact .universal marked
      · rw [if_neg marked] at found
        cases found
    · cases found
  · intro written
    cases written with
    | absent => rfl
    | @universal letter marked =>
        unfold offset?
        split
        next same => cases same
        next same =>
          cases same
          cases marked
        next same =>
          cases same
          cases marked
        next other _ _ same =>
          cases same
          exact if_pos marked
        next unlike => exact absurd rfl (unlike letter)
    | ahead size => exact signedOffset?_of_sizeText size
    | behind size => exact signedOffset?_of_sizeText size

/-! ### Literals -/

/-- The first answer from items in falling size is that of the largest item with one. -/
theorem findSome?_eq_some_iff_fullest {Item Answer : Type} {size : Item → Nat}
    {answer? : Item → Option Answer} {items : List Item} {answer : Answer}
    (sorted : items.Pairwise fun more fewer => size fewer < size more) :
    items.findSome? answer? = some answer ↔
      ∃ item ∈ items, answer? item = some answer ∧
        ∀ other ∈ items, (answer? other).isSome → size other ≤ size item := by
  induction items with
  | nil =>
      constructor
      · intro found
        cases found
      · rintro ⟨item, member, _⟩
        cases member
  | cons head later inductionHypothesis =>
      obtain ⟨largest, sortedLater⟩ := List.pairwise_cons.mp sorted
      rw [List.findSome?_cons]
      cases found : answer? head with
      | some first =>
          constructor
          · intro same
            refine ⟨head, List.mem_cons_self, found.trans same, ?_⟩
            intro other member _
            rcases List.mem_cons.mp member with rfl | inLater
            · exact Nat.le_refl _
            · exact Nat.le_of_lt (largest other inLater)
          · rintro ⟨item, member, answered, most⟩
            rcases List.mem_cons.mp member with rfl | inLater
            · exact found.symm.trans answered
            · have less := largest item inLater
              have atLeast := most head List.mem_cons_self (Option.isSome_of_eq_some found)
              omega
      | none =>
          rw [inductionHypothesis sortedLater]
          constructor
          · rintro ⟨item, member, answered, most⟩
            refine ⟨item, List.mem_cons_of_mem _ member, answered, ?_⟩
            intro other otherMember present
            rcases List.mem_cons.mp otherMember with rfl | inLater
            · rw [found] at present
              cases present
            · exact most other inLater present
          · rintro ⟨item, member, answered, most⟩
            rcases List.mem_cons.mp member with rfl | inLater
            · rw [found] at answered
              cases answered
            · exact ⟨item, inLater, answered,
                fun other otherMember => most other (List.mem_cons_of_mem _ otherMember)⟩

variable {fields : PartialInstant}

/-- Behind a year the ways to write a text are its readings that leave an offset. -/
theorem instantText_append_iff {year : Nat} (spelled : Spells 4 written year) :
    InstantText (written ++ rest) fields ↔
      fields.year = year ∧ (fields.later, fields.offsetText) ∈ readings separators rest ∧
        offset? fields.offsetText = some fields.offset := by
  rw [mem_readings_iff, offset?_eq_some_iff]
  constructor
  · generalize whole : written ++ rest = text
    rintro ⟨yearSpelled, fieldsWritten, offsetWritten⟩
    obtain ⟨rfl, rfl⟩ :=
      List.append_inj whole (spelled.length_eq.trans yearSpelled.length_eq.symm)
    exact ⟨yearSpelled.eq_of_same spelled, ⟨_, fieldsWritten, rfl⟩, offsetWritten⟩
  · rintro ⟨rfl, ⟨front, fieldsWritten, rfl⟩, offsetWritten⟩
    exact .spelled spelled fieldsWritten offsetWritten

/-- The reader finds the fields of the reading, and no text has more than one. -/
theorem PartialInstant.read?_eq_some_iff :
    PartialInstant.read? text = some fields ↔ IsReading text fields := by
  unfold PartialInstant.read?
  simp only [Option.bind_eq_bind, Option.bind_eq_some_iff, Prod.exists, fourDigits?_eq_some_iff]
  constructor
  · rintro ⟨year, rest, ⟨written, spelled, rfl⟩, found⟩
    obtain ⟨⟨values, left⟩, member, answered, most⟩ :=
      (findSome?_eq_some_iff_fullest (readings_pairwise separators rest)).mp found
    obtain ⟨offset, isOffset, rfl⟩ := Option.map_eq_some_iff.mp answered
    refine ⟨(instantText_append_iff spelled).mpr ⟨rfl, member, isOffset⟩, ?_⟩
    intro other otherWritten
    obtain ⟨_, otherMember, otherOffset⟩ := (instantText_append_iff spelled).mp otherWritten
    refine most _ otherMember ?_
    rw [otherOffset]
    rfl
  · rintro ⟨whole, fullest⟩
    obtain ⟨written, rest, spelled, rfl⟩ :
        ∃ written rest, Spells 4 written fields.year ∧ text = written ++ rest := by
      cases whole with
      | spelled yearSpelled => exact ⟨_, _, yearSpelled, rfl⟩
    obtain ⟨_, member, isOffset⟩ := (instantText_append_iff spelled).mp whole
    refine ⟨fields.year, rest, ⟨written, spelled, rfl⟩,
      (findSome?_eq_some_iff_fullest (readings_pairwise separators rest)).mpr
        ⟨_, member, ?_, ?_⟩⟩
    · rw [isOffset]
      rfl
    · rintro ⟨values, left⟩ otherMember present
      obtain ⟨other, found⟩ := Option.isSome_iff_exists.mp present
      obtain ⟨offset, otherOffset, rfl⟩ := Option.map_eq_some_iff.mp found
      exact fullest ⟨fields.year, values, offset, left⟩
        ((instantText_append_iff spelled).mpr ⟨rfl, otherMember, otherOffset⟩)

/-- Hours and minutes behind a year are no month, as nothing can be read behind that month. -/
example : PartialInstant.read? "2027-0530".toList =
    some ⟨2027, [], ⟨true, 5, 30, 0⟩, "-0530".toList⟩ := by
  decide

theorem IsReading.eq_of_same {other : PartialInstant} (reading : IsReading text fields)
    (again : IsReading text other) : fields = other := by
  have found := PartialInstant.read?_eq_some_iff.mpr reading
  rw [PartialInstant.read?_eq_some_iff.mpr again] at found
  exact (Option.some.inj found).symm

end TableExport.Literal
