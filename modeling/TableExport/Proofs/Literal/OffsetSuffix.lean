import Mathlib.Data.List.GetD
import TableExport.Proofs.Literal.Instant
import TableExport.Proofs.Text.Margins

/-!
Offsets behind literals that have none. Writing an offset behind a literal shifts
its instant, save in two cases. Behind a blank margin no offset can be read. And
behind a year or a month, a minus with hours only is the next field of the date:
the result then is another instant or no instant, never the shifted one. Nothing
is claimed about literals that have an offset already.
-/

set_option autoImplicit false

namespace TableExport.Literal

open TableExport.Text
open TableExport.Calendar

/-- A minus with two digits, which is an offset and also a month or a day. -/
def IsBareHours (text : List Char) : Prop :=
  ∃ hourText hours, Spells 2 hourText hours ∧ text = '-' :: hourText

variable {text suffix later rest marks : List Char}
variable {values : List Nat} {value : Nat} {offset : Offset} {fields : PartialInstant}

/-! ### Characters of literals -/

theorem Spells.unblank {width : Nat} (spelled : Spells width text value) :
    ∀ character ∈ text, isBlank character = false := by
  intro character member
  obtain ⟨digit, found⟩ := spelled.digit_of_mem member
  exact isBlank_of_digit found

private theorem unblank_of_toUpper {letter mark : Char} (marked : letter.toUpper = mark)
    (unblank : isBlank mark = false) : isBlank letter = false := by
  refine Bool.eq_false_iff.mpr fun blank => ?_
  have upper := isBlank_toUpper blank
  rw [marked, unblank] at upper
  exact Bool.false_ne_true upper

theorem FieldsText.unblank (written : FieldsText marks text values)
    (unblank : ∀ mark ∈ marks, isBlank mark = false) :
    ∀ character ∈ text, isBlank character = false := by
  induction written with
  | ended => exact fun character member => absurd member List.not_mem_nil
  | field marked spelled _ inductionHypothesis =>
      obtain ⟨first, others⟩ := List.forall_mem_cons.mp unblank
      refine List.forall_mem_cons.mpr ⟨unblank_of_toUpper marked first, ?_⟩
      exact List.forall_mem_append.mpr ⟨spelled.unblank, inductionHypothesis others⟩

theorem OffsetFieldText.unblank (written : OffsetFieldText text value) :
    ∀ character ∈ text, isBlank character = false := by
  cases written with
  | plain spelled => exact spelled.unblank
  | behindColon spelled => exact List.forall_mem_cons.mpr ⟨by decide, spelled.unblank⟩

theorem SizeText.unblank {negative : Bool} (written : SizeText negative text offset) :
    ∀ character ∈ text, isBlank character = false := by
  cases written with
  | hours spelled => exact spelled.unblank
  | minutes spelled minutes =>
      exact List.forall_mem_append.mpr ⟨spelled.unblank, minutes.unblank⟩
  | seconds spelled minutes seconds =>
      refine List.forall_mem_append.mpr ⟨spelled.unblank, ?_⟩
      exact List.forall_mem_append.mpr ⟨minutes.unblank, seconds.unblank⟩

theorem OffsetText.unblank (written : OffsetText text offset) :
    ∀ character ∈ text, isBlank character = false := by
  cases written with
  | absent => exact fun character member => absurd member List.not_mem_nil
  | universal marked =>
      exact List.forall_mem_singleton.mpr (unblank_of_toUpper marked (by decide))
  | ahead size => exact List.forall_mem_cons.mpr ⟨by decide, size.unblank⟩
  | behind size => exact List.forall_mem_cons.mpr ⟨by decide, size.unblank⟩

theorem separators_unblank : ∀ mark ∈ separators, isBlank mark = false := by
  have unblank : separators.any isBlank = false := by decide
  intro mark member
  exact Bool.eq_false_iff.mpr (List.any_eq_false.mp unblank mark member)

theorem InstantText.unblank (written : InstantText text fields) :
    ∀ character ∈ text, isBlank character = false := by
  cases written with
  | spelled year later offset =>
      refine List.forall_mem_append.mpr ⟨year.unblank, ?_⟩
      exact List.forall_mem_append.mpr ⟨later.unblank separators_unblank, offset.unblank⟩

/-- The characters that go on with a number or with the size of an offset. -/
def GoesOn (character : Char) : Prop :=
  character = ':' ∨ ∃ digit, digitValue? character = some digit

private theorem toUpper_of_goesOn {character : Char} (goesOn : GoesOn character) :
    character.toUpper = character := by
  rcases goesOn with rfl | ⟨digit, found⟩
  · rfl
  · exact toUpper_of_digit found

private theorem not_goesOn {character : Char} (other : character ≠ ':')
    (noDigit : digitValue? character = none) : ¬ GoesOn character := by
  rintro (colon | ⟨digit, found⟩)
  · exact other colon
  · rw [noDigit] at found
    cases found

private theorem OffsetFieldText.exists_goesOn (written : OffsetFieldText text value) :
    ∃ first rest, text = first :: rest ∧ GoesOn first := by
  cases written with
  | plain spelled =>
      obtain ⟨first, second, high, _, rfl, isHigh, _, _⟩ := spells_two_iff.mp spelled
      exact ⟨first, [second], rfl, .inr ⟨high, isHigh⟩⟩
  | behindColon spelled => exact ⟨':', _, rfl, .inl rfl⟩

private theorem SizeText.exists_hours {negative : Bool} (size : SizeText negative text offset) :
    ∃ hourText hours rest, Spells 2 hourText hours ∧ text = hourText ++ rest ∧
      (rest = [] ∨ ∃ first later, rest = first :: later ∧ GoesOn first) := by
  cases size with
  | hours spelled => exact ⟨_, _, [], spelled, (List.append_nil _).symm, .inl rfl⟩
  | minutes spelled minutes =>
      exact ⟨_, _, _, spelled, rfl, .inr minutes.exists_goesOn⟩
  | seconds spelled minutes seconds =>
      obtain ⟨first, rest, rfl, goesOn⟩ := minutes.exists_goesOn
      exact ⟨_, _, _, spelled, rfl, .inr ⟨first, rest ++ _, rfl, goesOn⟩⟩

theorem OffsetText.cons_cases {first : Char} (written : OffsetText (first :: rest) offset) :
    first.toUpper = 'Z' ∨ first = '+' ∨ first = '-' ∧ SizeText true rest offset := by
  cases written with
  | universal marked => exact .inl marked
  | ahead => exact .inr (.inl rfl)
  | behind size => exact .inr (.inr ⟨rfl, size⟩)

private theorem OffsetText.not_goesOn {first : Char} (written : OffsetText (first :: rest) offset) :
    ¬ GoesOn first := by
  intro goesOn
  have kept := toUpper_of_goesOn goesOn
  rcases written.cons_cases with marked | rfl | ⟨rfl, _⟩
  · rw [kept] at marked
    subst marked
    exact Literal.not_goesOn (by decide) (by decide) goesOn
  · exact Literal.not_goesOn (by decide) (by decide) goesOn
  · exact Literal.not_goesOn (by decide) (by decide) goesOn

theorem OffsetText.eq_of_same {other : Offset} (written : OffsetText text offset)
    (again : OffsetText text other) : offset = other := by
  have found := offset?_eq_some_iff.mpr written
  rw [offset?_eq_some_iff.mpr again] at found
  exact (Option.some.inj found).symm

/-! ### Fields behind fields -/

theorem FieldsText.length_eq (written : FieldsText marks text values) :
    text.length = 3 * values.length := by
  induction written with
  | ended => rfl
  | field _ spelled _ inductionHypothesis =>
      rw [List.length_cons, List.length_append, spelled.length_eq, inductionHypothesis,
        List.length_cons]
      omega

theorem FieldsText.append {more : List Nat} (first : FieldsText marks later values)
    (second : FieldsText (marks.drop values.length) rest more) :
    FieldsText marks (later ++ rest) (values ++ more) := by
  induction first with
  | ended => exact second
  | field marked spelled _ inductionHypothesis =>
      rw [List.cons_append, List.append_assoc]
      exact .field marked spelled (inductionHypothesis second)

/-- Where two ways to write a text part, the one with more fields goes on with its own. -/
theorem FieldsText.exists_further {others end₁ end₂ : List Char} {otherValues : List Nat}
    (few : FieldsText marks later values)
    (many : FieldsText marks others otherValues)
    (same : later ++ end₁ = others ++ end₂) (atLeast : values.length ≤ otherValues.length) :
    ∃ extra further, FieldsText (marks.drop values.length) extra further ∧
      otherValues = values ++ further ∧ end₁ = extra ++ end₂ := by
  induction few generalizing others otherValues with
  | ended => exact ⟨others, otherValues, many, rfl, same⟩
  | field _ spelled _ inductionHypothesis =>
      cases many with
      | ended => exact absurd atLeast (Nat.not_succ_le_zero _)
      | field _ spelledToo manyLater =>
          rw [List.cons_append, List.cons_append, List.append_assoc, List.append_assoc] at same
          -- both fields are two digits wide, so they are one field and the rest is the same
          obtain ⟨rfl, behind⟩ := List.append_inj (List.cons.inj same).2
            (spelled.length_eq.trans spelledToo.length_eq.symm)
          obtain ⟨extra, further, fields, rfl, split⟩ :=
            inductionHypothesis manyLater behind (Nat.le_of_succ_le_succ atLeast)
          refine ⟨extra, further, fields, ?_, split⟩
          rw [spelled.eq_of_same spelledToo]
          rfl

/-! ### Readings with an offset behind -/

private theorem drop_separators_minus {count : Nat} (same : separators.drop count = '-' :: marks) :
    count ≤ 1 ∧ ∀ mark ∈ marks.head?, ¬ GoesOn mark := by
  match count, same with
  | 0, same =>
      cases same
      refine ⟨Nat.zero_le _, fun mark first => ?_⟩
      cases first
      exact not_goesOn (by decide) (by decide)
  | 1, same =>
      cases same
      refine ⟨Nat.le_refl _, fun mark first => ?_⟩
      cases first
      exact not_goesOn (by decide) (by decide)
  | count + 2, same =>
      change ['T', ':', ':'].drop count = '-' :: marks at same
      have member : '-' ∈ ['T', ':', ':'].drop count := same ▸ List.mem_cons_self
      exact absurd (List.mem_of_mem_drop member) (by decide)

private theorem exists_drop_separators {count : Nat} (few : count ≤ 1) :
    ∃ marks, separators.drop count = '-' :: marks := by
  match count, few with
  | 0, _ => exact ⟨_, rfl⟩
  | 1, _ => exact ⟨_, rfl⟩

/-- Neither a field nor an offset starts as the size of an offset goes on behind its hours. -/
theorem FieldsText.not_goesOn {first : Char} {others : List Char}
    (written : FieldsText marks later values) (atMark : ∀ mark ∈ marks.head?, ¬ GoesOn mark)
    (behind : OffsetText rest offset) (split : later ++ rest = first :: others) :
    ¬ GoesOn first := by
  cases written with
  | ended =>
      rw [List.nil_append] at split
      subst split
      exact behind.not_goesOn
  | field marked _ _ =>
      cases (List.cons.inj split).1
      intro goesOn
      rw [toUpper_of_goesOn goesOn] at marked
      subst marked
      exact atMark _ rfl goesOn

/-- An offset that opens with more fields is a minus with hours, behind a year or a month. -/
theorem bareHours_of_further {count : Nat} {extra : List Char} {further : List Nat}
    {other : Offset} (furtherWritten : FieldsText (separators.drop count) extra further)
    (present : further ≠ []) (written : OffsetText (extra ++ rest) offset)
    (behind : OffsetText rest other) : count ≤ 1 ∧ IsBareHours (extra ++ rest) := by
  generalize known : separators.drop count = marks at furtherWritten
  cases furtherWritten with
  | ended => exact absurd rfl present
  | @field mark letter laterMarks hourText later hours _ marked spelled laterWritten =>
      have member : mark ∈ separators := List.mem_of_mem_drop (known ▸ List.mem_cons_self)
      rw [List.cons_append, List.append_assoc] at written ⊢
      rcases written.cons_cases with universal | rfl | ⟨rfl, size⟩
      · rw [marked] at universal
        subst universal
        exact absurd member (by decide)
      · subst marked
        exact absurd member (by decide)
      · subst marked
        obtain ⟨few, atMark⟩ := drop_separators_minus known
        obtain ⟨sizeHours, hoursToo, tail, spelledToo, same, ended⟩ := size.exists_hours
        obtain ⟨rfl, split⟩ :=
          List.append_inj same (spelled.length_eq.trans spelledToo.length_eq.symm)
        rcases ended with rfl | ⟨first, others, rfl, goesOn⟩
        · rw [split, List.append_nil]
          exact ⟨few, hourText, hours, spelled, rfl⟩
        · exact absurd goesOn (laterWritten.not_goesOn atMark behind split)

private theorem isReading_append_offset (whole : InstantText text fields)
    (noOffset : fields.offsetText = []) (written : OffsetText suffix offset)
    (clear : ¬ (fields.later.length ≤ 1 ∧ IsBareHours suffix)) :
    IsReading (text ++ suffix) ⟨fields.year, fields.later, offset, suffix⟩ := by
  cases whole with
  | spelled yearSpelled laterWritten _ =>
      rw [noOffset, List.append_nil, List.append_assoc]
      refine ⟨@InstantText.spelled _ _ ⟨_, _, _, _⟩ yearSpelled laterWritten written,
        fun other otherWritten => ?_⟩
      obtain ⟨_, member, found⟩ := (instantText_append_iff yearSpelled).mp otherWritten
      obtain ⟨front, otherFields, same⟩ := mem_readings_iff.mp member
      rcases Nat.lt_or_ge fields.later.length other.later.length with more | atMost
      · obtain ⟨extra, further, furtherWritten, split, rfl⟩ :=
          laterWritten.exists_further otherFields same (Nat.le_of_lt more)
        refine absurd (bareHours_of_further furtherWritten ?_ written
          (offset?_eq_some_iff.mp found)) clear
        rintro rfl
        rw [split, List.append_nil] at more
        exact Nat.lt_irrefl _ more
      · exact atMost

private theorem isReading_append_bareHours {hourText : List Char} {hours : Nat}
    (whole : InstantText text fields) (noOffset : fields.offsetText = [])
    (few : fields.later.length ≤ 1) (spelled : Spells 2 hourText hours) :
    IsReading (text ++ '-' :: hourText)
      ⟨fields.year, fields.later ++ [hours], ⟨false, 0, 0, 0⟩, []⟩ := by
  cases whole with
  | @spelled year later _ yearSpelled laterWritten _ =>
      rw [noOffset, List.append_nil, List.append_assoc]
      obtain ⟨marks, known⟩ := exists_drop_separators few
      have further : FieldsText (separators.drop fields.later.length) ('-' :: hourText)
          [hours] := by
        rw [known, ← List.append_nil hourText]
        exact .field rfl spelled (.ended marks)
      refine ⟨?_, fun other otherWritten => ?_⟩
      · have longer := laterWritten.append further
        rw [← List.append_nil (later ++ _)]
        exact @InstantText.spelled _ _ ⟨_, _, _, _⟩ yearSpelled longer .absent
      · obtain ⟨_, member, _⟩ := (instantText_append_iff yearSpelled).mp otherWritten
        obtain ⟨front, otherFields, same⟩ := mem_readings_iff.mp member
        have lengths := congrArg List.length same
        rw [List.length_append, List.length_append, laterWritten.length_eq, otherFields.length_eq,
          List.length_cons, spelled.length_eq] at lengths
        rw [List.length_append, List.length_singleton]
        omega

/-! ### Shifted instants -/

theorem InstantText.ne_nil (written : InstantText text fields) : text ≠ [] := by
  cases written with
  | spelled year _ _ =>
      refine List.append_ne_nil_of_left_ne_nil (List.ne_nil_of_length_pos ?_) _
      rw [year.length_eq]
      exact Nat.succ_pos _

private theorem OffsetText.not_endsBlank (written : OffsetText text offset) : ¬ EndsBlank text := by
  rintro ⟨filled, blank⟩
  rw [written.unblank _ (List.getLast_mem filled)] at blank
  exact Bool.false_ne_true blank

private theorem InstantText.offset_eq (written : InstantText text fields)
    (noOffset : fields.offsetText = []) : fields.offset = ⟨false, 0, 0, 0⟩ := by
  cases written with
  | spelled _ _ offsetWritten =>
      rw [noOffset] at offsetWritten
      exact offsetWritten.eq_of_same .absent

theorem PartialInstant.clock_of_dateOnly (dateOnly : fields.later.length ≤ 2) :
    fields.clock = 0 := by
  unfold clock
  rw [List.getD_eq_default _ _ dateOnly, List.getD_eq_default _ _ (Nat.le_succ_of_le dateOnly),
    List.getD_eq_default _ _ (Nat.le_succ_of_le (Nat.le_succ_of_le dateOnly))]

private theorem PartialInstant.momentOn_withOffset {date : Date}
    (plain : fields.offset = ⟨false, 0, 0, 0⟩) :
    momentOn ⟨fields.year, fields.later, offset, suffix⟩ date =
      fields.momentOn date - offset.lead * microsPerSecond := by
  have noLead : Offset.lead ⟨false, 0, 0, 0⟩ = 0 := rfl
  unfold momentOn
  rw [plain, noLead, Int.sub_zero, Int.sub_mul, Int.add_sub_assoc]
  rfl

/-- A number read as a month or a day is not zero, so the day it gives does not start as many
hours later as the number says. -/
theorem PartialInstant.momentOn_ne_of_bareHours {hours : Nat} {other : Date} (date : Date)
    (few : fields.later.length ≤ 1) (plain : fields.offset = ⟨false, 0, 0, 0⟩)
    (atMost : hours ≤ 18)
    (names : Names ⟨fields.year, fields.later ++ [hours], ⟨false, 0, 0, 0⟩, []⟩ other) :
    momentOn ⟨fields.year, fields.later ++ [hours], ⟨false, 0, 0, 0⟩, []⟩ other ≠
      fields.momentOn date - Offset.lead ⟨true, hours, 0, 0⟩ * microsPerSecond := by
  have positive : 1 ≤ hours := by
    match known : fields.later, few with
    | [], _ =>
        have month : other.month = hours := names.month.trans (by rw [known]; rfl)
        exact month ▸ other.month_pos
    | [_], _ =>
        have day : other.day = hours := names.day.trans (by rw [known]; rfl)
        exact day ▸ other.day_pos
  -- both moments are midnights, and they are no more than eighteen hours apart
  have longer : (fields.later ++ [hours]).length ≤ 2 := by
    rw [List.length_append, List.length_singleton]
    omega
  unfold momentOn
  rw [clock_of_dateOnly longer, clock_of_dateOnly (Nat.le_succ_of_le few), plain]
  unfold Offset.lead microsPerDay microsPerSecond
  simp only [if_true, Bool.false_eq_true, if_false]
  omega

section Suffix

variable {literal appended : String} {instant shifted : Instant}

private theorem not_isReading_of_endsBlank (reading : IsReading (strip literal.toList) fields)
    (written : OffsetText appended.toList offset) (present : appended ≠ "")
    (blank : EndsBlank literal.toList) (other : PartialInstant) :
    ¬ IsReading (strip (literal ++ appended).toList) other := by
  intro otherReading
  obtain ⟨trail, blanks, clean, stripped⟩ := exists_strip_append reading.written.ne_nil
  obtain ⟨first, rest, rfl⟩ := List.exists_cons_of_ne_nil (mt clean.mp (not_not.mpr blank))
  have unblank : isBlank first = false := by
    refine otherReading.written.unblank first ?_
    rw [String.toList_append,
      stripped _ (mt String.toList_eq_nil_iff.mp present) written.not_endsBlank]
    exact List.mem_append_right _ List.mem_cons_self
  rw [blanks first List.mem_cons_self] at unblank
  cases unblank

private theorem strip_append_offset (reading : IsReading (strip literal.toList) fields)
    (written : OffsetText appended.toList offset) (present : appended ≠ "")
    (unblank : ¬ EndsBlank literal.toList) :
    strip (literal ++ appended).toList = strip literal.toList ++ appended.toList := by
  obtain ⟨trail, _, clean, stripped⟩ := exists_strip_append reading.written.ne_nil
  rw [String.toList_append,
    stripped _ (mt String.toList_eq_nil_iff.mp present) written.not_endsBlank,
    clean.mpr unblank, List.nil_append]

/-- Behind a literal without an offset, an offset gives the instant it shifts to, whenever there
is such an instant, unless the literal ends in a blank or stops at its year or month and the
offset is a minus with hours only. -/
theorem readInstant_append_offset_iff (reading : IsReading (strip literal.toList) fields)
    (noOffset : fields.offsetText = []) (read : readInstant (some literal) = .ok instant)
    (written : OffsetText appended.toList offset) (present : appended ≠ "")
    (admissible : offset.IsAdmissible) (universal : shifted.offset = 0)
    (moved : shifted.moment = instant.moment - offset.lead * microsPerSecond) :
    readInstant (some (literal ++ appended)) = .ok shifted ↔
      ¬ EndsBlank literal.toList ∧
        ¬ (fields.later.length ≤ 1 ∧ IsBareHours appended.toList) := by
  have plain := reading.written.offset_eq noOffset
  obtain ⟨_, named⟩ := readInstant_ok_iff.mp read
  obtain ⟨date, names, _, atDate⟩ := (namesMoment_iff reading).mp named
  rw [readInstant_ok_iff, and_iff_right universal]
  by_cases blank : EndsBlank literal.toList
  · refine iff_of_false ?_ fun both => both.1 blank
    rintro ⟨other, _, otherReading, _⟩
    exact not_isReading_of_endsBlank reading written present blank other otherReading
  have whole := strip_append_offset reading written present blank
  by_cases bare : fields.later.length ≤ 1 ∧ IsBareHours appended.toList
  · refine iff_of_false ?_ fun both => both.2 bare
    obtain ⟨few, hourText, hours, spelled, same⟩ := bare
    have otherReading := isReading_append_bareHours reading.written noOffset few spelled
    rw [← same, ← whole] at otherReading
    rw [same] at written
    cases written.eq_of_same (.behind (.hours spelled))
    have size := admissible.size_le
    dsimp only at size
    have atMost : hours ≤ 18 := by omega
    rw [namesMoment_iff otherReading]
    rintro ⟨other, otherNames, _, atOther⟩
    refine PartialInstant.momentOn_ne_of_bareHours date few plain atMost otherNames ?_
    rw [← atOther, moved, atDate]
  · refine iff_of_true ?_ ⟨blank, bare⟩
    have otherReading := isReading_append_offset reading.written noOffset written bare
    rw [← whole] at otherReading
    rw [namesMoment_iff otherReading]
    refine ⟨date, ⟨names.year, names.month, names.day, names.hour, names.minute, names.second⟩,
      admissible, ?_⟩
    rw [moved, atDate]
    exact (PartialInstant.momentOn_withOffset plain).symm

end Suffix

def startOf2027 : Date :=
  (Date.ofFields 2027 1 1).toOption.get (by decide)

def startOfMay2027 : Date :=
  (Date.ofFields 2027 5 1).toOption.get (by decide)

private theorem isReading_2027 :
    IsReading (strip "2027".toList) ⟨2027, [], ⟨false, 0, 0, 0⟩, []⟩ :=
  PartialInstant.read?_eq_some_iff.mp (by decide)

private theorem readInstant_2027 : readInstant (some "2027") = .ok (startOf2027.atHour 0) :=
  Sequence.ok_of_toOption (by decide +kernel)

theorem readInstant_2027_append_offset :
    readInstant (some ("2027" ++ "-0500")) = .ok (startOf2027.atHour 5) := by
  have written : OffsetText "-0500".toList ⟨true, 5, 0, 0⟩ := offset?_eq_some_iff.mp (by decide)
  have admissible : Offset.IsAdmissible ⟨true, 5, 0, 0⟩ := ⟨by decide, by decide, by decide⟩
  have moved : (startOf2027.atHour 5).moment =
      (startOf2027.atHour 0).moment - Offset.lead ⟨true, 5, 0, 0⟩ * microsPerSecond := by
    decide +kernel
  refine (readInstant_append_offset_iff isReading_2027 rfl readInstant_2027 written (by decide)
    admissible rfl moved).mpr ⟨?_, ?_⟩
  · rintro ⟨filled, blank⟩
    exact absurd blank (by decide +revert)
  · rintro ⟨_, hourText, hours, spelled, same⟩
    have lengths := congrArg List.length same
    rw [List.length_cons, spelled.length_eq] at lengths
    exact absurd lengths (by decide)

/-- Hours alone behind a year are a month, and behind a blank margin there is no offset. -/
theorem bareHours_read_as_month :
    IsReading (strip "2027".toList) ⟨2027, [], ⟨false, 0, 0, 0⟩, []⟩ ∧
      readInstant (some "2027") = .ok (startOf2027.atHour 0) ∧
      OffsetText "-05".toList ⟨true, 5, 0, 0⟩ ∧ Offset.IsAdmissible ⟨true, 5, 0, 0⟩ ∧
      (startOf2027.atHour 5).moment =
        (startOf2027.atHour 0).moment - Offset.lead ⟨true, 5, 0, 0⟩ * microsPerSecond ∧
      readInstant (some ("2027" ++ "-05")) = .ok (startOfMay2027.atHour 0) ∧
      startOfMay2027.atHour 0 ≠ startOf2027.atHour 5 ∧
      readInstant (some "2027 ") = .ok (startOf2027.atHour 0) ∧
      readInstant (some ("2027 " ++ "Z")) =
        .error (.literal ⟨some "2027 Z", .unreadable .instant⟩) := by
  refine ⟨isReading_2027, readInstant_2027, offset?_eq_some_iff.mp (by decide),
    ⟨by decide, by decide, by decide⟩, by decide +kernel, ?_, by decide +kernel, ?_, ?_⟩
  · exact Sequence.ok_of_toOption (by decide +kernel)
  · exact Sequence.ok_of_toOption (by decide +kernel)
  · have unread : PartialInstant.read? (strip ("2027 " ++ "Z").toList) = none := by decide +kernel
    simp only [readInstant, unread]
    rfl

end TableExport.Literal
