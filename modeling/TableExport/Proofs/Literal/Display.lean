import TableExport.Proofs.Calendar.Display
import TableExport.Proofs.Literal.OffsetSuffix

/-!
Displays as literals. The date of an instant is displayed with a year of four
digits and can be read back, as the midnight it starts with. What messages show
of an instant has no more digits of the year than the year itself has: from the
year 1000 on it is read back as the same instant, and before it is no literal at
all. Fractions of a second are not shown, so instants that have one are left out.
-/

set_option autoImplicit false

namespace TableExport.Text.Numeral

private theorem digitValue?_of_isDigit {character : Char} (digit : character.isDigit = true) :
    digitValue? character = some (character.toNat - 48) := by
  obtain ⟨low, high⟩ := digit_bounds digit
  have found : (decide (48 ≤ character.toNat) && decide (character.toNat < 48 + 10)) = true := by
    rw [Bool.and_eq_true, decide_eq_true_eq, decide_eq_true_eq]
    exact ⟨low, Nat.lt_succ_of_le high⟩
  have first : digitZeros = 48 :: digitZeros.tail := rfl
  unfold digitValue?
  rw [first, List.find?_cons]
  simp only [found, Option.map_some]

theorem padded_eq_ofNat {width value : Nat} (full : Nat.pow 10 width ≤ value) :
    padded (width + 1) value = ofNat value := by
  have long : width + 1 ≤ (ofNat value).toList.length := by
    by_contra short
    cases width with
    | zero =>
        have filled : 0 < (ofNat value).toList.length := by
          rw [ofNat, Nat.toList_repr]
          exact Nat.length_toDigits_pos
        exact short filled
    | succ width =>
        have below := (Nat.length_repr_le_iff (n := value) (Nat.succ_pos width)).mp
          (Nat.le_of_not_lt short)
        exact absurd full (Nat.not_le.mpr below)
  unfold padded
  dsimp only
  rw [Nat.sub_eq_zero_of_le long, List.replicate_zero, List.nil_append, String.ofList_toList]

end TableExport.Text.Numeral

namespace TableExport.Literal

open TableExport.Text
open TableExport.Calendar

private theorem spells_padded {width value : Nat} (positive : 0 < width)
    (fits : value < Nat.pow 10 width) :
    Spells width (Numeral.padded width value).toList value := by
  refine ⟨(Numeral.padded width value).toList.map fun character => character.toNat - 48,
    ?_, ?_, ?_⟩
  · rw [List.map_map]
    apply List.map_congr_left
    intro character member
    exact Numeral.digitValue?_of_isDigit (Numeral.isDigit_of_mem_padded member)
  · rw [List.length_map, Numeral.length_padded positive fits]
  · rw [Numeral.digitsValue_eq_ofDigitChars, Numeral.ofDigitChars_padded]

/-! ### Literals with one reading -/

variable {text : List Char} {fields : PartialInstant}

theorem InstantText.length_eq (written : InstantText text fields) :
    text.length = 4 + (3 * fields.later.length + fields.offsetText.length) := by
  cases written with
  | spelled year later offset =>
      rw [List.length_append, List.length_append, year.length_eq, later.length_eq]

/-- An offset that is shorter than a field leaves no room for another field. -/
theorem InstantText.isReading (written : InstantText text fields)
    (short : fields.offsetText.length < 3) : IsReading text fields := by
  refine ⟨written, ?_⟩
  intro other otherWritten
  have lengths := written.length_eq.symm.trans otherWritten.length_eq
  omega

private theorem InstantText.isReading_strip (written : InstantText text fields)
    (short : fields.offsetText.length < 3) : IsReading (strip text) fields := by
  rw [strip_of_unblank written.unblank]
  exact written.isReading short

/-- A literal has a year of four digits, so none of its first four characters is a mark. -/
theorem InstantText.length_ge {front rest : List Char} {mark : Char}
    (written : InstantText (front ++ mark :: rest) fields)
    (noDigit : digitValue? mark = none) : 4 ≤ front.length := by
  generalize known : front ++ mark :: rest = text at written
  cases written with
  | spelled year later offset =>
      by_contra short
      rcases List.append_eq_append_iff.mp known with ⟨between, split, behind⟩ | ⟨more, split, _⟩
      · cases between with
        | nil =>
            rw [List.append_nil] at split
            rw [← split, year.length_eq] at short
            exact short (Nat.le_refl 4)
        | cons first others =>
            have member : mark ∈ _ ++ first :: others :=
              List.mem_append_right front ((List.cons.inj behind).1 ▸ List.mem_cons_self)
            rw [← split] at member
            obtain ⟨digit, found⟩ := year.digit_of_mem member
            rw [noDigit] at found
            cases found
      · have lengths := congrArg List.length split
        rw [List.length_append, year.length_eq] at lengths
        omega

/-! ### Dates and times of day -/

theorem FieldsText.padded {mark : Char} {marks rest : List Char} {value : Nat}
    {values : List Nat} (later : FieldsText marks rest values)
    (marked : mark.toUpper = mark) (fits : value < Nat.pow 10 2) :
    FieldsText (mark :: marks) (mark :: ((Numeral.padded 2 value).toList ++ rest))
      (value :: values) :=
  .field marked (spells_padded (by decide) fits) later

private theorem fieldsText_date (date : Date) {rest : List Char} {values : List Nat}
    (later : FieldsText ['T', ':', ':'] rest values) :
    FieldsText separators
      ('-' :: ((Numeral.padded 2 date.month).toList ++
        '-' :: ((Numeral.padded 2 date.day).toList ++ rest)))
      (date.month :: date.day :: values) := by
  obtain ⟨_, month, day⟩ := date.fields_fit
  exact (later.padded (by decide) day).padded (by decide) month

private theorem spells_year (date : Date) :
    Spells 4 (Numeral.padded 4 date.year).toList date.year :=
  spells_padded (by decide) date.fields_fit.1

private theorem seconds_lt (instant : Instant) : instant.seconds < 86400 :=
  Nat.div_lt_of_lt_mul (Nat.mul_comm 86400 _ ▸ instant.micros_lt)

private theorem fieldsText_clock (instant : Instant) :
    FieldsText ['T', ':', ':'] ('T' :: instant.clock.toList)
      [instant.seconds / 3600, instant.seconds / 60 % 60, instant.seconds % 60] := by
  have within := seconds_lt instant
  have hundred : Nat.pow 10 2 = 100 := rfl
  have mark : ":".toList = [':'] := rfl
  unfold Instant.clock
  simp only [String.toList_append, mark, List.append_assoc, List.cons_append, List.nil_append]
  rw [← List.append_nil (Numeral.padded 2 (instant.seconds % 60)).toList]
  apply FieldsText.padded _ (by decide) (by omega)
  apply FieldsText.padded _ (by decide) (by omega)
  exact FieldsText.padded (.ended []) (by decide) (by omega)

def dateShown (date : Date) : PartialInstant :=
  ⟨date.year, [date.month, date.day], ⟨false, 0, 0, 0⟩, []⟩

def instantShown (instant : Instant) : PartialInstant :=
  ⟨instant.date.year,
    [instant.date.month, instant.date.day, instant.seconds / 3600, instant.seconds / 60 % 60,
      instant.seconds % 60],
    ⟨false, 0, 0, 0⟩, ['Z']⟩

private theorem noOffset_isAdmissible : Offset.IsAdmissible ⟨false, 0, 0, 0⟩ :=
  ⟨by decide, by decide, by decide⟩

private theorem instantText_display (date : Date) :
    InstantText date.display.toList (dateShown date) := by
  have written : InstantText _ (dateShown date) :=
    .spelled (spells_year date) (fieldsText_date date (.ended _)) .absent
  change InstantText (_ ++ (_ ++ [])) _ at written
  simp only [List.append_nil] at written
  rw [date.toList_display]
  exact written

theorem readInstant_display (date : Date) :
    readInstant (some date.display) = .ok (date.atHour 0) := by
  have reading := (instantText_display date).isReading_strip (Nat.zero_lt_succ 2)
  refine readInstant_ok_iff.mpr ⟨rfl, (namesMoment_iff reading).mpr ⟨date, ?_, ?_, ?_⟩⟩
  · exact ⟨rfl, rfl, rfl, Nat.zero_lt_succ _, Nat.zero_lt_succ _, Nat.zero_lt_succ _⟩
  · exact noOffset_isAdmissible
  · have clock : (dateShown date).clock = 0 :=
      PartialInstant.clock_of_dateOnly (Nat.le_refl 2)
    rw [Instant.moment_of_universal rfl]
    unfold Instant.localMicros PartialInstant.momentOn
    rw [clock]
    rfl

section Universal

variable {instant : Instant}

theorem exists_shown (universal : instant.offset = 0) :
    ∃ shown later, instant.shown = .ok shown ∧
      shown.toList = (Numeral.ofNat instant.date.year).toList ++ ('-' :: later ++ ['Z']) ∧
      FieldsText separators ('-' :: later) (instantShown instant).later := by
  have dash : "-".toList = ['-'] := rfl
  have letter : "T".toList = ['T'] := rfl
  have zone : "Z".toList = ['Z'] := rfl
  refine ⟨Numeral.ofNat instant.date.year ++ "-" ++ Numeral.padded 2 instant.date.month ++
    "-" ++ Numeral.padded 2 instant.date.day ++ "T" ++ instant.clock ++ "Z", _, ?_, ?_,
    fieldsText_date instant.date (fieldsText_clock instant)⟩
  · unfold Instant.shown
    rw [Instant.toUniversal_of_universal universal]
    rfl
  · simp only [String.toList_append, dash, letter, zone, List.append_assoc, List.cons_append,
      List.nil_append]

variable {shown : String} {later : List Char}

private theorem instantShown_names (instant : Instant) :
    (instantShown instant).Names instant.date := by
  refine ⟨rfl, rfl, rfl, ?_, ?_, ?_⟩
  · exact Nat.div_lt_of_lt_mul (seconds_lt instant)
  · exact Nat.mod_lt _ (by decide)
  · exact Nat.mod_lt _ (by decide)

private theorem clock_instantShown (instant : Instant) :
    (instantShown instant).clock = instant.seconds := by
  change (instant.seconds / 3600 * 60 + instant.seconds / 60 % 60) * 60 +
    instant.seconds % 60 = instant.seconds
  omega

private theorem readInstant_of_fullYear (universal : instant.offset = 0)
    (whole : instant.micros % microsPerSecond = 0)
    (text : shown.toList =
      (Numeral.ofNat instant.date.year).toList ++ ('-' :: later ++ ['Z']))
    (written : FieldsText separators ('-' :: later) (instantShown instant).later)
    (full : 1000 ≤ instant.date.year) : readInstant (some shown) = .ok instant := by
  have year := spells_year instant.date
  rw [Numeral.padded_eq_ofNat full] at year
  have zone : OffsetText ['Z'] ⟨false, 0, 0, 0⟩ := .universal rfl
  have spelled : InstantText _ (instantShown instant) := .spelled year written zone
  change InstantText (_ ++ (_ ++ ['Z'])) _ at spelled
  rw [← text] at spelled
  have reading := spelled.isReading_strip (Nat.succ_lt_succ (Nat.zero_lt_succ 1))
  refine readInstant_ok_iff.mpr ⟨universal, (namesMoment_iff reading).mpr
    ⟨instant.date, instantShown_names instant, noOffset_isAdmissible, ?_⟩⟩
  have micros : instant.micros = instant.seconds * microsPerSecond :=
    (Nat.div_mul_cancel (Nat.dvd_of_mod_eq_zero whole)).symm
  have noLead : (instantShown instant).offset.lead = 0 := rfl
  rw [Instant.moment_of_universal universal]
  unfold Instant.localMicros PartialInstant.momentOn
  rw [clock_instantShown, noLead, micros, Int.sub_zero, Int.natCast_mul]

private theorem readInstant_of_shortYear
    (text : shown.toList =
      (Numeral.ofNat instant.date.year).toList ++ ('-' :: later ++ ['Z']))
    (written : FieldsText separators ('-' :: later) (instantShown instant).later)
    (short : instant.date.year < 1000) :
    readInstant (some shown) = .error (.literal ⟨some shown, .unreadable .instant⟩) := by
  have unblank : ∀ character ∈ shown.toList, isBlank character = false := by
    rw [text]
    refine List.forall_mem_append.mpr ⟨?_, List.forall_mem_append.mpr ⟨?_, ?_⟩⟩
    · intro character member
      exact isBlank_of_digit
        (Numeral.digitValue?_of_isDigit (Numeral.isDigit_of_mem_ofNat member))
    · exact written.unblank separators_unblank
    · exact List.forall_mem_singleton.mpr (by decide)
  have unread : PartialInstant.read? (strip shown.toList) = none := by
    cases found : PartialInstant.read? (strip shown.toList) with
    | none => rfl
    | some fields =>
        have spelled := (PartialInstant.read?_eq_some_iff.mp found).written
        rw [strip_of_unblank unblank, text] at spelled
        have digits : (Numeral.ofNat instant.date.year).toList.length ≤ 3 :=
          (Nat.length_repr_le_iff (by decide)).mpr short
        exact absurd (spelled.length_ge (by decide)) (Nat.not_le.mpr (Nat.lt_succ_of_le digits))
  simp only [readInstant, unread]

/-- The date of an instant of whole seconds is read back as its midnight, and what messages show
of the instant is read back as the instant itself, unless its year has fewer than four digits:
then it is refused. -/
theorem readInstant_shown (universal : instant.offset = 0)
    (whole : instant.micros % microsPerSecond = 0) :
    ∃ shown date, instant.shown = .ok shown ∧ instant.universalDate = .ok date ∧
      readInstant (some date) = .ok (instant.date.atHour 0) ∧
      (1000 ≤ instant.date.year → readInstant (some shown) = .ok instant) ∧
      (instant.date.year < 1000 →
        readInstant (some shown) = .error (.literal ⟨some shown, .unreadable .instant⟩)) := by
  obtain ⟨shown, later, made, text, written⟩ := exists_shown universal
  refine ⟨shown, instant.date.display, made, Instant.universalDate_of_universal universal,
    readInstant_display instant.date, ?_, ?_⟩
  · exact readInstant_of_fullYear universal whole text written
  · exact readInstant_of_shortYear text written

end Universal

def lastSecond : Instant :=
  ⟨.last, 86399 * microsPerSecond, 0, by decide⟩

theorem readInstant_shown_lastSecond :
    lastSecond.offset = 0 ∧ lastSecond.micros % microsPerSecond = 0 ∧
      lastSecond.shown = .ok "9999-12-31T23:59:59Z" ∧
      readInstant (some "9999-12-31T23:59:59Z") = .ok lastSecond := by
  have whole : lastSecond.micros % microsPerSecond = 0 := Nat.mul_mod_left _ _
  have text : lastSecond.shown = .ok "9999-12-31T23:59:59Z" :=
    Sequence.ok_of_toOption (by decide +kernel)
  obtain ⟨shown, _, made, _, _, full, _⟩ := @readInstant_shown lastSecond rfl whole
  cases made.symm.trans text
  exact ⟨rfl, whole, text, full (by decide)⟩

def endOf999 : Date :=
  (Date.ofFields 999 12 31).toOption.get (by decide)

/-- With three digits of the year, what is shown is not a literal although the date is. -/
theorem shown_unreadable_999 :
    (endOf999.atHour 0).offset = 0 ∧ (endOf999.atHour 0).micros % microsPerSecond = 0 ∧
      (endOf999.atHour 0).shown = .ok "999-12-31T00:00:00Z" ∧
      readInstant (some "999-12-31T00:00:00Z") =
        .error (.literal ⟨some "999-12-31T00:00:00Z", .unreadable .instant⟩) ∧
      (endOf999.atHour 0).universalDate = .ok "0999-12-31" ∧
      readInstant (some "0999-12-31") = .ok (endOf999.atHour 0) := by
  refine ⟨rfl, rfl, ?_, ?_, ?_, ?_⟩
  · exact Sequence.ok_of_toOption (by decide +kernel)
  · have unread : PartialInstant.read? (strip "999-12-31T00:00:00Z".toList) = none := by
      decide +kernel
    simp only [readInstant, unread]
  · exact Sequence.ok_of_toOption (by decide +kernel)
  · exact Sequence.ok_of_toOption (by decide +kernel)

end TableExport.Literal
