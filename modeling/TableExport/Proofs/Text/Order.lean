import TableExport.Proofs.Text.Numeral

/-!
The order of texts, character by character. Texts with fronts of one length
compare by their fronts first, and digit strings of one length compare like the
numbers they say. So numerals padded to a width stand in the order of their
values as long as the width is enough. Beyond it only the first digits of the
longer numeral count, as many as the shorter one has.
-/

set_option autoImplicit false

namespace TableExport.Text

private theorem char_lt_iff {first second : Char} :
    first < second ↔ first.toNat < second.toNat := by
  rw [Char.lt_def]
  exact UInt32.lt_iff_toNat_lt

theorem char_le_iff {first second : Char} : first ≤ second ↔ first.toNat ≤ second.toNat := by
  rw [Char.le_def]
  exact UInt32.le_iff_toNat_le

theorem append_lt_append_iff {front other rest otherRest : List Char}
    (sameLength : front.length = other.length) :
    front ++ rest < other ++ otherRest ↔ front < other ∨ front = other ∧ rest < otherRest := by
  induction front generalizing other with
  | nil =>
      cases other with
      | nil => simp only [List.nil_append, List.not_lt_nil, true_and, false_or]
      | cons character later => cases sameLength
  | cons character later inductionHypothesis =>
      cases other with
      | nil => cases sameLength
      | cons otherCharacter otherLater =>
          rw [List.cons_append, List.cons_append, List.cons_lt_cons_iff, List.cons_lt_cons_iff,
            inductionHypothesis (Nat.succ.inj sameLength), List.cons.injEq]
          by_cases same : character = otherCharacter
          · subst same
            simp only [Char.lt_irrefl, true_and, false_or]
          · simp only [same, false_and, or_false]

namespace Numeral

theorem ofDigitChars_lt_iff {digits other : List Char} (sameLength : digits.length = other.length)
    (allDigits : ∀ character ∈ digits, character.isDigit = true)
    (otherDigits : ∀ character ∈ other, character.isDigit = true) (start otherStart : Nat) :
    Nat.ofDigitChars 10 digits start < Nat.ofDigitChars 10 other otherStart ↔
      start < otherStart ∨ start = otherStart ∧ digits < other := by
  induction digits generalizing other start otherStart with
  | nil =>
      cases other with
      | nil => simp only [Nat.ofDigitChars_nil, List.not_lt_nil, and_false, or_false]
      | cons character later => cases sameLength
  | cons character later inductionHypothesis =>
      cases other with
      | nil => cases sameLength
      | cons otherCharacter otherLater =>
          have digit := digit_bounds (allDigits character List.mem_cons_self)
          have otherDigit := digit_bounds (otherDigits otherCharacter List.mem_cons_self)
          have zero : '0'.toNat = 48 := rfl
          have same : character = otherCharacter ↔ character.toNat = otherCharacter.toNat :=
            Char.toNat_inj.symm
          rw [Nat.ofDigitChars_cons, Nat.ofDigitChars_cons,
            inductionHypothesis (Nat.succ.inj sameLength)
              (fun other member => allDigits other (List.mem_cons_of_mem _ member))
              (fun other member => otherDigits other (List.mem_cons_of_mem _ member)),
            List.cons_lt_cons_iff, char_lt_iff, same]
          by_cases less : later < otherLater
          · simp only [less, and_true]
            omega
          · simp only [less, and_false, or_false]
            omega

def paddedLength (width value : Nat) : Nat :=
  max width (ofNat value).length

theorem length_padded_eq (width value : Nat) :
    (padded width value).toList.length = paddedLength width value := by
  rw [padded, String.toList_ofList, List.length_append, List.length_replicate, paddedLength,
    String.length_toList]
  omega

theorem length_padded {width value : Nat} (positive : 0 < width)
    (fits : value < Nat.pow 10 width) : (padded width value).toList.length = width := by
  have short : (ofNat value).length ≤ width := (Nat.length_repr_le_iff positive).mpr fits
  rw [length_padded_eq, paddedLength, Nat.max_eq_left short]

theorem padded_lt_iff {width first second : Nat} (positive : 0 < width)
    (firstFits : first < Nat.pow 10 width) (secondFits : second < Nat.pow 10 width) :
    (padded width first).toList < (padded width second).toList ↔ first < second := by
  have sameLength :=
    (length_padded positive firstFits).trans (length_padded positive secondFits).symm
  have order := ofDigitChars_lt_iff sameLength (fun _ => isDigit_of_mem_padded)
    (fun _ => isDigit_of_mem_padded) 0 0
  rw [ofDigitChars_padded, ofDigitChars_padded] at order
  rw [order]
  simp only [Nat.lt_irrefl, true_and, false_or]

private theorem ofDigitChars_lt {digits : List Char}
    (allDigits : ∀ character ∈ digits, character.isDigit = true) :
    Nat.ofDigitChars 10 digits 0 < Nat.pow 10 digits.length := by
  have small : ∀ digit ∈ digits.map fun character => character.toNat - 48, digit < 10 := by
    intro digit member
    obtain ⟨character, inside, rfl⟩ := List.mem_map.mp member
    have bounds := digit_bounds (allDigits character inside)
    omega
  have below := digitsValueFrom_lt small 0
  rw [List.length_map, Nat.zero_add, Nat.one_mul] at below
  rw [← digitsValue_eq_ofDigitChars]
  exact below

theorem ofDigitChars_append_div (front : List Char) {later : List Char}
    (allDigits : ∀ character ∈ later, character.isDigit = true) :
    Nat.ofDigitChars 10 (front ++ later) 0 / Nat.pow 10 later.length =
      Nat.ofDigitChars 10 front 0 := by
  have below := ofDigitChars_lt allDigits
  rw [Nat.ofDigitChars_append, Nat.ofDigitChars_eq_ofDigitChars_zero, ← Nat.pow_eq]
  apply Nat.div_eq_of_lt_le
  · rw [Nat.mul_comm]
    exact Nat.le_add_right _ _
  · rw [Nat.add_mul, Nat.one_mul, Nat.mul_comm]
    exact Nat.add_lt_add_left below _

private theorem ofDigitChars_le_iff {digits other : List Char}
    (sameLength : digits.length = other.length)
    (allDigits : ∀ character ∈ digits, character.isDigit = true)
    (otherDigits : ∀ character ∈ other, character.isDigit = true) :
    Nat.ofDigitChars 10 digits 0 ≤ Nat.ofDigitChars 10 other 0 ↔
      digits < other ∨ digits = other := by
  rw [← List.le_iff_lt_or_eq, ← List.not_lt, ← Nat.not_lt,
    ofDigitChars_lt_iff sameLength.symm otherDigits allDigits]
  simp only [Nat.lt_irrefl, true_and, false_or]

private theorem paddedLength_le {width first second : Nat} (atMost : first ≤ second) :
    paddedLength width first ≤ paddedLength width second := by
  have positive : 0 < (ofNat second).length := Nat.length_repr_pos
  have within : second < Nat.pow 10 (ofNat second).length :=
    (Nat.length_repr_le_iff positive).mp (Nat.le_refl _)
  have shorter : (ofNat first).length ≤ (ofNat second).length :=
    (Nat.length_repr_le_iff positive).mpr (Nat.lt_of_le_of_lt atMost within)
  unfold paddedLength
  omega

/-- In front of a character below the digits, a numeral comes before a greater one unless it
exceeds what the first digits of that one say, as many as it has itself. -/
theorem padded_append_lt_iff {width first second : Nat} {mark : Char} (less : first < second)
    (below : mark < '0') (rest otherRest : List Char) :
    (padded width first).toList ++ mark :: rest < (padded width second).toList ++ otherRest ↔
      first ≤ second / Nat.pow 10 (paddedLength width second - paddedLength width first) := by
  have shorter : paddedLength width first ≤ paddedLength width second :=
    paddedLength_le (Nat.le_of_lt less)
  have length := length_padded_eq width first
  have otherLength := length_padded_eq width second
  have value := ofDigitChars_padded width first
  have otherValue := ofDigitChars_padded width second
  have digits : ∀ character ∈ (padded width first).toList, character.isDigit = true :=
    fun _ => isDigit_of_mem_padded
  have otherDigits : ∀ character ∈ (padded width second).toList, character.isDigit = true :=
    fun _ => isDigit_of_mem_padded
  generalize (padded width first).toList = front at *
  -- the longer numeral is cut behind as many digits as the shorter one has
  obtain ⟨leading, later, split, sameLength⟩ : ∃ leading later,
      (padded width second).toList = leading ++ later ∧ front.length = leading.length :=
    ⟨_, _, (List.take_append_drop front.length _).symm, by
      rw [List.length_take, length, otherLength]
      omega⟩
  rw [split] at otherLength otherValue otherDigits ⊢
  have leadingDigits := fun character member =>
    otherDigits character (List.mem_append_left later member)
  have laterDigits := fun character member =>
    otherDigits character (List.mem_append_right leading member)
  have count : paddedLength width second - paddedLength width first = later.length := by
    rw [List.length_append] at otherLength
    omega
  have continued : front = leading → mark :: rest < later ++ otherRest := by
    rintro rfl
    cases later with
    | nil =>
        rw [List.append_nil, value] at otherValue
        omega
    | cons digit digitsAfter =>
        have bounds := digit_bounds (laterDigits digit List.mem_cons_self)
        have lower := char_lt_iff.mp below
        have zero : '0'.toNat = 48 := rfl
        apply List.cons_lt_cons_iff.mpr
        exact .inl (char_lt_iff.mpr (by omega))
  rw [count, ← otherValue, ofDigitChars_append_div leading laterDigits, ← value,
    ofDigitChars_le_iff sameLength digits leadingDigits, List.append_assoc,
    append_lt_append_iff sameLength, and_iff_left_of_imp continued]

end Numeral

end TableExport.Text
