import Mathlib.Data.List.DropRight
import TableExport.Text.Blank
import TableExport.Text.Digit

/-!
Blank margins. When something is written behind a text, the blank characters at
the end of the text are no margin any more: they stay, between what the text was
without its margins and what follows. Digits and the other case of a letter keep
to their side of the line between blank and not blank.
-/

set_option autoImplicit false

namespace TableExport.Text

def EndsBlank (text : List Char) : Prop :=
  ∃ filled : text ≠ [], isBlank (text.getLast filled) = true

variable {text : List Char}

theorem dropTrailing_eq_rdropWhile (drops : Char → Bool) (text : List Char) :
    dropTrailing drops text = text.rdropWhile drops := by
  induction text with
  | nil => rfl
  | cons character rest inductionHypothesis =>
      rw [dropTrailing, inductionHypothesis]
      unfold List.rdropWhile
      rw [List.reverse_cons, List.dropWhile_append]
      cases kept : rest.reverse.dropWhile drops with
      | nil =>
          rw [List.isEmpty_nil, if_pos rfl]
          by_cases dropped : drops character = true
          · rw [List.dropWhile_cons_of_pos dropped]
            exact if_pos dropped
          · rw [List.dropWhile_cons_of_neg dropped]
            exact if_neg dropped
      | cons last front =>
          rw [List.isEmpty_cons, if_neg Bool.false_ne_true, List.reverse_append]
          split
          next none => exact absurd none (List.reverse_ne_nil_iff.mpr (List.cons_ne_nil _ _))
          next => rfl

private theorem endsBlank_append_iff {front rest : List Char} (filled : rest ≠ []) :
    EndsBlank (front ++ rest) ↔ EndsBlank rest := by
  have whole : front ++ rest ≠ [] := List.append_ne_nil_of_right_ne_nil front filled
  have last := List.getLast_append_of_ne_nil whole filled
  constructor
  · rintro ⟨_, blank⟩
    rw [last] at blank
    exact ⟨filled, blank⟩
  · rintro ⟨_, blank⟩
    refine ⟨whole, ?_⟩
    rw [last]
    exact blank

/-- What stands between a text without its margins and a suffix that ends in no blank. -/
theorem exists_strip_append (filled : strip text ≠ []) :
    ∃ trail, (∀ character ∈ trail, isBlank character = true) ∧ (trail = [] ↔ ¬ EndsBlank text) ∧
      ∀ suffix, suffix ≠ [] → ¬ EndsBlank suffix →
        strip (text ++ suffix) = strip text ++ (trail ++ suffix) := by
  have shown : strip text = (text.dropWhile isBlank).rdropWhile isBlank :=
    dropTrailing_eq_rdropWhile _ _
  have inside : text.dropWhile isBlank ≠ [] := by
    intro blank
    rw [shown, blank] at filled
    exact filled rfl
  refine ⟨(text.dropWhile isBlank).rtakeWhile isBlank, ?_, ?_, ?_⟩
  · intro character member
    exact List.mem_rtakeWhile_imp member
  · nth_rewrite 2 [← List.takeWhile_append_dropWhile (p := isBlank) (l := text)]
    rw [endsBlank_append_iff inside, List.rtakeWhile_eq_nil_iff]
    exact not_exists.symm
  · intro suffix present unblank
    rw [shown, ← List.append_assoc (List.rdropWhile _ _), List.rdropWhile_append_rtakeWhile]
    unfold strip
    rw [dropTrailing_eq_rdropWhile, List.dropWhile_append, if_neg, List.rdropWhile_eq_self_iff]
    · intro _ blank
      exact unblank ((endsBlank_append_iff present).mp ⟨_, blank⟩)
    · rw [List.isEmpty_iff]
      exact inside

/-- A text without blank characters has no margins. -/
theorem strip_of_unblank (unblank : ∀ character ∈ text, isBlank character = false) :
    strip text = text := by
  have front : text.dropWhile isBlank = text := by
    rw [List.dropWhile_eq_self_iff]
    intro filled blank
    rw [unblank _ (List.getElem_mem filled)] at blank
    exact Bool.false_ne_true blank
  unfold strip
  rw [front, dropTrailing_eq_rdropWhile, List.rdropWhile_eq_self_iff]
  intro filled blank
  rw [unblank _ (List.getLast_mem filled)] at blank
  exact Bool.false_ne_true blank

variable {character : Char}

theorem exists_zero_of_digit {digit : Nat} (found : digitValue? character = some digit) :
    ∃ base ∈ digitZeros, base ≤ character.toNat ∧ character.toNat < base + 10 := by
  obtain ⟨base, first, _⟩ := Option.map_eq_some_iff.mp found
  have inRun := List.find?_some first
  rw [Bool.and_eq_true, decide_eq_true_eq, decide_eq_true_eq] at inRun
  exact ⟨base, List.mem_of_find?_eq_some first, inRun⟩

theorem isBlank_of_digit {digit : Nat} (found : digitValue? character = some digit) :
    isBlank character = false := by
  obtain ⟨base, member, low, high⟩ := exists_zero_of_digit found
  have apart : ∀ base ∈ digitZeros, ∀ code ∈ blankCodes, code < base ∨ base + 10 ≤ code := by
    decide +kernel
  refine Bool.eq_false_iff.mpr fun blank => ?_
  rcases apart base member _ (List.contains_iff_mem.mp blank) with below | above
  · omega
  · omega

theorem digitValue?_eq_none (above : 58 ≤ character.toNat) (below : character.toNat ≤ 122) :
    digitValue? character = none := by
  cases found : digitValue? character with
  | none => rfl
  | some digit =>
      obtain ⟨base, member, low, high⟩ := exists_zero_of_digit found
      have runs : ∀ base ∈ digitZeros, base = 48 ∨ 123 ≤ base := by decide
      rcases runs base member with ascii | later
      · omega
      · omega

theorem toUpper_of_digit {digit : Nat} (found : digitValue? character = some digit) :
    character.toUpper = character := by
  unfold Char.toUpper
  rw [dif_neg]
  rintro ⟨atLeast, atMost⟩
  have first : 97 ≤ character.toNat := UInt32.le_iff_toNat_le.mp atLeast
  rw [digitValue?_eq_none (by omega) (UInt32.le_iff_toNat_le.mp atMost)] at found
  cases found

theorem isBlank_toUpper (blank : isBlank character = true) : isBlank character.toUpper = true := by
  have every : ∀ code ∈ blankCodes, isBlank (Char.ofNat code).toUpper = true := by decide
  have upper := every character.toNat (List.contains_iff_mem.mp blank)
  rw [Char.ofNat_toNat] at upper
  exact upper

end TableExport.Text
