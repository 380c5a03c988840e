import TableExport.Connection.Config
import TableExport.Proofs.Text.Margins
import TableExport.Proofs.Text.Numeral
import TableExport.Proofs.Text.Percent

/-!
Addresses of databases on servers, written and taken apart again. An address is
cut at delimiters, and no part that is written holds one of those it is cut at:
user and password are quoted, a host has letters, digits, points and hyphens,
and a database stands behind all delimiters but those that would end it.
-/

set_option autoImplicit false

namespace TableExport.Connection

open TableExport.Text

section Cutting

variable {separator : Char} {before after text : List Char}

theorem cutAt_of_notMem (absent : separator ∉ text) : cutAt separator text = (text, none) := by
  induction text with
  | nil => rfl
  | cons character rest inductionHypothesis =>
      obtain ⟨different, later⟩ := List.ne_and_not_mem_of_not_mem_cons absent
      rw [cutAt, if_neg different.symm, inductionHypothesis later]

theorem cutAt_append (absent : separator ∉ before) (after : List Char) :
    cutAt separator (before ++ separator :: after) = (before, some after) := by
  induction before with
  | nil => exact if_pos rfl
  | cons character rest inductionHypothesis =>
      obtain ⟨different, later⟩ := List.ne_and_not_mem_of_not_mem_cons absent
      rw [List.cons_append, cutAt, if_neg different.symm, inductionHypothesis later]

theorem cutAtLast_append (before : List Char) (absent : separator ∉ after) :
    cutAtLast separator (before ++ separator :: after) = (some before, after) := by
  have absentBehind : separator ∉ after.reverse := fun member => absent (List.mem_reverse.mp member)
  rw [cutAtLast, List.reverse_append, List.reverse_cons, List.append_assoc, List.singleton_append,
    cutAt_append absentBehind]
  dsimp only
  rw [Option.map_some, List.reverse_reverse, List.reverse_reverse]

/-- A character that a predicate refuses is not among characters that it accepts. -/
theorem notMem_of_forall {accepts : Char → Bool} {character : Char}
    (all : ∀ character ∈ text, accepts character = true) (refused : accepts character = false) :
    character ∉ text := by
  intro member
  rw [all character member] at refused
  cases refused

end Cutting

def isLowerLetter (character : Char) : Bool :=
  isWithin casedRanges character &&
    lowered (String.singleton character) == String.singleton character

def isHostCharacter (character : Char) : Bool :=
  isLowerLetter character || isDigit character || character == '.' || character == '-'

def isQuoted (character : Char) : Bool :=
  Percent.isUnreserved character || character == '%'

def isAuthorityCharacter (character : Char) : Bool :=
  isQuoted character || isHostCharacter character || character == ':' || character == '@'

section Characters

variable {character : Char}

theorem isQuoted_of_mem_quote {text : String} (member : character ∈ Percent.quote text) :
    isQuoted character = true := by
  obtain ⟨written, _, inside⟩ := List.mem_flatMap.mp member
  unfold Percent.quoteChar at inside
  split at inside
  · rename_i unreserved
    rw [List.mem_singleton.mp inside, isQuoted, unreserved, Bool.true_or]
  · obtain ⟨byte, _, escaped⟩ := List.mem_flatMap.mp inside
    have digit : ∀ value < 16, isQuoted (Percent.hexDigit value) = true := by decide
    have small : byte.toNat < 256 := byte.toNat_lt
    simp only [Percent.escape, List.mem_cons, List.not_mem_nil, or_false] at escaped
    rcases escaped with rfl | rfl | rfl
    · decide
    · exact digit _ (by omega)
    · exact digit _ (by omega)

private theorem quoteChar_ne_nil (character : Char) : Percent.quoteChar character ≠ [] := by
  unfold Percent.quoteChar
  split
  · exact List.cons_ne_nil _ _
  · intro empty
    obtain ⟨byte, rest, bytes⟩ := List.exists_cons_of_ne_nil (String.utf8EncodeChar_ne_nil)
    rw [bytes] at empty
    cases empty

theorem quote_ne_nil {text : String} (filled : text ≠ "") : Percent.quote text ≠ [] := by
  intro empty
  rw [Percent.quote, List.flatMap_eq_nil_iff] at empty
  cases written : text.toList with
  | nil => exact filled (String.toList_eq_nil_iff.mp written)
  | cons first rest =>
      rw [written] at empty
      exact quoteChar_ne_nil first (empty first List.mem_cons_self)

/-- A character that lower-casing keeps, wherever it stands. -/
def KeepsCase (character : Char) : Prop :=
  character ≠ 'Σ' ∧ character ≠ 'İ' ∧ lowerChar character = character

private theorem keepsCase_of_lowered
    (kept : lowered (String.singleton character) = String.singleton character) :
    KeepsCase character := by
  by_cases sigma : character = 'Σ'
  · subst sigma
    exact absurd kept (by decide +kernel)
  by_cases dotted : character = 'İ'
  · subst dotted
    exact absurd kept (by decide +kernel)
  refine ⟨sigma, dotted, ?_⟩
  have lists := congrArg String.toList kept
  rw [lowered, String.toList_ofList, String.toList_singleton, lowerAfter, lowerAfter,
    if_neg (by rwa [beq_iff_eq]), if_neg (by rwa [beq_iff_eq]), List.append_nil] at lists
  exact List.singleton_inj.mp lists

private theorem lowerAfter_eq_self {text : List Char}
    (kept : ∀ character ∈ text, KeepsCase character)
    (before : List Char) : lowerAfter before text = text := by
  induction text generalizing before with
  | nil => rfl
  | cons character rest inductionHypothesis =>
      obtain ⟨⟨sigma, dotted, same⟩, later⟩ := List.forall_mem_cons.mp kept
      rw [lowerAfter, if_neg (by rwa [beq_iff_eq]), if_neg (by rwa [beq_iff_eq]), same,
        inductionHypothesis later, List.singleton_append]

theorem lowered_eq_self {text : String} (kept : ∀ character ∈ text.toList, KeepsCase character) :
    lowered text = text := by
  rw [lowered, lowerAfter_eq_self kept, String.ofList_toList]

theorem keepsCase_of_isDigit (digit : isDigit character = true) : KeepsCase character := by
  obtain ⟨value, found⟩ := Option.isSome_iff_exists.mp digit
  obtain ⟨base, member, low, high⟩ := exists_zero_of_digit found
  have apart : (capitalRuns.all fun run => digitZeros.all fun base =>
      Nat.blt run.2.1 base || Nat.ble (base + 10) run.1) = true := by
    decide +kernel
  have single : ∀ base ∈ digitZeros, (0x3A3 < base ∨ base + 10 ≤ 0x3A3) ∧
      (0x130 < base ∨ base + 10 ≤ 0x130) := by decide
  obtain ⟨sigma, dotted⟩ := single base member
  refine ⟨?_, ?_, ?_⟩
  · rintro rfl
    exact absurd (show base ≤ 0x3A3 ∧ 0x3A3 < base + 10 from ⟨low, high⟩) (by omega)
  · rintro rfl
    exact absurd (show base ≤ 0x130 ∧ 0x130 < base + 10 from ⟨low, high⟩) (by omega)
  · unfold lowerChar
    rw [List.find?_eq_none.mpr]
    intro run listed inside
    rw [Bool.and_eq_true, Bool.and_eq_true, decide_eq_true_eq, decide_eq_true_eq] at inside
    have outside := List.all_eq_true.mp (List.all_eq_true.mp apart run listed) base member
    rw [Bool.or_eq_true, Nat.blt_eq, Nat.ble_eq] at outside
    rcases outside with below | above
    · omega
    · omega

theorem keepsCase_of_isHostCharacter (inHost : isHostCharacter character = true) :
    KeepsCase character := by
  simp only [isHostCharacter, isLowerLetter, Bool.or_eq_true, Bool.and_eq_true, beq_iff_eq]
    at inHost
  rcases inHost with ((⟨_, kept⟩ | digit) | rfl) | rfl
  · exact keepsCase_of_lowered kept
  · exact keepsCase_of_isDigit digit
  · exact keepsCase_of_lowered (by decide +kernel)
  · exact keepsCase_of_lowered (by decide +kernel)

/-- No character of an authority ends it, is dropped from it or stands for a delimiter. -/
theorem isAuthorityCharacter_delimiters :
    ∀ character ∈ ['/', '?', '#', '[', ']', '\t', '\r', '\n'],
      isAuthorityCharacter character = false := by
  have outside : ['/', '?', '#', '[', ']', '\t', '\r', '\n'].any isAuthorityCharacter = false := by
    decide +kernel
  exact fun character listed =>
    Bool.eq_false_iff.mpr (List.any_eq_false.mp outside character listed)

theorem isDisguisedDelimiter_of_isAuthorityCharacter
    (inside : isAuthorityCharacter character = true) : isDisguisedDelimiter character = false := by
  have outside : ∀ code ∈ disguisedDelimiterCodes,
      isAuthorityCharacter (Char.ofNat code) = false := by
    decide +kernel
  refine Bool.eq_false_iff.mpr fun disguised => ?_
  have refused := outside character.toNat (List.contains_iff_mem.mp disguised)
  rw [Char.ofNat_toNat, inside] at refused
  cases refused

end Characters

end TableExport.Connection
