import TableExport.Log.Redaction

/-!
Scans for secrets. A scan goes from left to right and looks only ahead, so a
text in which nothing that is replaced begins is passed over as it is, and what
stands behind it is scanned as if it stood alone.
-/

set_option autoImplicit false

namespace TableExport.Log

open TableExport.Text

/-! ### Scanning -/

section Scanning

variable {find? : List Char → Option Replacement}

private theorem replaceAll_skip (find? : List Char → Option Replacement) (skipped : Nat)
    (text : List Char) :
    replaceAll find? skipped text = replaceAll find? 0 (text.drop skipped) := by
  induction text generalizing skipped with
  | nil =>
      rw [List.drop_nil]
      cases skipped <;> rfl
  | cons character rest inductionHypothesis =>
      cases skipped with
      | zero => rfl
      | succ fewer => exact inductionHypothesis fewer

theorem replaceAll_of_none {character : Char} {rest : List Char}
    (missing : find? (character :: rest) = none) :
    replaceAll find? 0 (character :: rest) = character :: replaceAll find? 0 rest := by
  rw [replaceAll, missing]

theorem replaceAll_of_some {character : Char} {rest : List Char} {replacement : Replacement}
    (found : find? (character :: rest) = some replacement)
    (positive : 0 < replacement.length) :
    replaceAll find? 0 (character :: rest) =
      replacement.written ++
        replaceAll find? 0 ((character :: rest).drop replacement.length) := by
  obtain ⟨fewer, counted⟩ := Nat.exists_eq_succ_of_ne_zero (Nat.ne_of_gt positive)
  rw [replaceAll, found]
  dsimp only
  rw [replaceAll_skip, counted]
  rfl

inductive Scan (find? : List Char → Option Replacement) : List Char → List Char → Prop
  | done : Scan find? [] []
  | keep {character : Char} {rest scanned : List Char}
      (missing : find? (character :: rest) = none) (later : Scan find? rest scanned) :
      Scan find? (character :: rest) (character :: scanned)
  | replace {text rest scanned : List Char} {replacement : Replacement}
      (found : find? text = some replacement) (remains : text.drop replacement.length = rest)
      (later : Scan find? rest scanned) : Scan find? text (replacement.written ++ scanned)

theorem scan_replaceAll
    (positive : ∀ text replacement, find? text = some replacement → 0 < replacement.length)
    (text : List Char) : Scan find? text (replaceAll find? 0 text) := by
  -- a replacement takes several characters at once, so the induction is on the length
  induction counted : text.length using Nat.strongRecOn generalizing text with
  | ind count inductionHypothesis =>
      cases text with
      | nil => exact .done
      | cons character rest =>
          cases found : find? (character :: rest) with
          | none =>
              rw [replaceAll_of_none found]
              exact .keep found
                (inductionHypothesis rest.length (counted ▸ Nat.lt_succ_self _) rest rfl)
          | some replacement =>
              have filled := positive _ _ found
              rw [replaceAll_of_some found filled]
              refine .replace found rfl (inductionHypothesis _ ?_ _ rfl)
              rw [← counted, List.length_drop]
              exact Nat.sub_lt (Nat.succ_pos _) filled

/-- A text that a scan passes over, whatever follows it. -/
def Passes (find? : List Char → Option Replacement) (front : List Char) : Prop :=
  ∀ rest, replaceAll find? 0 (front ++ rest) = front ++ replaceAll find? 0 rest

theorem passes_nil (find? : List Char → Option Replacement) : Passes find? [] :=
  fun _ => rfl

theorem Passes.append {first second : List Char} (passes : Passes find? first)
    (passesToo : Passes find? second) : Passes find? (first ++ second) := by
  intro rest
  rw [List.append_assoc, passes, passesToo, List.append_assoc]

theorem Passes.cons {character : Char} {front : List Char} (passes : Passes find? front)
    (missing : ∀ rest, find? (character :: (front ++ rest)) = none) :
    Passes find? (character :: front) := by
  intro rest
  rw [List.cons_append, replaceAll_of_none (missing rest), passes]
  rfl

end Scanning

/-! ### Two scans -/

/-- What two scans meet at the start of a front behind which their texts differ: nothing, one
replacement that ends in the front, or replacements that write the same and leave the same to be
scanned. What is written within the front is made of characters that fit there. -/
inductive Meets (find? : List Char → Option Replacement) (fits : Char → Prop)
    (front left right : List Char) : Prop
  | nothing (missing : find? (front ++ left) = none) (missingToo : find? (front ++ right) = none)
  | within (replacement : Replacement) (positive : 0 < replacement.length)
      (ends : replacement.length ≤ front.length)
      (fitting : ∀ character ∈ replacement.written, fits character)
      (found : find? (front ++ left) = some replacement)
      (foundToo : find? (front ++ right) = some replacement)
  | beyond (written : List Char) (length lengthToo : Nat) (positive : 0 < length)
      (positiveToo : 0 < lengthToo) (found : find? (front ++ left) = some ⟨written, length⟩)
      (foundToo : find? (front ++ right) = some ⟨written, lengthToo⟩)
      (same : (front ++ left).drop length = (front ++ right).drop lengthToo)

section Relating

variable {find? : List Char → Option Replacement} {fits : Char → Prop}
  {related : List Char → List Char → Prop} {left right : List Char}

private theorem related_append
    (behind : ∀ character one other, fits character → related one other →
      related (character :: one) (character :: other))
    {written one other : List Char} (fitting : ∀ character ∈ written, fits character)
    (held : related one other) : related (written ++ one) (written ++ other) := by
  induction written with
  | nil => exact held
  | cons character rest inductionHypothesis =>
      obtain ⟨first, others⟩ := List.forall_mem_cons.mp fitting
      exact behind _ _ _ first (inductionHypothesis others)

variable (same : ∀ text, related text text)
  (behind : ∀ character one other, fits character → related one other →
    related (character :: one) (character :: other))
include same behind

private theorem replaceAll_related_step {character : Char} {rest : List Char} (fit : fits character)
    (meets : Meets find? fits (character :: rest) left right)
    (later : ∀ part, part <:+ rest →
      related (replaceAll find? 0 (part ++ left)) (replaceAll find? 0 (part ++ right))) :
    related (replaceAll find? 0 (character :: rest ++ left))
      (replaceAll find? 0 (character :: rest ++ right)) := by
  cases meets with
  | nothing missing missingToo =>
      rw [List.cons_append] at missing missingToo
      rw [List.cons_append, List.cons_append, replaceAll_of_none missing,
        replaceAll_of_none missingToo]
      exact behind _ _ _ fit (later rest (List.suffix_refl _))
  | within replacement positive ends fitting found foundToo =>
      obtain ⟨fewer, counted⟩ := Nat.exists_eq_succ_of_ne_zero (Nat.ne_of_gt positive)
      rw [List.cons_append] at found foundToo
      rw [List.cons_append, List.cons_append, replaceAll_of_some found positive,
        replaceAll_of_some foundToo positive, ← List.cons_append, ← List.cons_append,
        List.drop_append_of_le_length ends, List.drop_append_of_le_length ends, counted]
      exact related_append behind fitting (later (rest.drop fewer) (List.drop_suffix _ _))
  | beyond written length lengthToo positive positiveToo found foundToo remains =>
      rw [List.cons_append] at found foundToo
      rw [List.cons_append, List.cons_append] at remains
      rw [List.cons_append, List.cons_append, replaceAll_of_some found positive,
        replaceAll_of_some foundToo positiveToo]
      dsimp only
      rw [remains]
      exact same _

/-- Scans of two texts with one front stay related when those of their tails are and nothing in
the front tells the texts apart. -/
theorem replaceAll_related (front : List Char) (fitting : ∀ character ∈ front, fits character)
    (meets : ∀ head, head <:+ front → head ≠ [] → Meets find? fits head left right)
    (tails : related (replaceAll find? 0 left) (replaceAll find? 0 right)) :
    related (replaceAll find? 0 (front ++ left)) (replaceAll find? 0 (front ++ right)) := by
  -- a replacement may pass over a part of the front, so every later part is needed
  suffices every : ∀ later, later <:+ front →
      related (replaceAll find? 0 (later ++ left)) (replaceAll find? 0 (later ++ right)) from
    every front (List.suffix_refl _)
  induction front with
  | nil =>
      intro later ends
      rw [List.suffix_nil.mp ends]
      exact tails
  | cons character rest inductionHypothesis =>
      have shorter := inductionHypothesis (fun other member => fitting other (.tail _ member))
        fun head ends => meets head (ends.trans (List.suffix_cons _ _))
      intro later ends
      rcases List.suffix_cons_iff.mp ends with rfl | inside
      · exact replaceAll_related_step same behind (fitting character (.head _))
          (meets _ (List.suffix_refl _) (List.cons_ne_nil _ _)) shorter
      · exact shorter later inside

end Relating

/-! ### Secrets behind names -/

def IsSign (character : Char) : Prop :=
  character = ':' ∨ character = '='

instance : DecidablePred IsSign :=
  fun character => inferInstanceAs (Decidable (character = ':' ∨ character = '='))

structure IsBarrier (character : Char) : Prop where
  unnamed : ∀ name ∈ secretNames, ∀ letter ∈ name, matchesLetter letter character = false
  unblank : isBlank character = false
  unsigned : ¬ IsSign character

section Secrets

theorem ne_of_all {stop : Char} {text : List Char} (all : (text.all (· != stop)) = true) :
    ∀ character ∈ text, character ≠ stop :=
  fun character member => bne_iff_ne.mp (List.all_eq_true.mp all character member)

theorem unnamed_of_all {character : Char}
    (all : (secretNames.all fun name => name.all fun letter =>
      !matchesLetter letter character) = true) :
    ∀ name ∈ secretNames, ∀ letter ∈ name, matchesLetter letter character = false := by
  intro name known letter member
  have differs := List.all_eq_true.mp (List.all_eq_true.mp all name known) letter member
  simpa using differs

theorem IsSign.unnamed {character : Char} (signed : IsSign character) {name : List Char}
    (known : name ∈ secretNames) : ∀ letter ∈ name, matchesLetter letter character = false := by
  rcases signed with rfl | rfl
  · exact unnamed_of_all (by decide) name known
  · exact unnamed_of_all (by decide) name known

theorem IsSign.unblank {character : Char} (signed : IsSign character) :
    isBlank character = false := by
  rcases signed with rfl | rfl
  · decide
  · decide

theorem ne_nil_of_known {name : List Char} (known : name ∈ secretNames) : name ≠ [] := by
  have filled : ∀ name ∈ secretNames, name ≠ [] := by decide
  exact filled name known

theorem secret?_none_iff {text : List Char} :
    secret? text = none ↔ ∀ name ∈ secretNames, ∀ rest, afterName? name text = some rest →
      afterValue? rest = none := by
  rw [secret?, List.findSome?_eq_none_iff]
  refine forall_congr' fun name => imp_congr_right fun _ => ?_
  unfold namedSecret?
  cases afterName? name text with
  | none => simp
  | some rest => simp

theorem secret?_eq_some {text : List Char} {replacement : Replacement}
    (found : secret? text = some replacement) :
    ∃ name ∈ secretNames, ∃ later after, afterName? name text = some later ∧
      afterValue? later = some after ∧
      replacement = ⟨text.take name.length ++ '=' :: mask, text.length - after.length⟩ := by
  obtain ⟨name, known, foundNamed⟩ := List.exists_of_findSome?_eq_some found
  unfold namedSecret? at foundNamed
  split at foundNamed
  · cases foundNamed
  · rename_i later named
    obtain ⟨after, ends, same⟩ := Option.map_eq_some_iff.mp foundNamed
    exact ⟨name, known, later, after, named, ends, same.symm⟩

theorem afterValue?_blank {character : Char} (blank : isBlank character = true)
    (rest : List Char) : afterValue? (character :: rest) = afterValue? rest := by
  rw [afterValue?, afterValue?, List.dropWhile_cons, if_pos blank]

theorem afterValue?_unsigned {character : Char} (unblank : isBlank character = false)
    (unsigned : ¬ IsSign character) (rest : List Char) :
    afterValue? (character :: rest) = none := by
  have other : (character == ':' || character == '=') = false := by
    simpa only [IsSign, Bool.or_eq_false_iff, beq_eq_false_iff_ne, not_or] using unsigned
  rw [afterValue?, List.dropWhile_cons, if_neg (by rw [unblank]; exact Bool.false_ne_true)]
  dsimp only
  rw [if_neg (by rw [other]; exact Bool.false_ne_true)]

private theorem afterValue?_none_of_unsigned {front : List Char} {barrier : Char}
    (stops : IsBarrier barrier) (unsigned : ∀ character ∈ front, ¬ IsSign character)
    (rest : List Char) : afterValue? (front ++ barrier :: rest) = none := by
  induction front with
  | nil => exact afterValue?_unsigned stops.unblank stops.unsigned rest
  | cons character front inductionHypothesis =>
      cases blank : isBlank character with
      | true =>
          rw [List.cons_append, afterValue?_blank blank]
          exact inductionHypothesis fun other member => unsigned other (.tail _ member)
      | false => exact afterValue?_unsigned blank (unsigned character (.head _)) _

theorem afterName?_eq_some {name text rest : List Char} (found : afterName? name text = some rest) :
    ∃ passed, passed.length = name.length ∧ text = passed ++ rest := by
  induction name generalizing text with
  | nil => exact ⟨[], rfl, Option.some.inj found⟩
  | cons letter name inductionHypothesis =>
      cases text with
      | nil => cases found
      | cons character text =>
          rw [afterName?] at found
          by_cases fits : matchesLetter letter character = true
          · rw [if_pos fits] at found
            obtain ⟨passed, long, rfl⟩ := inductionHypothesis found
            exact ⟨character :: passed, congrArg Nat.succ long, rfl⟩
          · rw [if_neg fits] at found
            cases found

theorem afterName?_before {name : List Char} {barrier : Char}
    (unnamed : ∀ letter ∈ name, matchesLetter letter barrier = false) (front tail : List Char) :
    afterName? name (front ++ barrier :: tail) =
      (afterName? name front).map (· ++ barrier :: tail) := by
  induction name generalizing front with
  | nil => rfl
  | cons letter name inductionHypothesis =>
      obtain ⟨first, others⟩ := List.forall_mem_cons.mp unnamed
      cases front with
      | nil =>
          have unfit : ¬ matchesLetter letter barrier = true := by
            rw [first]
            exact Bool.false_ne_true
          exact if_neg unfit
      | cons character front =>
          rw [List.cons_append, afterName?, afterName?]
          split
          · exact inductionHypothesis others front
          · rfl

theorem secret?_none_of_unsigned {front : List Char} {barrier : Char}
    (stops : IsBarrier barrier) (unsigned : ∀ character ∈ front, ¬ IsSign character)
    (rest : List Char) : secret? (front ++ barrier :: rest) = none := by
  rw [secret?_none_iff]
  intro name known after found
  rw [afterName?_before (stops.unnamed name known), Option.map_eq_some_iff] at found
  obtain ⟨later, named, rfl⟩ := found
  obtain ⟨passed, _, rfl⟩ := afterName?_eq_some named
  exact afterValue?_none_of_unsigned stops
    (fun other member => unsigned other (List.mem_append_right passed member)) rest

theorem passes_secret_of_unsigned {front : List Char} {barrier : Char}
    (stops : IsBarrier barrier) (unsigned : ∀ character ∈ front, ¬ IsSign character) :
    Passes secret? (front ++ [barrier]) := by
  induction front with
  | nil =>
      exact (passes_nil secret?).cons fun rest =>
        secret?_none_of_unsigned stops unsigned rest
  | cons character front inductionHypothesis =>
      refine (inductionHypothesis fun other member => unsigned other (.tail _ member)).cons
        fun rest => ?_
      rw [List.append_assoc, ← List.cons_append]
      exact secret?_none_of_unsigned stops unsigned rest

end Secrets

/-! ### Passwords in addresses -/

theorem addressPassword?_none_of_ne {character : Char} (other : character ≠ ':')
    (rest : List Char) : addressPassword? (character :: rest) = none := by
  unfold addressPassword?
  split
  · rename_i opening
    exact absurd (List.cons.inj opening).1 other
  · rfl

theorem addressPassword?_none_of_unslashed {character : Char} (other : character ≠ '/')
    (rest : List Char) : addressPassword? (':' :: character :: rest) = none := by
  unfold addressPassword?
  split
  · rename_i opening
    exact absurd (List.cons.inj (List.cons.inj opening).2).1 other
  · rfl

theorem passes_address_of_uncoloned {front : List Char}
    (uncoloned : ∀ character ∈ front, character ≠ ':') : Passes addressPassword? front := by
  induction front with
  | nil => exact passes_nil _
  | cons character front inductionHypothesis =>
      exact (inductionHypothesis fun other member => uncoloned other (.tail _ member)).cons
        fun rest => addressPassword?_none_of_ne (uncoloned character (.head _)) _

theorem Passes.colon {character : Char} {front : List Char} (other : character ≠ '/')
    (passes : Passes addressPassword? (character :: front)) :
    Passes addressPassword? (':' :: character :: front) :=
  passes.cons fun rest => addressPassword?_none_of_unslashed other (front ++ rest)

end TableExport.Log
