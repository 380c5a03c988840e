import TableExport.Proofs.Log.Scanning

/-!
Secrets in front of a colon. What is found from some place on does not depend on
what stands behind the colon: there is nothing, or there is a secret that ends in
front of the colon, or there is one that is left open there and goes on to the
next blank or comma.
-/

set_option autoImplicit false

namespace TableExport.Log

open TableExport.Text

/-! ### Values -/

def afterSign? (text : List Char) : Option (List Char) :=
  let value := text.dropWhile isBlank
  let after := value.dropWhile isSecretCharacter
  if after.length < value.length then some after else none

theorem afterValue?_sign {sign : Char} (signed : IsSign sign) (text : List Char) :
    afterValue? (sign :: text) = afterSign? text := by
  rcases signed with rfl | rfl
  · rfl
  · rfl

theorem not_isBlank_of_isSecretCharacter {character : Char}
    (secret : isSecretCharacter character = true) : isBlank character = false := by
  rw [isSecretCharacter, Bool.and_eq_true, Bool.not_eq_true'] at secret
  exact secret.1

theorem afterSign?_blank {character : Char} (blank : isBlank character = true)
    (rest : List Char) : afterSign? (character :: rest) = afterSign? rest := by
  rw [afterSign?, afterSign?, List.dropWhile_cons, if_pos blank]

theorem afterSign?_secret {character : Char} (secret : isSecretCharacter character = true)
    (rest : List Char) :
    afterSign? (character :: rest) = some (rest.dropWhile isSecretCharacter) := by
  have unblank : ¬ isBlank character = true := by
    rw [not_isBlank_of_isSecretCharacter secret]
    exact Bool.false_ne_true
  have shorter : (rest.dropWhile isSecretCharacter).length < (character :: rest).length :=
    Nat.lt_succ_of_le (List.dropWhile_suffix _).length_le
  simp only [afterSign?, List.dropWhile_cons, if_neg unblank, if_pos secret, if_pos shorter]

theorem afterSign?_other {character : Char} (unblank : ¬ isBlank character = true)
    (other : ¬ isSecretCharacter character = true) (rest : List Char) :
    afterSign? (character :: rest) = none := by
  simp only [afterSign?, List.dropWhile_cons, if_neg unblank, if_neg other, Nat.lt_irrefl, if_false]

inductive ValueEnds (after? : List Char → Option (List Char)) (front : List Char) : Prop
  | nowhere (missing : ∀ tail, after? (front ++ ':' :: tail) = none)
  | inside (rest : List Char) (shorter : rest.length < front.length)
      (found : ∀ tail, after? (front ++ ':' :: tail) = some (rest ++ ':' :: tail))
  | behind (found : ∀ value stop, value ≠ [] →
      (∀ character ∈ value, isSecretCharacter character = true) →
      after? (front ++ ':' :: (value ++ stop)) = some (stop.dropWhile isSecretCharacter))

section Ending

variable {after? : List Char → Option (List Char)} {front : List Char}

theorem ValueEnds.cons {other? : List Char → Option (List Char)} {character : Char}
    (ends : ValueEnds after? front)
    (passes : ∀ rest, other? (character :: rest) = after? rest) :
    ValueEnds other? (character :: front) := by
  cases ends with
  | nowhere missing => exact .nowhere fun tail => (passes _).trans (missing tail)
  | inside rest shorter found =>
      exact .inside rest (Nat.lt_succ_of_lt shorter) fun tail => (passes _).trans (found tail)
  | behind found =>
      exact .behind fun value stop filled secret =>
        (passes _).trans (found value stop filled secret)

private theorem dropWhile_secret {value : List Char}
    (secret : ∀ character ∈ value, isSecretCharacter character = true) (stop : List Char) :
    (':' :: (value ++ stop)).dropWhile isSecretCharacter = stop.dropWhile isSecretCharacter := by
  have colon : isSecretCharacter ':' = true := by decide
  rw [List.dropWhile_cons, if_pos colon, List.dropWhile_append_of_pos secret]

private theorem afterSign?_ends (front : List Char) : ValueEnds afterSign? front := by
  induction front with
  | nil =>
      refine .behind fun value stop _ secret => ?_
      rw [List.nil_append, afterSign?_secret (by decide), List.dropWhile_append_of_pos secret]
  | cons character front inductionHypothesis =>
      by_cases blank : isBlank character = true
      · exact inductionHypothesis.cons (afterSign?_blank blank)
      by_cases secret : isSecretCharacter character = true
      · have found (tail : List Char) := afterSign?_secret secret (front ++ ':' :: tail)
        simp only [List.dropWhile_append] at found
        by_cases through : (front.dropWhile isSecretCharacter).isEmpty = true
        · refine .behind fun value stop _ secretToo => ?_
          rw [List.cons_append, found, if_pos through, dropWhile_secret secretToo]
        · refine .inside (front.dropWhile isSecretCharacter)
            (Nat.lt_succ_of_le (List.dropWhile_suffix _).length_le) fun tail => ?_
          rw [List.cons_append, found, if_neg through]
      · exact .nowhere fun tail => afterSign?_other blank secret _

private theorem afterValue?_ends (front : List Char) : ValueEnds afterValue? front := by
  induction front with
  | nil =>
      refine .behind fun value stop filled secret => ?_
      obtain ⟨first, rest, rfl⟩ := List.exists_cons_of_ne_nil filled
      obtain ⟨firstSecret, restSecret⟩ := List.forall_mem_cons.mp secret
      rw [List.nil_append, afterValue?_sign (.inl rfl), List.cons_append,
        afterSign?_secret firstSecret, List.dropWhile_append_of_pos restSecret]
  | cons character front inductionHypothesis =>
      cases blank : isBlank character with
      | true => exact inductionHypothesis.cons (afterValue?_blank blank)
      | false =>
          by_cases signed : IsSign character
          · exact (afterSign?_ends front).cons (afterValue?_sign signed)
          · exact .nowhere fun tail => afterValue?_unsigned blank signed _

end Ending

/-! ### Secrets -/

/-- How a search that starts in front of a colon comes out: nothing is found, or a secret that
ends in front of the colon, or one that goes on behind it as far as its value does. What is
written is a name from the front, a sign and the mask. -/
inductive Course (find? : List Char → Option Replacement) (front : List Char) : Prop
  | nothing (missing : ∀ tail, find? (front ++ ':' :: tail) = none)
  | closed (named length : Nat) (positive : 0 < length) (ends : length ≤ front.length)
      (found : ∀ tail, find? (front ++ ':' :: tail) =
        some ⟨front.take named ++ '=' :: mask, length⟩)
  | leftOpen (named : Nat)
      (found : ∀ value stop, value ≠ [] →
        (∀ character ∈ value, isSecretCharacter character = true) →
        ∃ length, 0 < length ∧
          find? (front ++ ':' :: (value ++ stop)) =
            some ⟨front.take named ++ '=' :: mask, length⟩ ∧
          (front ++ ':' :: (value ++ stop)).drop length = stop.dropWhile isSecretCharacter)

section Searching

variable {front : List Char}

theorem colon_unnamed {name : List Char} (known : name ∈ secretNames) :
    ∀ letter ∈ name, matchesLetter letter ':' = false :=
  IsSign.unnamed (.inl rfl) known

private theorem namedSecret?_of_named {name later : List Char} (known : name ∈ secretNames)
    (named : afterName? name front = some later) (tail : List Char) :
    namedSecret? name (front ++ ':' :: tail) =
      (afterValue? (later ++ ':' :: tail)).map fun after =>
        ⟨front.take name.length ++ '=' :: mask, (front ++ ':' :: tail).length - after.length⟩ := by
  obtain ⟨passed, long, rfl⟩ := afterName?_eq_some named
  have within : name.length ≤ (passed ++ later).length := by
    rw [← long, List.length_append]
    exact Nat.le_add_right _ _
  rw [namedSecret?, afterName?_before (colon_unnamed known), named,
    List.take_append_of_le_length within]
  rfl

private theorem namedSecret?_course {name : List Char} (known : name ∈ secretNames) :
    Course (namedSecret? name) front := by
  cases named : afterName? name front with
  | none =>
      refine .nothing fun tail => ?_
      rw [namedSecret?, afterName?_before (colon_unnamed known), named]
      rfl
  | some later =>
      have here := namedSecret?_of_named known named
      have shorter : later.length ≤ front.length := by
        obtain ⟨passed, _, rfl⟩ := afterName?_eq_some named
        exact (List.suffix_append _ _).length_le
      cases afterValue?_ends later with
      | nowhere missing =>
          refine .nothing fun tail => ?_
          rw [here, missing]
          rfl
      | inside rest inner found =>
          refine .closed name.length (front.length - rest.length) (by omega) (by omega)
            fun tail => ?_
          rw [here, found, Option.map_some, List.length_append, List.length_append,
            Nat.add_sub_add_right]
      | behind found =>
          refine .leftOpen name.length fun value stop filled secret => ?_
          have ends : stop.dropWhile isSecretCharacter <:+ front ++ ':' :: (value ++ stop) :=
            ((List.dropWhile_suffix _).trans (List.suffix_append value stop)).trans
              ((List.suffix_cons _ _).trans (List.suffix_append _ _))
          have fewer : (stop.dropWhile isSecretCharacter).length ≤ stop.length :=
            (List.dropWhile_suffix _).length_le
          refine ⟨_, ?_, ?_, (List.suffix_iff_eq_drop.mp ends).symm⟩
          · simp only [List.length_append, List.length_cons]
            omega
          · rw [here, found value stop filled secret, Option.map_some]

theorem Course.congr {find? other? : List Char → Option Replacement} (course : Course find? front)
    (same : ∀ tail, other? (front ++ ':' :: tail) = find? (front ++ ':' :: tail)) :
    Course other? front := by
  cases course with
  | nothing missing => exact .nothing fun tail => (same tail).trans (missing tail)
  | closed named length positive ends found =>
      exact .closed named length positive ends fun tail => (same tail).trans (found tail)
  | leftOpen named found =>
      refine .leftOpen named fun value stop filled secret => ?_
      rw [same]
      exact found value stop filled secret

private theorem course_findSome? {names : List (List Char)}
    (each : ∀ name ∈ names, Course (namedSecret? name) front) :
    Course (fun text => names.findSome? fun name => namedSecret? name text) front := by
  induction names with
  | nil => exact .nothing fun _ => rfl
  | cons name rest inductionHypothesis =>
      obtain ⟨first, others⟩ := List.forall_mem_cons.mp each
      cases first with
      | nothing missing =>
          refine (inductionHypothesis others).congr fun tail => ?_
          rw [List.findSome?_cons, missing]
      | closed named length positive ends found =>
          refine .closed named length positive ends fun tail => ?_
          rw [List.findSome?_cons, found]
      | leftOpen named found =>
          refine .leftOpen named fun value stop filled secret => ?_
          obtain ⟨length, positive, foundHere, remains⟩ := found value stop filled secret
          refine ⟨length, positive, ?_, remains⟩
          rw [List.findSome?_cons, foundHere]

theorem secret?_course (front : List Char) : Course secret? front :=
  course_findSome? fun _ known => namedSecret?_course known

end Searching

/-! ### Two texts behind a colon -/

/-- A secret begins in a text and takes the sign of an address behind it. -/
def LeavesOpen (front : List Char) : Prop :=
  ∃ head, head <:+ front ∧ ∃ replacement, secret? (head ++ "://".toList) = some replacement ∧
    head.length < replacement.length

section Meeting

variable {fits : Char → Prop} {front : List Char}

theorem fits_written (masked : ∀ character ∈ '=' :: mask, fits character)
    (fitting : ∀ character ∈ front, fits character) (named : Nat) :
    ∀ character ∈ front.take named ++ '=' :: mask, fits character := by
  intro character member
  rcases List.mem_append.mp member with inside | behind
  · exact fitting character (List.mem_of_mem_take inside)
  · exact masked character behind

/-- Values behind a colon cannot be told apart when each of them is one secret with what stands
in front of it. -/
theorem meets_secret (masked : ∀ character ∈ '=' :: mask, fits character)
    (fitting : ∀ character ∈ front, fits character) {value valueToo : List Char}
    (filled : value ≠ []) (filledToo : valueToo ≠ [])
    (secret : ∀ character ∈ value, isSecretCharacter character = true)
    (secretToo : ∀ character ∈ valueToo, isSecretCharacter character = true)
    (stop : List Char) :
    Meets secret? fits front (':' :: (value ++ stop)) (':' :: (valueToo ++ stop)) := by
  cases secret?_course front with
  | nothing missing => exact .nothing (missing _) (missing _)
  | closed named length positive ends found =>
      exact .within _ positive ends (fits_written masked fitting named) (found _) (found _)
  | leftOpen named found =>
      obtain ⟨length, positive, foundHere, remains⟩ := found value stop filled secret
      obtain ⟨lengthToo, positiveToo, foundToo, remainsToo⟩ :=
        found valueToo stop filledToo secretToo
      exact .beyond _ length lengthToo positive positiveToo foundHere foundToo
        (remains.trans remainsToo.symm)

/-- Nothing in front of an address tells what stands in it apart, unless a secret is left open
there. -/
theorem meets_secret_of_closed (masked : ∀ character ∈ '=' :: mask, fits character)
    (fitting : ∀ character ∈ front, fits character) {head : List Char} (ends : head <:+ front)
    (shut : ¬ LeavesOpen front) (left right : List Char) :
    Meets secret? fits head (':' :: left) (':' :: right) := by
  cases secret?_course head with
  | nothing missing => exact .nothing (missing _) (missing _)
  | closed named length positive before found =>
      have inside : ∀ character ∈ head, fits character :=
        fun character member => fitting character (ends.mem member)
      exact .within _ positive before (fits_written masked inside named) (found _) (found _)
  | leftOpen named found =>
      obtain ⟨length, _, foundHere, remains⟩ :=
        found "//".toList [] (by decide) (List.all_eq_true.mp (by decide))
      refine absurd ⟨head, ends, _, foundHere, ?_⟩ shut
      have all := List.drop_eq_nil_iff.mp remains
      rw [List.length_append] at all
      exact Nat.lt_of_lt_of_le (Nat.lt_add_of_pos_right (by decide)) all

end Meeting

end TableExport.Log
