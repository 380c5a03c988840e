import TableExport.Proofs.Log.Patterns
import TableExport.Proofs.Log.PlainPassword

/-!
Masked texts. What is left for the first search in a redacted text is the mask,
and so is what is left for the second. The first pass joins names that it wrote
with texts that it kept, and neither pass makes a secret that was not there
before; but the second writes masks behind colons, and behind a name such a mask
is read as a value, together with what follows it.
-/

set_option autoImplicit false

namespace TableExport.Log

open TableExport.Text

/-! ### Parts of a text -/

section Parts

variable {holds : List Char → Prop} {front rest : List Char}

theorem forall_suffix_cons {character : Char} (first : holds (character :: rest))
    (later : ∀ part, part <:+ rest → holds part) :
    ∀ part, part <:+ character :: rest → holds part := by
  intro part ends
  rcases List.suffix_cons_iff.mp ends with rfl | inside
  · exact first
  · exact later part inside

theorem forall_suffix_append
    (within : ∀ head, head <:+ front → head ≠ [] → holds (head ++ rest))
    (later : ∀ part, part <:+ rest → holds part) :
    ∀ part, part <:+ front ++ rest → holds part := by
  induction front with
  | nil => exact later
  | cons character front inductionHypothesis =>
      exact forall_suffix_cons (within _ (List.suffix_refl _) (List.cons_ne_nil _ _))
        (inductionHypothesis fun head ends => within head (ends.trans (List.suffix_cons _ _)))

end Parts

theorem isSecretCharacter_mask : ∀ character ∈ mask, isSecretCharacter character = true :=
  List.all_eq_true.mp (by decide)

/-! ### The first pass -/

/-- What is left of a name, then a sign, the mask and the end of a value: a secret as it is
written in the first pass. -/
inductive WrittenAt : List Char → Prop
  | sign {rest : List Char} (closes : ClosesValue rest) : WrittenAt ('=' :: (mask ++ rest))
  | letter {character : Char} {text : List Char} (spelled : IsSpelled character)
      (behind : WrittenAt text) : WrittenAt (character :: text)

section First

variable {text scanned value : List Char}

private theorem writtenAt_append {name rest : List Char}
    (spelled : ∀ character ∈ name, IsSpelled character) (closes : ClosesValue rest) :
    WrittenAt (name ++ '=' :: (mask ++ rest)) := by
  induction name with
  | nil => exact .sign closes
  | cons character name inductionHypothesis =>
      obtain ⟨first, others⟩ := List.forall_mem_cons.mp spelled
      exact .letter first (inductionHypothesis others)

theorem takeWhile_closed {rest : List Char} (closes : ClosesValue rest) :
    rest.takeWhile isSecretCharacter = [] := by
  cases rest with
  | nil => rfl
  | cons character rest =>
      rw [List.takeWhile_cons, if_neg (ne_true_of_eq_false (closes character rfl))]

private theorem ValueAt.behind_mask {rest : List Char} (read : ValueAt (mask ++ rest) value) :
    value = mask ++ rest.takeWhile isSecretCharacter := by
  cases read with
  | blank blank _ => exact absurd blank (by decide)
  | value _ => exact List.takeWhile_append_of_pos isSecretCharacter_mask

/-- Whatever part of a name stands in front of it, the mask is the whole value. -/
theorem WrittenAt.value_eq {name : List Char} (written : WrittenAt text)
    (unnamed : ∀ letter ∈ name, matchesLetter letter '=' = false)
    (read : NamedAt name text value) : value = mask := by
  induction written generalizing name with
  | sign closes =>
      cases read with
      | sign behind =>
          cases behind with
          | blank blank _ => exact absurd blank (by decide)
          | sign _ behind => rw [behind.behind_mask, takeWhile_closed closes, List.append_nil]
      | letter fits _ => exact absurd fits (ne_true_of_eq_false (unnamed _ (.head _)))
  | letter spelled _ inductionHypothesis =>
      cases read with
      | sign behind =>
          cases behind with
          | blank blank _ => exact absurd blank (ne_true_of_eq_false spelled.unblank)
          | sign signed _ => exact absurd signed spelled.unsigned
      | letter _ behind =>
          exact inductionHypothesis (fun letter member => unnamed letter (.tail _ member)) behind

theorem Scan.head?_eq (scan : Scan secret? text scanned) : scanned.head? = text.head? := by
  cases scan with
  | done => rfl
  | keep => rfl
  | replace found _ _ =>
      obtain ⟨_, _, _, _, rfl, written⟩ := (secret?_span found).1.begins
      rw [written]
      rfl

private theorem ValueAt.of_scan (scan : Scan secret? text scanned) (read : ValueAt scanned value) :
    ∃ other, ValueAt text other := by
  -- the first character is kept, so only blanks have to be passed
  induction scan with
  | done => cases read
  | keep _ _ inductionHypothesis =>
      cases read with
      | blank blank behind =>
          obtain ⟨other, readToo⟩ := inductionHypothesis behind
          exact ⟨other, .blank blank readToo⟩
      | value secret => exact ⟨_, .value secret⟩
  | replace found _ _ _ =>
      obtain ⟨_, _, _, spelled, rfl, written⟩ := (secret?_span found).1.begins
      rw [written] at read
      cases read with
      | blank blank _ => exact absurd blank (ne_true_of_eq_false spelled.unblank)
      | value secret => exact ⟨_, .value secret⟩

private theorem SignAt.of_scan (scan : Scan secret? text scanned) (read : SignAt scanned value) :
    ∃ other, SignAt text other := by
  induction scan with
  | done => cases read
  | keep _ later inductionHypothesis =>
      cases read with
      | blank blank behind =>
          obtain ⟨other, readToo⟩ := inductionHypothesis behind
          exact ⟨other, .blank blank readToo⟩
      | sign signed behind =>
          obtain ⟨other, readToo⟩ := behind.of_scan later
          exact ⟨other, .sign signed readToo⟩
  | replace found _ _ _ =>
      obtain ⟨_, _, _, spelled, rfl, written⟩ := (secret?_span found).1.begins
      rw [written] at read
      cases read with
      | blank blank _ => exact absurd blank (ne_true_of_eq_false spelled.unblank)
      | sign signed _ => exact absurd signed spelled.unsigned

/-- In place of a secret its name is written, a sign and the mask, and no value goes on behind. -/
theorem SecretSpan.replaced {written rest : List Char} (span : SecretSpan text written rest) :
    ∃ name, (∀ character ∈ name, IsSpelled character) ∧ ClosesValue rest ∧
      ∀ behind, written ++ behind = name ++ '=' :: (mask ++ behind) := by
  cases span with
  | @span name _ _ _ _ _ _ spelled _ _ _ _ _ closes =>
      refine ⟨name, spelled, closes, fun behind => ?_⟩
      rw [List.append_assoc, List.cons_append]

theorem Scan.closes (scan : Scan secret? text scanned) (closes : ClosesValue text) :
    ClosesValue scanned := by
  intro character first
  rw [scan.head?_eq] at first
  exact closes character first

/-- What remains of a name is read in the text as well, or it reaches into a name behind which
the mask was written. -/
theorem NamedAt.of_scan {name whole : List Char} (known : whole ∈ secretNames)
    (ends : name <:+ whole) (scan : Scan secret? text scanned)
    (read : NamedAt name scanned value) : WrittenAt scanned ∨ ∃ other, NamedAt name text other := by
  induction scan generalizing name with
  | done =>
      cases read with
      | sign behind => cases behind
  | keep missing later inductionHypothesis =>
      cases read with
      | sign behind =>
          obtain ⟨other, readToo⟩ := behind.of_scan (.keep missing later)
          exact .inr ⟨other, .sign readToo⟩
      | letter fits behind =>
          have spelled : IsSpelled _ := ⟨whole, known, _, ends.mem (.head _), fits⟩
          refine (inductionHypothesis ((List.suffix_cons _ _).trans ends) behind).imp
            (.letter spelled) ?_
          rintro ⟨other, readToo⟩
          exact ⟨other, .letter fits readToo⟩
  | replace found remains later _ =>
      obtain ⟨_, spelled, closes, written⟩ := (secret?_span found).1.replaced
      rw [remains] at closes
      rw [written]
      exact .inl (writtenAt_append spelled (later.closes closes))

private theorem isBarrier_star : IsBarrier '*' :=
  ⟨unnamed_of_all (by decide), by decide, by decide⟩

private theorem mask_unsigned : ∀ character ∈ mask, ¬ IsSign character := by
  intro character member signed
  rcases signed with rfl | rfl
  · exact ne_of_all (by decide) ':' member rfl
  · exact ne_of_all (by decide) '=' member rfl

section Parts

variable {holds : List Char → Prop} {name rest : List Char}
  (unread : ∀ part, (∀ value, ¬ SecretAt part value) → holds part)
  (later : ∀ part, part <:+ rest → holds part)
include unread later

/-- Nothing is read from any place in front of a barrier, when there is no sign before it. -/
theorem forall_suffix_barrier {front : List Char} {barrier : Char} (stops : IsBarrier barrier)
    (unsigned : ∀ character ∈ front, ¬ IsSign character) :
    ∀ part, part <:+ front ++ barrier :: rest → holds part := by
  have before {front : List Char} (unsigned : ∀ character ∈ front, ¬ IsSign character) :
      holds (front ++ barrier :: rest) :=
    unread _ (secret?_eq_none_iff.mp (secret?_none_of_unsigned stops unsigned rest))
  exact forall_suffix_append
    (fun _ ends _ => before fun character member => unsigned character (ends.mem member))
    (forall_suffix_cons (before (List.forall_mem_nil _)) later)

/-- What is written in place of a secret is read as such from any place in its name, and from no
place in the mask. -/
theorem forall_suffix_written (written : ∀ part, WrittenAt part → holds part)
    (spelled : ∀ character ∈ name, IsSpelled character) (closes : ClosesValue rest) :
    ∀ part, part <:+ name ++ '=' :: (mask ++ rest) → holds part := by
  have masked : ∀ part, part <:+ mask.dropLast ++ '*' :: rest → holds part :=
    forall_suffix_barrier unread later isBarrier_star
      fun character member => mask_unsigned character (List.mem_of_mem_dropLast member)
  refine forall_suffix_append (fun head ends _ => written _ (writtenAt_append ?_ closes))
    (forall_suffix_cons (written _ (.sign closes)) masked)
  exact fun character member => spelled character (ends.mem member)

end Parts

/-- Wherever a secret is read in what the first pass makes of a text, it was written there. -/
theorem writtenAt_scanned (scan : Scan secret? text scanned) :
    ∀ part, part <:+ scanned → ∀ value, SecretAt part value → WrittenAt part := by
  induction scan with
  | done =>
      rintro part ends value ⟨name, known, named⟩
      rw [List.suffix_nil.mp ends] at named
      cases named with
      | sign behind => cases behind
  | keep missing later inductionHypothesis =>
      refine forall_suffix_cons ?_ inductionHypothesis
      rintro value ⟨name, known, named⟩
      cases named with
      | sign => exact absurd rfl (ne_nil_of_known known)
      | letter fits behind =>
          rcases behind.of_scan known (List.suffix_cons _ _) later with written | ⟨other, readToo⟩
          · exact .letter ⟨_, known, _, .head _, fits⟩ written
          · -- the same name would have been found where the character was kept
            exact absurd ⟨_, known, .letter fits readToo⟩
              (secret?_eq_none_iff.mp missing other)
  | replace found remains later inductionHypothesis =>
      obtain ⟨_, spelled, closes, written⟩ := (secret?_span found).1.replaced
      rw [remains] at closes
      rw [written]
      exact forall_suffix_written (fun _ unread value read => absurd read (unread value))
        inductionHypothesis (fun _ written _ _ => written) spelled (later.closes closes)

end First

/-! ### The second pass -/

/-- Texts that differ only in what stands between a colon and a sign in front of a host, and has
become the mask. -/
inductive Hides : List Char → List Char → Prop
  | done : Hides [] []
  | keep (character : Char) {rest hidden : List Char} (later : Hides rest hidden) :
      Hides (character :: rest) (character :: hidden)
  | hide {password rest hidden : List Char} (filled : password ≠ [])
      (signless : ∀ character ∈ password, (character != '@') = true) (later : Hides rest hidden) :
      Hides (':' :: (password ++ '@' :: rest)) (':' :: (mask ++ '@' :: hidden))

section Second

variable {text hidden value : List Char}

theorem Hides.append (front : List Char) (hides : Hides text hidden) :
    Hides (front ++ text) (front ++ hidden) := by
  induction front with
  | nil => exact hides
  | cons character front inductionHypothesis => exact .keep character inductionHypothesis

theorem hides_of_scan {scanned : List Char} (scan : Scan addressPassword? text scanned) :
    Hides text scanned := by
  induction scan with
  | done => exact .done
  | keep _ _ inductionHypothesis => exact .keep _ inductionHypothesis
  | replace found remains _ inductionHypothesis =>
      obtain ⟨user, password, rest, ⟨_, _, filled, signless⟩, rfl, _, left, written⟩ :=
        addressPassword?_eq_some found
      obtain rfl := left.symm.trans remains
      rw [written]
      exact (Hides.hide filled signless inductionHypothesis).append (':' :: '/' :: '/' :: user)

theorem Hides.front {front rest : List Char} (uncoloned : ∀ character ∈ front, character ≠ ':')
    (hides : Hides (front ++ rest) hidden) :
    ∃ later, hidden = front ++ later ∧ Hides rest later := by
  induction front generalizing hidden with
  | nil => exact ⟨hidden, rfl, hides⟩
  | cons character front inductionHypothesis =>
      obtain ⟨first, others⟩ := List.forall_mem_cons.mp uncoloned
      generalize same : character :: front ++ rest = text at hides
      cases hides with
      | done => cases same
      | keep _ kept =>
          obtain ⟨rfl, rfl⟩ := List.cons.inj same
          obtain ⟨later, rfl, behind⟩ := inductionHypothesis others kept
          exact ⟨later, rfl, behind⟩
      | hide => exact absurd (List.cons.inj same).1 first

private theorem Hides.head?_eq (hides : Hides text hidden) : hidden.head? = text.head? := by
  cases hides with
  | done => rfl
  | keep => rfl
  | hide => rfl

private theorem WrittenAt.of_hides (written : WrittenAt text) (hides : Hides text hidden) :
    WrittenAt hidden := by
  induction written generalizing hidden with
  | @sign rest closes =>
      have uncoloned : ∀ character ∈ '=' :: mask, character ≠ ':' := ne_of_all (by decide)
      obtain ⟨later, rfl, kept⟩ := Hides.front uncoloned hides
      refine .sign fun character first => closes character ?_
      rwa [kept.head?_eq] at first
  | letter spelled _ inductionHypothesis =>
      cases hides with
      | keep _ later => exact .letter spelled (inductionHypothesis later)
      | hide => exact absurd (.inl rfl) spelled.unsigned

/-- What is left of a name, perhaps with blanks, in front of a masked password. -/
def BeforeMask (text : List Char) : Prop :=
  ∃ front rest, text = front ++ ':' :: (mask ++ '@' :: rest) ∧
    ∀ character ∈ front, IsSpelled character ∨ isBlank character = true

theorem BeforeMask.cons {character : Char} (fits : IsSpelled character ∨ isBlank character = true)
    (before : BeforeMask text) : BeforeMask (character :: text) := by
  obtain ⟨front, rest, rfl, fitting⟩ := before
  exact ⟨character :: front, rest, rfl, List.forall_mem_cons.mpr ⟨fits, fitting⟩⟩

private theorem ValueAt.of_hides (hides : Hides text hidden) (read : ValueAt hidden value) :
    ∃ other, ValueAt text other := by
  induction hides with
  | done => cases read
  | keep character later inductionHypothesis =>
      cases read with
      | blank blank behind =>
          obtain ⟨other, readToo⟩ := inductionHypothesis behind
          exact ⟨other, .blank blank readToo⟩
      | value secret => exact ⟨_, .value secret⟩
  | hide =>
      cases read with
      | blank blank _ => exact absurd blank (by decide)
      | value secret => exact ⟨_, .value secret⟩

/-- A value is read in the text as well, or the colon in front of a mask was its sign. -/
theorem SignAt.of_hides (hides : Hides text hidden) (read : SignAt hidden value) :
    BeforeMask hidden ∨ ∃ other, SignAt text other := by
  induction hides with
  | done => cases read
  | keep character later inductionHypothesis =>
      cases read with
      | blank blank behind =>
          refine (inductionHypothesis behind).imp (.cons (.inr blank)) ?_
          rintro ⟨other, readToo⟩
          exact ⟨other, .blank blank readToo⟩
      | sign signed behind =>
          obtain ⟨other, readToo⟩ := behind.of_hides later
          exact .inr ⟨other, .sign signed readToo⟩
  | hide => exact .inl ⟨[], _, rfl, List.forall_mem_nil _⟩

private theorem NamedAt.of_hides {name whole : List Char} (known : whole ∈ secretNames)
    (ends : name <:+ whole) (hides : Hides text hidden) (read : NamedAt name hidden value) :
    BeforeMask hidden ∨ ∃ other, NamedAt name text other := by
  induction name generalizing text hidden with
  | nil =>
      cases read with
      | sign behind =>
          refine (behind.of_hides hides).imp_right ?_
          rintro ⟨other, readToo⟩
          exact ⟨other, .sign readToo⟩
  | cons letter name inductionHypothesis =>
      cases read with
      | letter fits behind =>
          cases hides with
          | keep _ later =>
              have spelled : IsSpelled _ := ⟨whole, known, letter, ends.mem (.head _), fits⟩
              refine (inductionHypothesis ((List.suffix_cons _ _).trans ends) later behind).imp
                (.cons (.inl spelled)) ?_
              rintro ⟨other, readToo⟩
              exact ⟨other, .letter fits readToo⟩
          | hide => exact .inl ⟨[], _, rfl, List.forall_mem_nil _⟩

/-- Where every secret was written the second pass brings up no other, unless it writes the mask
behind a name. -/
theorem writtenAt_hidden (hides : Hides text hidden)
    (written : ∀ part, part <:+ text → ∀ value, SecretAt part value → WrittenAt part) :
    ∀ part, part <:+ hidden → ∀ value, SecretAt part value → WrittenAt part ∨ BeforeMask part := by
  induction hides with
  | done => exact fun part ends value read => .inl (written part ends value read)
  | keep character later inductionHypothesis =>
      refine forall_suffix_cons ?_
        (inductionHypothesis fun part ends => written part (ends.trans (List.suffix_cons _ _)))
      rintro value ⟨name, known, named⟩
      have hides := Hides.keep character later
      rcases named.of_hides known (List.suffix_refl _) hides with here | ⟨other, readToo⟩
      · exact .inr here
      · exact .inl ((written _ (List.suffix_refl _) other ⟨name, known, readToo⟩).of_hides hides)
  | @hide password rest hidden _ _ _ inductionHypothesis =>
      have inside : rest <:+ ':' :: (password ++ '@' :: rest) :=
        ((List.suffix_cons _ _).trans (List.suffix_append _ _)).trans (List.suffix_cons _ _)
      have unread : ∀ value, ¬ SecretAt (':' :: (mask ++ '@' :: hidden)) value :=
        secret?_eq_none_iff.mp (secret?_none_of_head (fun _ => colon_unnamed) _)
      exact forall_suffix_cons (fun value read => absurd read (unread value))
        (forall_suffix_barrier (fun _ unread value read => absurd read (unread value))
          (inductionHypothesis fun part ends => written part (ends.trans inside)) isBarrier_at
          mask_unsigned)

private theorem SignAt.before_mask {front rest : List Char}
    (fitting : ∀ character ∈ front, IsSpelled character ∨ isBlank character = true)
    (read : SignAt (front ++ ':' :: (mask ++ '@' :: rest)) value) :
    value = mask ++ '@' :: rest.takeWhile isSecretCharacter := by
  have behind {value : List Char} (read : ValueAt (mask ++ '@' :: rest) value) :
      value = mask ++ '@' :: rest.takeWhile isSecretCharacter := by
    rw [read.behind_mask, List.takeWhile_cons, if_pos (by decide)]
  induction front with
  | nil =>
      cases read with
      | blank blank _ => exact absurd blank (by decide)
      | sign _ read => exact behind read
  | cons character front inductionHypothesis =>
      obtain ⟨first, others⟩ := List.forall_mem_cons.mp fitting
      cases read with
      | blank _ read => exact inductionHypothesis others read
      | sign signed _ =>
          rcases first with spelled | blank
          · exact absurd signed spelled.unsigned
          · exact absurd blank (ne_true_of_eq_false signed.unblank)

/-- Behind a name in front of a masked password, the mask is read with the sign of the host. -/
theorem BeforeMask.value_eq {name : List Char} (before : BeforeMask text)
    (unnamed : ∀ letter ∈ name, matchesLetter letter ':' = false)
    (read : NamedAt name text value) : ∃ rest, value = mask ++ '@' :: rest := by
  obtain ⟨front, rest, rfl, fitting⟩ := before
  induction front generalizing name with
  | nil =>
      cases read with
      | sign read => exact ⟨_, SignAt.before_mask fitting read⟩
      | letter fits _ => exact absurd fits (ne_true_of_eq_false (unnamed _ (.head _)))
  | cons character front inductionHypothesis =>
      cases read with
      | sign read => exact ⟨_, SignAt.before_mask fitting read⟩
      | letter _ read =>
          exact inductionHypothesis (fun letter member => unnamed letter (.tail _ member))
            (List.forall_mem_cons.mp fitting).2 read

end Second

/-! ### Passwords -/

/-- The password of an address at the start of a text is the mask. -/
def IsHiddenAt (text : List Char) : Prop :=
  ∀ password, PasswordAt text password → password = mask

section Passwords

variable {text hidden : List Char}

private theorem Hides.mem_at (hides : Hides text hidden) (member : '@' ∈ hidden) : '@' ∈ text := by
  induction hides with
  | done => exact member
  | keep _ _ inductionHypothesis =>
      rcases List.mem_cons.mp member with rfl | inside
      · exact .head _
      · exact .tail _ (inductionHypothesis inside)
  | hide => exact .tail _ (List.mem_append_right _ (.head _))

/-- Up to a colon the texts are the same; behind it stands the mask, or they go on as before. -/
theorem Hides.before_colon {front later : List Char}
    (uncoloned : ∀ character ∈ front, character ≠ ':')
    (hides : Hides text (front ++ ':' :: later)) :
    ∃ rest, text = front ++ ':' :: rest ∧
      (Hides rest later ∨ ∃ behind, later = mask ++ '@' :: behind) := by
  induction front generalizing text with
  | nil =>
      cases hides with
      | keep _ later => exact ⟨_, rfl, .inl later⟩
      | hide => exact ⟨_, rfl, .inr ⟨_, rfl⟩⟩
  | cons character front inductionHypothesis =>
      obtain ⟨first, others⟩ := List.forall_mem_cons.mp uncoloned
      generalize same : character :: front ++ ':' :: later = hidden at hides
      cases hides with
      | done => cases same
      | keep _ kept =>
          obtain ⟨rfl, rfl⟩ := List.cons.inj same
          obtain ⟨rest, rfl, behind⟩ := inductionHypothesis others kept
          exact ⟨rest, rfl, behind⟩
      | hide => exact absurd (List.cons.inj same).1 first

private theorem uncoloned_slashes {user : List Char}
    (plain : ∀ character ∈ user, isUserCharacter character = true) :
    ∀ character ∈ '/' :: '/' :: user, character ≠ ':' := by
  refine List.forall_mem_cons.mpr ⟨by decide, List.forall_mem_cons.mpr ⟨by decide, ?_⟩⟩
  rintro character member rfl
  exact absurd (plain ':' member) (by decide)

private theorem passwordAt_mask {user : List Char} (named : user ≠ [])
    (plain : ∀ character ∈ user, isUserCharacter character = true) (rest : List Char) :
    PasswordAt (addressFrom user mask rest) mask :=
  .address named plain (by decide) (List.all_eq_true.mp (by decide))

private theorem isHiddenAt_mask {user : List Char} (named : user ≠ [])
    (plain : ∀ character ∈ user, isUserCharacter character = true) (rest : List Char) :
    IsHiddenAt (addressFrom user mask rest) :=
  fun _ read => read.unique (passwordAt_mask named plain rest)

private theorem isHiddenAt_of_unopened {part : List Char}
    (unopened : ∀ more, part ≠ ':' :: '/' :: '/' :: more) : IsHiddenAt part := by
  intro password read
  obtain ⟨more, same⟩ := read.opens
  exact absurd same (unopened more)

theorem Hides.password {rest later password : List Char} (filled : password ≠ [])
    (signless : ∀ character ∈ password, (character != '@') = true)
    (hides : Hides rest (password ++ '@' :: later)) :
    ∃ inner behind, inner ≠ [] ∧ (∀ character ∈ inner, (character != '@') = true) ∧
      rest = inner ++ '@' :: behind := by
  have member := hides.mem_at (List.mem_append_right _ (.head _))
  rcases split_at_first (· != '@') rest with all | ⟨inner, sign, behind, rfl, before, ends⟩
  · exact absurd (all '@' member) (by decide)
  · obtain rfl : sign = '@' := by simpa using ends
    refine ⟨inner, behind, ?_, before, rfl⟩
    rintro rfl
    obtain ⟨character, password, rfl⟩ := List.exists_cons_of_ne_nil filled
    obtain rfl : character = '@' := Option.some.inj hides.head?_eq
    exact absurd (signless '@' (.head _)) (by decide)

/-- Where no password is found one is read afterwards only if it is the mask. -/
theorem isHiddenAt_kept {character : Char} (hides : Hides text hidden)
    (missing : addressPassword? (character :: text) = none) :
    IsHiddenAt (character :: hidden) := by
  intro password read
  generalize same : character :: hidden = whole at read
  cases read with
  | @address user _ rest named plain filled signless =>
      obtain ⟨rfl, rfl⟩ := List.cons.inj same
      obtain ⟨later, rfl, kept | ⟨behind, masked⟩⟩ :=
        hides.before_colon (uncoloned_slashes plain)
      · obtain ⟨inner, behind, filledToo, signlessToo, rfl⟩ := kept.password filled signless
        exact absurd (.address named plain filledToo signlessToo)
          (addressPassword?_eq_none_iff.mp missing inner)
      · refine isHiddenAt_mask named plain behind password ?_
        rw [addressFrom, ← masked]
        exact .address named plain filled signless

private theorem isHiddenAt_after {front rest : List Char}
    (uncoloned : ∀ character ∈ front, character ≠ ':')
    (later : ∀ part, part <:+ rest → IsHiddenAt part) :
    ∀ part, part <:+ front ++ rest → IsHiddenAt part := by
  refine forall_suffix_append (fun head ends filled => isHiddenAt_of_unopened fun more same => ?_)
    later
  obtain ⟨character, head, rfl⟩ := List.exists_cons_of_ne_nil filled
  exact uncoloned character (ends.mem (.head _)) (List.cons.inj same).1

/-- Wherever a password is read in what the second pass makes of a text, it is the mask. -/
theorem isHiddenAt_scanned {scanned : List Char} (scan : Scan addressPassword? text scanned) :
    ∀ part, part <:+ scanned → IsHiddenAt part := by
  induction scan with
  | done =>
      intro part ends
      rw [List.suffix_nil.mp ends]
      exact isHiddenAt_of_unopened nofun
  | keep missing later inductionHypothesis =>
      exact forall_suffix_cons (isHiddenAt_kept (hides_of_scan later) missing)
        inductionHypothesis
  | @replace _ _ scanned _ found _ _ inductionHypothesis =>
      obtain ⟨user, _, _, ⟨named, plain, _, _⟩, _, _, _, written⟩ :=
        addressPassword?_eq_some found
      rw [written]
      have behind : ∀ part, part <:+ '@' :: scanned → IsHiddenAt part :=
        forall_suffix_cons (isHiddenAt_of_unopened nofun) inductionHypothesis
      have masked : ∀ part, part <:+ ':' :: (mask ++ '@' :: scanned) → IsHiddenAt part :=
        forall_suffix_cons (isHiddenAt_of_unopened nofun)
          (isHiddenAt_after (ne_of_all (by decide)) behind)
      exact forall_suffix_cons (isHiddenAt_mask named plain scanned)
        (isHiddenAt_after (uncoloned_slashes plain) masked)

end Passwords

/-! ### Redacted texts -/

theorem scans_of_redact (text : String) :
    ∃ first, Scan secret? text.toList first ∧ Scan addressPassword? first (redact text).toList := by
  rw [redact, String.toList_ofList]
  exact ⟨_, scan_replaceAll secret?_positive _, scan_replaceAll addressPassword?_positive _⟩

/-- What is read as a secret in a redacted text was written there, or it is a password that is
masked behind the name of a secret. -/
theorem writtenAt_redacted (text : String) :
    ∀ part, part <:+ (redact text).toList → ∀ value, SecretAt part value →
      WrittenAt part ∨ BeforeMask part := by
  obtain ⟨_, first, second⟩ := scans_of_redact text
  exact writtenAt_hidden (hides_of_scan second) (writtenAt_scanned first)

theorem isHiddenAt_redacted (text : String) :
    ∀ part, part <:+ (redact text).toList → IsHiddenAt part := by
  obtain ⟨_, _, second⟩ := scans_of_redact text
  exact isHiddenAt_scanned second

theorem WrittenAt.secret_eq {text value : List Char} (written : WrittenAt text)
    (read : SecretAt text value) : value = mask := by
  obtain ⟨_, known, named⟩ := read
  exact written.value_eq (IsSign.unnamed (.inr rfl) known) named

theorem BeforeMask.secret_eq {text value : List Char} (before : BeforeMask text)
    (read : SecretAt text value) : ∃ rest, value = mask ++ '@' :: rest := by
  obtain ⟨_, known, named⟩ := read
  exact before.value_eq (colon_unnamed known) named

/-- Wherever a secret is read in a redacted text its value begins with the mask, and wherever the
password of an address is read it is the mask. -/
theorem redact_leaves_masks (text : String) (part : List Char)
    (ends : part <:+ (redact text).toList) :
    (∀ value, SecretAt part value → mask <+: value) ∧
      ∀ password, PasswordAt part password → password = mask := by
  refine ⟨fun value read => ?_, isHiddenAt_redacted text part ends⟩
  rcases writtenAt_redacted text part ends value read with written | before
  · rw [written.secret_eq read]
  · obtain ⟨rest, rfl⟩ := before.secret_eq read
    exact List.prefix_append _ _

theorem redact_leaves_masks_token_address :
    "token:***REDACTED***@h".toList <:+ (redact "db://token:,a@h").toList ∧
      SecretAt "token:***REDACTED***@h".toList "***REDACTED***@h".toList ∧
      mask <+: "***REDACTED***@h".toList ∧
      "://token:***REDACTED***@h".toList <:+ (redact "db://token:,a@h").toList ∧
      PasswordAt "://token:***REDACTED***@h".toList "***REDACTED***".toList ∧
      "***REDACTED***".toList = mask := by
  have left : redact "db://token:,a@h" = "db://token:***REDACTED***@h" := by decide
  have named : "token:***REDACTED***@h".toList <:+ (redact "db://token:,a@h").toList := by
    rw [left]
    exact ⟨"db://".toList, by decide⟩
  have secret : SecretAt "token:***REDACTED***@h".toList "***REDACTED***@h".toList :=
    ⟨"token".toList, by decide, namedAt_iff.mpr
      ⟨":***REDACTED***@h".toList, by decide, .sign (.inl rfl) (.value (by decide))⟩⟩
  have addressed : "://token:***REDACTED***@h".toList <:+ (redact "db://token:,a@h").toList := by
    rw [left]
    exact ⟨"db".toList, by decide⟩
  have password : PasswordAt (addressFrom "token".toList mask "h".toList) mask :=
    passwordAt_mask (by decide) (List.all_eq_true.mp (by decide)) _
  exact ⟨named, secret, (redact_leaves_masks _ _ named).1 _ secret, addressed, password,
    (redact_leaves_masks _ _ addressed).2 _ password⟩

end TableExport.Log
