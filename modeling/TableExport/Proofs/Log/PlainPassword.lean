import Mathlib.Data.List.Infix
import TableExport.Proofs.Log.AddressPassword
import TableExport.Proofs.Log.OpenSecrets

/-!
Plain passwords. They hold no sign in front of a host, no comma, and no name of a
secret with a sign behind it. The first pass over an address leaves them alone or
masks them with what stands around them, and the second masks what is left; so
two of them leave the same of a message.
-/

set_option autoImplicit false

namespace TableExport.Log

open TableExport.Text

/-- Whether a text begins with the name of a secret and a sign right behind it. -/
def namesSecret (text : List Char) : Bool :=
  secretNames.any fun name =>
    match afterName? name text with
    | some (sign :: _) => sign == ':' || sign == '='
    | _ => false

/-- A password that can be told from what stands around it: it holds neither blanks nor commas,
no sign in front of a host, and no name of a secret with a sign behind it. -/
structure IsPlain (password : List Char) : Prop where
  filled : password ≠ []
  secret : ∀ character ∈ password, isSecretCharacter character = true
  signless : ∀ character ∈ password, (character != '@') = true
  unnamed : ∀ part ∈ password.tails, namesSecret part = false

def isPlain (password : List Char) : Bool :=
  !password.isEmpty && password.all isSecretCharacter && password.all (· != '@') &&
    password.tails.all (!namesSecret ·)

private theorem isPlain_eq_true_iff (password : List Char) :
    isPlain password = true ↔ IsPlain password := by
  simp only [isPlain, Bool.and_eq_true, Bool.not_eq_true', List.isEmpty_eq_false_iff,
    List.all_eq_true]
  exact ⟨fun ⟨⟨⟨filled, secret⟩, signless⟩, unnamed⟩ => ⟨filled, secret, signless, unnamed⟩,
    fun plain => ⟨⟨⟨plain.filled, plain.secret⟩, plain.signless⟩, plain.unnamed⟩⟩

instance (password : List Char) : Decidable (IsPlain password) :=
  decidable_of_iff _ (isPlain_eq_true_iff password)

example : IsPlain "s3cr#t:password".toList := by decide

example : ¬ IsPlain "p@ss".toList := by decide

section Scanning

theorem isBarrier_at : IsBarrier '@' :=
  ⟨unnamed_of_all (by decide), by decide, by decide⟩

private theorem namesSecret_of_afterName? {name text rest : List Char} {sign : Char}
    (known : name ∈ secretNames) (signed : IsSign sign)
    (named : afterName? name text = some (sign :: rest)) : namesSecret text = true := by
  refine List.any_eq_true.mpr ⟨name, known, ?_⟩
  rw [named]
  rcases signed with rfl | rfl
  · rfl
  · rfl

private theorem secret?_none_of_unnamed {part : List Char}
    (secret : ∀ character ∈ part, isSecretCharacter character = true)
    (unnamed : namesSecret part = false) {barrier : Char} (stops : IsBarrier barrier)
    (rest : List Char) : secret? (part ++ barrier :: rest) = none := by
  rw [secret?_none_iff]
  intro name known after found
  rw [afterName?_before (stops.unnamed name known), Option.map_eq_some_iff] at found
  obtain ⟨later, named, rfl⟩ := found
  cases later with
  | nil => exact afterValue?_unsigned stops.unblank stops.unsigned rest
  | cons character later =>
      obtain ⟨passed, _, rfl⟩ := afterName?_eq_some named
      refine afterValue?_unsigned ?_ (fun signed => ?_) _
      · exact not_isBlank_of_isSecretCharacter
          (secret character (List.mem_append_right passed (.head _)))
      · rw [namesSecret_of_afterName? known signed named] at unnamed
        cases unnamed

theorem IsPlain.passes {password : List Char} (plain : IsPlain password) :
    Passes secret? (password ++ ['@']) := by
  have pass (part : List Char) (secret : ∀ character ∈ part, isSecretCharacter character = true)
      (unnamed : ∀ later ∈ part.tails, namesSecret later = false) :
      Passes secret? (part ++ ['@']) := by
    induction part with
    | nil =>
        refine (passes_nil secret?).cons fun rest => ?_
        exact secret?_none_of_unsigned isBarrier_at (List.forall_mem_nil _) rest
    | cons character part inductionHypothesis =>
        rw [List.tails_cons] at unnamed
        obtain ⟨first, others⟩ := List.forall_mem_cons.mp unnamed
        refine (inductionHypothesis (fun other member => secret other (.tail _ member))
          others).cons fun rest => ?_
        rw [List.append_assoc, ← List.cons_append]
        exact secret?_none_of_unnamed secret first isBarrier_at rest
  exact pass password plain.secret plain.unnamed

theorem secret?_none_of_head {character : Char}
    (unnamed : ∀ name ∈ secretNames, ∀ letter ∈ name, matchesLetter letter character = false)
    (rest : List Char) : secret? (character :: rest) = none := by
  rw [secret?_none_iff]
  intro name known after found
  rw [← List.nil_append (character :: rest), afterName?_before (unnamed name known)] at found
  cases letters : name with
  | nil => exact absurd letters (ne_nil_of_known known)
  | cons letter others =>
      rw [letters] at found
      cases found

theorem head?_scanned (character : Char) (rest : List Char) :
    (replaceAll secret? 0 (character :: rest)).head? = some character := by
  cases found : secret? (character :: rest) with
  | none =>
      rw [replaceAll_of_none found]
      rfl
  | some replacement =>
      obtain ⟨name, known, later, after, _, _, rfl⟩ := secret?_eq_some found
      obtain ⟨letter, others, rfl⟩ := List.exists_cons_of_ne_nil (ne_nil_of_known known)
      rw [replaceAll, found]
      rfl

end Scanning

section Hiding

variable {password passwordToo user : List Char}

/-- Texts that are the same, or the same but for the password behind a user. -/
def SameUser (password passwordToo one other : List Char) : Prop :=
  one = other ∨
    ∃ user rest, (∀ character ∈ user, isUserCharacter character = true) ∧
      one = user ++ ':' :: (password ++ '@' :: rest) ∧
      other = user ++ ':' :: (passwordToo ++ '@' :: rest)

def SameAddress (password passwordToo one other : List Char) : Prop :=
  one = other ∨
    ∃ front user rest, user ≠ [] ∧ (∀ character ∈ user, isUserCharacter character = true) ∧
      one = front ++ addressFrom user password rest ∧
      other = front ++ addressFrom user passwordToo rest

private theorem IsPlain.secretSigned (hidden : IsPlain password) :
    ∀ character ∈ password ++ ['@'], isSecretCharacter character = true :=
  List.forall_mem_append.mpr ⟨hidden.secret, List.all_eq_true.mp (by decide)⟩

theorem IsPlain.scanned (hidden : IsPlain password) (rest : List Char) :
    replaceAll secret? 0 (':' :: (password ++ '@' :: rest)) =
      ':' :: (password ++ '@' :: replaceAll secret? 0 rest) := by
  have passes := hidden.passes rest
  rw [List.append_assoc, List.append_assoc] at passes
  rw [replaceAll_of_none (secret?_none_of_head (fun _ => colon_unnamed) _)]
  exact congrArg _ passes

variable (hidden : IsPlain password) (hiddenToo : IsPlain passwordToo)
include hidden hiddenToo

private theorem sameUser_scanned (plain : ∀ character ∈ user, isUserCharacter character = true)
    (rest : List Char) :
    SameUser password passwordToo
      (replaceAll secret? 0 (user ++ ':' :: (password ++ '@' :: rest)))
      (replaceAll secret? 0 (user ++ ':' :: (passwordToo ++ '@' :: rest))) := by
  refine replaceAll_related (fun text => .inl rfl) ?_ user plain (fun head ends _ => ?_) ?_
  · rintro character one other fit (rfl | ⟨user, rest, plain, rfl, rfl⟩)
    · exact .inl rfl
    · exact .inr ⟨character :: user, rest, List.forall_mem_cons.mpr ⟨fit, plain⟩, rfl, rfl⟩
  · rw [List.append_cons password, List.append_cons passwordToo]
    exact meets_secret (List.all_eq_true.mp (by decide))
      (fun character member => plain character (ends.mem member))
      (List.append_ne_nil_of_left_ne_nil hidden.filled _)
      (List.append_ne_nil_of_left_ne_nil hiddenToo.filled _) hidden.secretSigned
      hiddenToo.secretSigned rest
  · rw [hidden.scanned, hiddenToo.scanned]
    exact .inr ⟨[], _, List.forall_mem_nil _, rfl, rfl⟩

/-- What the first pass leaves of an address is the same, but for a password behind a user that
is still there. -/
theorem sameAddress_scanned (named : user ≠ [])
    (plain : ∀ character ∈ user, isUserCharacter character = true) (rest : List Char) :
    SameAddress password passwordToo
      (replaceAll secret? 0 (addressFrom user password rest))
      (replaceAll secret? 0 (addressFrom user passwordToo rest)) := by
  have slash : ∀ name ∈ secretNames, ∀ letter ∈ name, matchesLetter letter '/' = false :=
    unnamed_of_all (by decide)
  have opened (tail : List Char) : replaceAll secret? 0 (':' :: '/' :: '/' :: tail) =
      ':' :: '/' :: '/' :: replaceAll secret? 0 tail := by
    rw [replaceAll_of_none (secret?_none_of_head (fun _ => colon_unnamed) _),
      replaceAll_of_none (secret?_none_of_head slash _),
      replaceAll_of_none (secret?_none_of_head slash _)]
  rw [addressFrom, addressFrom, opened, opened]
  rcases sameUser_scanned hidden hiddenToo plain rest with
    same | ⟨left, behind, plainLeft, one, other⟩
  · exact .inl (by rw [same])
  · refine .inr ⟨[], left, behind, ?_, plainLeft, by rw [one]; rfl, by rw [other]; rfl⟩
    -- the first character of a user stays, and it is not the colon
    rintro rfl
    obtain ⟨first, others, rfl⟩ := List.exists_cons_of_ne_nil named
    have stays := head?_scanned first (others ++ ':' :: (password ++ '@' :: rest))
    rw [← List.cons_append, one] at stays
    have belongs := plain first (.head _)
    rw [← Option.some.inj stays] at belongs
    exact absurd belongs (by decide)

/-- What stands in front of an address hides its password or leaves it alone. -/
theorem sameAddress_around (named : user ≠ [])
    (plain : ∀ character ∈ user, isUserCharacter character = true) {before : List Char}
    (shut : (∀ character ∈ user, isSecretCharacter character = true) ∨ ¬ LeavesOpen before)
    (rest : List Char) :
    SameAddress password passwordToo
      (replaceAll secret? 0 (before ++ addressFrom user password rest))
      (replaceAll secret? 0 (before ++ addressFrom user passwordToo rest)) := by
  have through {password : List Char} (hidden : IsPlain password)
      (secret : ∀ character ∈ user, isSecretCharacter character = true) :
      ∀ character ∈ '/' :: '/' :: (user ++ ':' :: (password ++ ['@'])),
        isSecretCharacter character = true := by
    refine List.forall_mem_cons.mpr ⟨by decide, List.forall_mem_cons.mpr ⟨by decide, ?_⟩⟩
    exact List.forall_mem_append.mpr
      ⟨secret, List.forall_mem_cons.mpr ⟨by decide, hidden.secretSigned⟩⟩
  have joined (password : List Char) : addressFrom user password rest =
      ':' :: ('/' :: '/' :: (user ++ ':' :: (password ++ ['@'])) ++ rest) := by
    simp only [addressFrom, List.cons_append, List.append_assoc, List.nil_append]
  refine replaceAll_related (fun text => .inl rfl) ?_ before (fun _ _ => trivial)
    (fun head ends _ => ?_) (sameAddress_scanned hidden hiddenToo named plain rest)
  · rintro character one other _ (rfl | ⟨front, user, rest, named, plain, rfl, rfl⟩)
    · exact .inl rfl
    · exact .inr ⟨character :: front, user, rest, named, plain, rfl, rfl⟩
  · rcases shut with secret | shut
    · -- a secret in front that is left open goes on to the sign in front of the host
      rw [joined, joined]
      exact meets_secret (fun _ _ => trivial) (fun _ _ => trivial) (List.cons_ne_nil _ _)
        (List.cons_ne_nil _ _) (through hidden secret) (through hiddenToo secret) rest
    · exact meets_secret_of_closed (fun _ _ => trivial) (fun _ _ => trivial) ends shut _ _

private theorem scanned_of_sameAddress {one other : List Char}
    (same : SameAddress password passwordToo one other) :
    replaceAll addressPassword? 0 one = replaceAll addressPassword? 0 other := by
  rcases same with rfl | ⟨front, user, rest, named, plain, rfl, rfl⟩
  · rfl
  refine replaceAll_related (fun text => rfl) ?_ front (fun _ _ => trivial)
    (fun head _ filled => meets_address hidden.signless hiddenToo.signless filled plain rest) ?_
  · rintro character one other _ rfl
    rfl
  · rw [scanned_addressFrom named plain hidden.filled hidden.signless,
      scanned_addressFrom named plain hiddenToo.filled hiddenToo.signless]

theorem redactCharacters_around (named : user ≠ [])
    (plain : ∀ character ∈ user, isUserCharacter character = true) {before : List Char}
    (shut : (∀ character ∈ user, isSecretCharacter character = true) ∨ ¬ LeavesOpen before)
    (rest : List Char) :
    redactCharacters (before ++ addressFrom user password rest) =
      redactCharacters (before ++ addressFrom user passwordToo rest) :=
  scanned_of_sameAddress hidden hiddenToo
    (sameAddress_around hidden hiddenToo named plain shut rest)

end Hiding

end TableExport.Log
