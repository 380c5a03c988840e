import TableExport.Proofs.Log.AddressPassword
import TableExport.Proofs.Log.OpenSecrets

/-!
What counts as a secret. A grammar, character by character, of the secrets that
stand behind names and of the passwords in addresses, each with the characters
that are to be hidden. A search finds something exactly where the grammar has
something to read.
-/

set_option autoImplicit false

namespace TableExport.Log

open TableExport.Text

/-! ### Secrets behind names -/

inductive ValueAt : List Char → List Char → Prop
  | blank {character : Char} {rest value : List Char} (blank : isBlank character = true)
      (behind : ValueAt rest value) : ValueAt (character :: rest) value
  | value {character : Char} {rest : List Char} (secret : isSecretCharacter character = true) :
      ValueAt (character :: rest) ((character :: rest).takeWhile isSecretCharacter)

inductive SignAt : List Char → List Char → Prop
  | blank {character : Char} {rest value : List Char} (blank : isBlank character = true)
      (behind : SignAt rest value) : SignAt (character :: rest) value
  | sign {character : Char} {rest value : List Char} (signed : IsSign character)
      (behind : ValueAt rest value) : SignAt (character :: rest) value

inductive NamedAt : List Char → List Char → List Char → Prop
  | sign {text value : List Char} (behind : SignAt text value) : NamedAt [] text value
  | letter {letter character : Char} {name rest value : List Char}
      (fits : matchesLetter letter character = true) (behind : NamedAt name rest value) :
      NamedAt (letter :: name) (character :: rest) value

/-- A text begins with the name of a secret, and a value belongs to it. -/
def SecretAt (text value : List Char) : Prop :=
  ∃ name ∈ secretNames, NamedAt name text value

section Secrets

private theorem afterSign?_eq_none_iff {text : List Char} :
    afterSign? text = none ↔ ∀ value, ¬ ValueAt text value := by
  induction text with
  | nil => exact ⟨fun _ _ => nofun, fun _ => rfl⟩
  | cons character rest inductionHypothesis =>
      by_cases blank : isBlank character = true
      · rw [afterSign?_blank blank, inductionHypothesis]
        refine forall_congr' fun value => not_congr ⟨.blank blank, fun read => ?_⟩
        cases read with
        | blank _ behind => exact behind
        | value secret =>
            rw [not_isBlank_of_isSecretCharacter secret] at blank
            cases blank
      by_cases secret : isSecretCharacter character = true
      · rw [afterSign?_secret secret]
        exact ⟨nofun, fun unread => (unread _ (.value secret)).elim⟩
      · refine ⟨fun _ value read => ?_, fun _ => afterSign?_other blank secret rest⟩
        cases read with
        | blank blankToo _ => exact blank blankToo
        | value secretToo => exact secret secretToo

private theorem afterValue?_eq_none_iff {text : List Char} :
    afterValue? text = none ↔ ∀ value, ¬ SignAt text value := by
  induction text with
  | nil => exact ⟨fun _ _ => nofun, fun _ => rfl⟩
  | cons character rest inductionHypothesis =>
      by_cases signed : IsSign character
      · rw [afterValue?_sign signed, afterSign?_eq_none_iff]
        refine forall_congr' fun value => not_congr ⟨.sign signed, fun read => ?_⟩
        cases read with
        | blank blank _ => exact absurd blank (ne_true_of_eq_false signed.unblank)
        | sign _ behind => exact behind
      cases blank : isBlank character with
      | true =>
          rw [afterValue?_blank blank, inductionHypothesis]
          refine forall_congr' fun value => not_congr ⟨.blank blank, fun read => ?_⟩
          cases read with
          | blank _ behind => exact behind
          | sign signedToo _ => exact absurd signedToo signed
      | false =>
          refine ⟨fun _ value read => ?_, fun _ => afterValue?_unsigned blank signed rest⟩
          cases read with
          | blank blankToo _ => exact ne_true_of_eq_false blank blankToo
          | sign signedToo _ => exact signed signedToo

theorem namedAt_iff {name text value : List Char} :
    NamedAt name text value ↔ ∃ rest, afterName? name text = some rest ∧ SignAt rest value := by
  induction name generalizing text with
  | nil =>
      constructor
      · intro read
        cases read with
        | sign behind => exact ⟨text, rfl, behind⟩
      · rintro ⟨rest, named, behind⟩
        cases named
        exact .sign behind
  | cons letter name inductionHypothesis =>
      constructor
      · intro read
        cases read with
        | letter fits behind =>
            rw [afterName?, if_pos fits]
            exact inductionHypothesis.mp behind
      · rintro ⟨rest, named, behind⟩
        cases text with
        | nil => cases named
        | cons character text =>
            rw [afterName?] at named
            split at named
            · rename_i fits
              exact .letter fits (inductionHypothesis.mpr ⟨rest, named, behind⟩)
            · cases named

theorem secret?_eq_none_iff {text : List Char} :
    secret? text = none ↔ ∀ value, ¬ SecretAt text value := by
  simp only [secret?_none_iff, afterValue?_eq_none_iff, SecretAt, namedAt_iff, not_exists, not_and]
  exact ⟨fun unread value name known rest named => unread name known rest named value,
    fun unread name known rest named value => unread value name known rest named⟩

def IsSpelled (character : Char) : Prop :=
  ∃ name ∈ secretNames, ∃ letter ∈ name, matchesLetter letter character = true

theorem IsSpelled.unblank {character : Char} (spelled : IsSpelled character) :
    isBlank character = false := by
  have unnamed : ∀ code ∈ blankCodes, (secretNames.all fun name => name.all fun letter =>
      !matchesLetter letter (Char.ofNat code)) = true := by decide
  obtain ⟨name, known, letter, member, fits⟩ := spelled
  refine Bool.eq_false_iff.mpr fun blank => ?_
  have differs := unnamed _ (List.contains_iff_mem.mp blank)
  rw [Char.ofNat_toNat] at differs
  exact ne_true_of_eq_false (unnamed_of_all differs name known letter member) fits

theorem IsSpelled.unsigned {character : Char} (spelled : IsSpelled character) :
    ¬ IsSign character := by
  obtain ⟨name, known, letter, member, fits⟩ := spelled
  exact fun signed => ne_true_of_eq_false (signed.unnamed known letter member) fits

private theorem spelled_of_afterName? {name text rest : List Char}
    (found : afterName? name text = some rest) :
    ∀ character ∈ text.take name.length,
      ∃ letter ∈ name, matchesLetter letter character = true := by
  induction name generalizing text with
  | nil => exact fun _ member => nomatch member
  | cons letter name inductionHypothesis =>
      cases text with
      | nil => cases found
      | cons character text =>
          rw [afterName?] at found
          split at found
          case isFalse => cases found
          rename_i fits
          refine List.forall_mem_cons.mpr ⟨⟨letter, .head _, fits⟩, fun other member => ?_⟩
          obtain ⟨found, member, fits⟩ := inductionHypothesis found other member
          exact ⟨found, .tail _ member, fits⟩

/-- A text that adds nothing to a value in front of it. -/
def ClosesValue (rest : List Char) : Prop :=
  ∀ character ∈ rest.head?, isSecretCharacter character = false

private theorem closesValue_dropWhile (text : List Char) :
    ClosesValue (text.dropWhile isSecretCharacter) := by
  induction text with
  | nil => exact fun _ impossible => nomatch impossible
  | cons character rest inductionHypothesis =>
      by_cases secret : isSecretCharacter character = true
      · rw [List.dropWhile_cons, if_pos secret]
        exact inductionHypothesis
      · rw [List.dropWhile_cons, if_neg secret]
        intro other first
        obtain rfl := Option.some.inj first
        exact Bool.eq_false_iff.mpr secret

inductive SecretSpan : List Char → List Char → List Char → Prop
  | span {name before after value rest : List Char} {sign : Char} (named : name ≠ [])
      (spelled : ∀ character ∈ name, IsSpelled character)
      (blankBefore : ∀ character ∈ before, isBlank character = true) (signed : IsSign sign)
      (blankAfter : ∀ character ∈ after, isBlank character = true) (filled : value ≠ [])
      (secret : ∀ character ∈ value, isSecretCharacter character = true)
      (closes : ClosesValue rest) :
      SecretSpan (name ++ (before ++ sign :: (after ++ (value ++ rest)))) (name ++ '=' :: mask) rest

private theorem afterValue?_eq_some {text rest : List Char} (found : afterValue? text = some rest) :
    ∃ before sign after value, text = before ++ sign :: (after ++ (value ++ rest)) ∧
      (∀ character ∈ before, isBlank character = true) ∧ IsSign sign ∧
      (∀ character ∈ after, isBlank character = true) ∧ value ≠ [] ∧
      (∀ character ∈ value, isSecretCharacter character = true) ∧ ClosesValue rest := by
  have front := List.takeWhile_append_dropWhile (p := isBlank) (l := text)
  unfold afterValue? at found
  split at found
  case h_1 => cases found
  rename_i sign behind opened
  split at found
  case isFalse => cases found
  rename_i signed
  dsimp only at found
  split at found
  case isFalse => cases found
  rename_i shorter
  cases found
  have later := List.takeWhile_append_dropWhile (p := isBlank) (l := behind)
  have split := List.takeWhile_append_dropWhile (p := isSecretCharacter)
    (l := behind.dropWhile isBlank)
  refine ⟨text.takeWhile isBlank, sign, behind.takeWhile isBlank,
    (behind.dropWhile isBlank).takeWhile isSecretCharacter, ?_, fun _ => List.mem_takeWhile_imp,
    by simpa [IsSign] using signed, fun _ => List.mem_takeWhile_imp, fun empty => ?_,
    fun _ => List.mem_takeWhile_imp, closesValue_dropWhile _⟩
  · rw [split, later, ← opened, front]
  · rw [empty, List.nil_append] at split
    rw [split] at shorter
    exact Nat.lt_irrefl _ shorter

theorem secret?_span {text : List Char} {replacement : Replacement}
    (found : secret? text = some replacement) :
    SecretSpan text replacement.written (text.drop replacement.length) ∧
      0 < replacement.length := by
  obtain ⟨name, known, later, rest, named, valued, rfl⟩ := secret?_eq_some found
  obtain ⟨passed, long, rfl⟩ := afterName?_eq_some named
  have spelled := spelled_of_afterName? named
  obtain ⟨before, sign, after, value, rfl, blankBefore, signed, blankAfter, filled, secret,
    closes⟩ := afterValue?_eq_some valued
  have ends : rest <:+ passed ++ (before ++ sign :: (after ++ (value ++ rest))) := by
    refine ⟨passed ++ (before ++ sign :: (after ++ value)), ?_⟩
    simp only [List.append_assoc, List.cons_append]
  rw [← long, List.take_left] at spelled
  dsimp only
  rw [← long, List.take_left, ← List.suffix_iff_eq_drop.mp ends]
  refine ⟨.span (fun empty => ?_) (fun character member => ⟨name, known, spelled character member⟩)
    blankBefore signed blankAfter filled secret closes, ?_⟩
  · rw [empty] at long
    exact ne_nil_of_known known (List.length_eq_zero_iff.mp long.symm)
  · simp only [List.length_append, List.length_cons]
    omega

/-- A replacement begins as the text does, with the first character of a name. -/
theorem SecretSpan.begins {text written rest : List Char} (span : SecretSpan text written rest) :
    ∃ character later writtenLater, IsSpelled character ∧ text = character :: later ∧
      written = character :: writtenLater := by
  cases span with
  | @span name _ _ _ _ _ named spelled =>
      obtain ⟨character, name, rfl⟩ := List.exists_cons_of_ne_nil named
      exact ⟨character, _, _, spelled _ (.head _), rfl, rfl⟩

theorem secret?_positive (text : List Char) (replacement : Replacement)
    (found : secret? text = some replacement) : 0 < replacement.length :=
  (secret?_span found).2

end Secrets

/-! ### Passwords in addresses -/

inductive PasswordAt : List Char → List Char → Prop
  | address {user password rest : List Char} (named : user ≠ [])
      (plain : ∀ character ∈ user, isUserCharacter character = true) (filled : password ≠ [])
      (signless : ∀ character ∈ password, (character != '@') = true) :
      PasswordAt (addressFrom user password rest) password

section Passwords

theorem addressPassword?_eq_none_iff {text : List Char} :
    addressPassword? text = none ↔ ∀ password, ¬ PasswordAt text password := by
  constructor
  · intro missing password read
    cases read with
    | address named plain filled signless =>
        rw [addressPassword?_address named plain filled signless] at missing
        cases missing
  · intro unread
    refine Option.eq_none_iff_forall_ne_some.mpr fun replacement found => ?_
    obtain ⟨user, password, rest, named, plain, filled, signless, rfl⟩ :=
      addressPassword?_shape found
    exact unread password (.address named plain filled signless)

theorem PasswordAt.unique {text password other : List Char} (read : PasswordAt text password)
    (readToo : PasswordAt text other) : password = other := by
  have colon : ¬ isUserCharacter ':' = true := by decide
  have sign : ¬ ('@' != '@') = true := by decide
  cases read with
  | @address user password rest _ plain _ signless =>
      generalize same : addressFrom user password rest = text at readToo
      cases readToo with
      | @address userToo passwordToo restToo _ plainToo _ signlessToo =>
          -- the user ends at the first colon, and the password at the first sign behind it
          simp only [addressFrom, List.cons.injEq, true_and] at same
          have users := congrArg (List.takeWhile isUserCharacter) same
          rw [takeWhile_stop plain colon, takeWhile_stop plainToo colon] at users
          subst users
          have passwords := congrArg (List.takeWhile (· != '@'))
            (List.cons.inj (List.append_cancel_left same)).2
          rwa [takeWhile_stop signless sign, takeWhile_stop signlessToo sign] at passwords

theorem PasswordAt.opens {text password : List Char} (read : PasswordAt text password) :
    ∃ more, text = ':' :: '/' :: '/' :: more := by
  cases read with
  | address => exact ⟨_, rfl⟩

end Passwords

end TableExport.Log
