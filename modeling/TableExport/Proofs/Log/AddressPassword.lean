import Mathlib.Data.List.TakeWhile
import TableExport.Proofs.Log.Scanning

/-!
Passwords in addresses. From a colon and slashes on, a user is looked for up to
the next colon and a password up to the next sign in front of a host. Passwords
without that sign cannot be told apart: whatever stands in front of the address,
they are masked whole or not at all.
-/

set_option autoImplicit false

namespace TableExport.Log

open TableExport.Text

def addressFrom (user password rest : List Char) : List Char :=
  ':' :: '/' :: '/' :: (user ++ ':' :: (password ++ '@' :: rest))

/-! ### Passwords that are found -/

section Finding

variable {user password : List Char}

theorem split_at_first (belongs : Char → Bool) (text : List Char) :
    (∀ character ∈ text, belongs character = true) ∨
      ∃ front stop rest, text = front ++ stop :: rest ∧
        (∀ character ∈ front, belongs character = true) ∧ ¬ belongs stop = true := by
  induction text with
  | nil => exact .inl (List.forall_mem_nil _)
  | cons character text inductionHypothesis =>
      by_cases first : belongs character = true
      · rcases inductionHypothesis with all | ⟨front, stop, rest, rfl, before, stops⟩
        · exact .inl (List.forall_mem_cons.mpr ⟨first, all⟩)
        · exact .inr ⟨character :: front, stop, rest, rfl,
            List.forall_mem_cons.mpr ⟨first, before⟩, stops⟩
      · exact .inr ⟨[], character, text, rfl, List.forall_mem_nil _, first⟩

section Stops

variable {belongs : Char → Bool} {front : List Char} {stop : Char}
  (all : ∀ character ∈ front, belongs character = true) (stops : ¬ belongs stop = true)
include all stops

theorem takeWhile_stop (rest : List Char) : (front ++ stop :: rest).takeWhile belongs = front := by
  rw [List.takeWhile_append_of_pos all, List.takeWhile_cons, if_neg stops, List.append_nil]

theorem dropWhile_stop (rest : List Char) :
    (front ++ stop :: rest).dropWhile belongs = stop :: rest := by
  rw [List.dropWhile_append_of_pos all, List.dropWhile_cons, if_neg stops]

end Stops

theorem addressPassword?_address (named : user ≠ [])
    (plain : ∀ character ∈ user, isUserCharacter character = true) (filled : password ≠ [])
    (signless : ∀ character ∈ password, (character != '@') = true) (rest : List Char) :
    addressPassword? (addressFrom user password rest) =
      some ⟨':' :: '/' :: '/' :: user ++ ':' :: mask ++ ['@'],
        user.length + password.length + 5⟩ := by
  have colon : ¬ isUserCharacter ':' = true := by decide
  have sign : ¬ ('@' != '@') = true := by decide
  have taken : (user ++ ':' :: (password ++ '@' :: rest)).takeWhile isUserCharacter = user :=
    takeWhile_stop plain colon _
  have left : (user ++ ':' :: (password ++ '@' :: rest)).dropWhile isUserCharacter =
      ':' :: (password ++ '@' :: rest) :=
    dropWhile_stop plain colon _
  have after : (password ++ '@' :: rest).dropWhile (· != '@') = '@' :: rest :=
    dropWhile_stop signless sign rest
  have unnamed : user.isEmpty = false := List.isEmpty_eq_false_iff.mpr named
  have longer : ¬ ('@' :: rest).length = (password ++ '@' :: rest).length := by
    have long := List.length_pos_iff.mpr filled
    rw [List.length_append]
    omega
  have length : (addressFrom user password rest).length - ('@' :: rest).length + 1 =
      user.length + password.length + 5 := by
    simp only [addressFrom, List.length_cons, List.length_append]
    omega
  simp only [addressFrom] at length
  simp only [addressPassword?, addressFrom, taken, left, after, unnamed, List.isEmpty_cons,
    Bool.false_or, decide_eq_true_eq, if_neg longer, length]

private theorem addressPassword?_none_of_halfslashed {character : Char} (other : character ≠ '/')
    (rest : List Char) : addressPassword? (':' :: '/' :: character :: rest) = none := by
  unfold addressPassword?
  split
  · rename_i opening
    exact absurd (List.cons.inj (List.cons.inj (List.cons.inj opening).2).2).1 other
  · rfl

private theorem addressPassword?_none_of_stop
    (plain : ∀ character ∈ user, isUserCharacter character = true) {stop : Char}
    (stops : ¬ isUserCharacter stop = true) (other : stop ≠ ':') (rest : List Char) :
    addressPassword? (':' :: '/' :: '/' :: (user ++ stop :: rest)) = none := by
  have left : (user ++ stop :: rest).dropWhile isUserCharacter = stop :: rest :=
    dropWhile_stop plain stops rest
  simp only [addressPassword?, left]
  split
  · rename_i opening
    exact absurd (List.cons.inj opening).1 other
  · rfl

private theorem addressPassword?_none_of_unnamed {stop : Char}
    (stops : ¬ isUserCharacter stop = true) (rest : List Char) :
    addressPassword? (':' :: '/' :: '/' :: stop :: rest) = none := by
  simp only [addressPassword?, List.takeWhile_cons, if_neg stops]
  split
  · simp only [List.isEmpty_nil, Bool.true_or, if_true]
  · rfl

theorem addressPassword?_none_of_unfilled
    (plain : ∀ character ∈ user, isUserCharacter character = true) (rest : List Char) :
    addressPassword? (addressFrom user [] rest) = none := by
  have colon : ¬ isUserCharacter ':' = true := by decide
  have sign : ¬ ('@' != '@') = true := by decide
  have left : (user ++ ':' :: ([] ++ '@' :: rest)).dropWhile isUserCharacter =
      ':' :: '@' :: rest :=
    dropWhile_stop plain colon _
  simp only [addressPassword?, addressFrom, left, List.dropWhile_cons, if_neg sign, decide_true,
    Bool.or_true, if_true]

/-- A text in front of an address is the beginning of one itself, or none is found there. -/
theorem none_or_opens {front : List Char} (filled : front ≠ []) :
    (∀ tail, addressPassword? (front ++ ':' :: tail) = none) ∨
      ∃ more, front = ':' :: '/' :: '/' :: more := by
  obtain ⟨first, more, rfl⟩ := List.exists_cons_of_ne_nil filled
  by_cases colon : first = ':'
  · subst colon
    cases more with
    | nil => exact .inl fun tail => addressPassword?_none_of_unslashed (by decide) tail
    | cons second more =>
        by_cases slash : second = '/'
        · subst slash
          cases more with
          | nil => exact .inl fun tail => addressPassword?_none_of_halfslashed (by decide) tail
          | cons third more =>
              by_cases slash : third = '/'
              · subst slash
                exact .inr ⟨more, rfl⟩
              · exact .inl fun tail => addressPassword?_none_of_halfslashed slash _
        · exact .inl fun tail => addressPassword?_none_of_unslashed slash _
  · exact .inl fun tail => addressPassword?_none_of_ne colon _

private theorem drop_addressFrom (user password rest : List Char) :
    (addressFrom user password rest).drop (user.length + password.length + 5) = rest := by
  have ends : rest <:+ addressFrom user password rest := by
    refine ⟨':' :: '/' :: '/' :: (user ++ ':' :: (password ++ ['@'])), ?_⟩
    simp only [addressFrom, List.cons_append, List.append_assoc, List.nil_append]
  have length : (addressFrom user password rest).length - rest.length =
      user.length + password.length + 5 := by
    simp only [addressFrom, List.length_cons, List.length_append]
    omega
  rw [← length]
  exact (List.suffix_iff_eq_drop.mp ends).symm

private theorem signless_link (plain : ∀ character ∈ user, isUserCharacter character = true) :
    ∀ character ∈ '/' :: '/' :: (user ++ [':']), (character != '@') = true := by
  refine List.forall_mem_cons.mpr ⟨by decide, List.forall_mem_cons.mpr ⟨by decide, ?_⟩⟩
  refine List.forall_mem_append.mpr
    ⟨fun character member => ?_, List.all_eq_true.mp (by decide)⟩
  have belongs := plain character member
  rw [isUserCharacter, Bool.and_eq_true] at belongs
  exact belongs.2

theorem scanned_addressFrom (named : user ≠ [])
    (plain : ∀ character ∈ user, isUserCharacter character = true) (filled : password ≠ [])
    (signless : ∀ character ∈ password, (character != '@') = true) (rest : List Char) :
    replaceAll addressPassword? 0 (addressFrom user password rest) =
      ':' :: '/' :: '/' :: user ++ ':' :: mask ++ ['@'] ++
        replaceAll addressPassword? 0 rest := by
  have found := addressPassword?_address named plain filled signless rest
  have dropped := drop_addressFrom user password rest
  rw [addressFrom] at found dropped ⊢
  rw [replaceAll_of_some found (Nat.succ_pos _), dropped]

theorem addressPassword?_shape {text : List Char} {replacement : Replacement}
    (found : addressPassword? text = some replacement) :
    ∃ user password rest, user ≠ [] ∧
      (∀ character ∈ user, isUserCharacter character = true) ∧ password ≠ [] ∧
      (∀ character ∈ password, (character != '@') = true) ∧
      text = addressFrom user password rest := by
  unfold addressPassword? at found
  split at found
  case h_2 => cases found
  rename_i rest
  dsimp only at found
  split at found
  case h_2 => cases found
  rename_i password opened
  have split : rest.takeWhile isUserCharacter ++ rest.dropWhile isUserCharacter = rest :=
    List.takeWhile_append_dropWhile
  have plain : ∀ character ∈ rest.takeWhile isUserCharacter, isUserCharacter character = true :=
    fun _ => List.mem_takeWhile_imp
  rw [opened] at split
  generalize rest.takeWhile isUserCharacter = user at found split plain
  subst split
  rcases split_at_first (· != '@') password with all | ⟨inner, sign, behind, rfl, signless, ends⟩
  · rw [List.dropWhile_eq_nil_iff.mpr all, List.isEmpty_nil, Bool.or_true, Bool.true_or,
      if_pos rfl] at found
    cases found
  · obtain rfl : sign = '@' := by simpa using ends
    rw [dropWhile_stop signless ends] at found
    split at found
    · cases found
    · rename_i passed
      refine ⟨user, inner, behind, ?_, plain, ?_, signless, rfl⟩
      · rintro rfl
        exact passed rfl
      · rintro rfl
        exact passed (by simp only [List.nil_append, decide_true, Bool.or_true])

/-- In place of a password the mask is written, and the scan goes on behind the address. -/
theorem addressPassword?_eq_some {text : List Char} {replacement : Replacement}
    (found : addressPassword? text = some replacement) :
    ∃ user password rest, (user ≠ [] ∧
      (∀ character ∈ user, isUserCharacter character = true) ∧ password ≠ [] ∧
      ∀ character ∈ password, (character != '@') = true) ∧
      text = addressFrom user password rest ∧ 0 < replacement.length ∧
      text.drop replacement.length = rest ∧
      ∀ behind, replacement.written ++ behind = addressFrom user mask behind := by
  obtain ⟨user, password, rest, named, plain, filled, signless, rfl⟩ :=
    addressPassword?_shape found
  rw [addressPassword?_address named plain filled signless] at found
  cases found
  refine ⟨user, password, rest, ⟨named, plain, filled, signless⟩, rfl, Nat.succ_pos _,
    drop_addressFrom user password rest, fun behind => ?_⟩
  simp only [addressFrom, List.cons_append, List.append_assoc, List.nil_append]

theorem addressPassword?_positive (text : List Char) (replacement : Replacement)
    (found : addressPassword? text = some replacement) : 0 < replacement.length := by
  obtain ⟨_, _, _, _, _, positive, _⟩ := addressPassword?_eq_some found
  exact positive

theorem getLast?_scanned (text : List Char) :
    (replaceAll addressPassword? 0 text).getLast? = text.getLast? := by
  have scan := scan_replaceAll addressPassword?_positive text
  generalize replaceAll addressPassword? 0 text = scanned at scan
  induction scan with
  | done => rfl
  | keep _ _ inductionHypothesis =>
      rw [List.getLast?_cons, List.getLast?_cons, inductionHypothesis]
  | replace found remains _ inductionHypothesis =>
      obtain ⟨user, password, rest, _, rfl, _, left, written⟩ := addressPassword?_eq_some found
      obtain rfl := left.symm.trans remains
      rw [written]
      simp only [addressFrom, List.getLast?_append, List.getLast?_cons, inductionHypothesis,
        Option.getD_some, Option.some_or]

section Meeting

variable {front passwordToo : List Char}
  (signless : ∀ character ∈ password, (character != '@') = true)
  (signlessToo : ∀ character ∈ passwordToo, (character != '@') = true)
include signless signlessToo

private theorem meets_within_password {named lead rest : List Char} (filled : named ≠ [])
    (plain : ∀ character ∈ named, isUserCharacter character = true) (leads : lead ≠ [])
    (leadSignless : ∀ character ∈ lead, (character != '@') = true)
    (longer : ∀ password, front ++ addressFrom user password rest =
      addressFrom named (lead ++ password) rest) :
    Meets addressPassword? (fun _ => True) front (addressFrom user password rest)
      (addressFrom user passwordToo rest) := by
  have found {password : List Char}
      (signless : ∀ character ∈ password, (character != '@') = true) :=
    addressPassword?_address filled plain (List.append_ne_nil_of_left_ne_nil leads password)
      (fun character member => (List.mem_append.mp member).elim (leadSignless character)
        (signless character)) rest
  refine .beyond _ _ _ (Nat.succ_pos _) (Nat.succ_pos _) ((congrArg _ (longer _)).trans
    (found signless)) ((congrArg _ (longer _)).trans (found signlessToo)) ?_
  rw [longer, longer, drop_addressFrom, drop_addressFrom]

/-- Behind a user of its own, the front holds a whole password or the beginning of one. -/
theorem meets_behind_user (plain : ∀ character ∈ user, isUserCharacter character = true)
    {named : List Char} (filled : named ≠ [])
    (plainNamed : ∀ character ∈ named, isUserCharacter character = true)
    (later rest : List Char) :
    Meets addressPassword? (fun _ => True) (':' :: '/' :: '/' :: (named ++ ':' :: later))
      (addressFrom user password rest) (addressFrom user passwordToo rest) := by
  rcases split_at_first (· != '@') later with all | ⟨inner, sign, behind, rfl, signlessInner, ends⟩
  · refine meets_within_password signless signlessToo filled plainNamed
      (List.append_ne_nil_of_right_ne_nil later (List.cons_ne_nil ':' _))
      (List.forall_mem_append.mpr
        ⟨all, List.forall_mem_cons.mpr ⟨by decide, signless_link plain⟩⟩) fun password => ?_
    simp only [addressFrom, List.cons_append, List.append_assoc, List.nil_append]
  · obtain rfl : sign = '@' := by simpa using ends
    have whole (tail : List Char) :
        ':' :: '/' :: '/' :: (named ++ ':' :: (inner ++ '@' :: behind)) ++ tail =
          addressFrom named inner (behind ++ tail) := by
      simp only [addressFrom, List.cons_append, List.append_assoc]
    by_cases unfilled : inner = []
    · subst unfilled
      have missing (tail : List Char) := (congrArg addressPassword? (whole tail)).trans
        (addressPassword?_none_of_unfilled plainNamed _)
      exact .nothing (missing _) (missing _)
    · have found (tail : List Char) := (congrArg addressPassword? (whole tail)).trans
        (addressPassword?_address filled plainNamed unfilled signlessInner _)
      refine .within _ (Nat.succ_pos _) ?_ (fun _ _ => trivial) (found _) (found _)
      simp only [List.length_cons, List.length_append]
      omega

/-- Passwords without the sign in front of a host cannot be told apart by what stands in front of
their address. -/
theorem meets_address (filledFront : front ≠ [])
    (plain : ∀ character ∈ user, isUserCharacter character = true) (rest : List Char) :
    Meets addressPassword? (fun _ => True) front (addressFrom user password rest)
      (addressFrom user passwordToo rest) := by
  have colon : ¬ isUserCharacter ':' = true := by decide
  rcases none_or_opens filledFront with missing | ⟨more, rfl⟩
  · exact .nothing (missing _) (missing _)
  rcases split_at_first isUserCharacter more with all | ⟨named, stop, later, rfl, plainNamed, stops⟩
  · -- a user is named up to the colon of the address
    by_cases filled : more = []
    · subst filled
      exact .nothing (addressPassword?_none_of_unnamed colon _)
        (addressPassword?_none_of_unnamed colon _)
    · refine meets_within_password signless signlessToo filled all (List.cons_ne_nil _ _)
        (signless_link plain) fun password => ?_
      simp only [addressFrom, List.cons_append, List.append_assoc, List.nil_append]
  · by_cases coloned : stop = ':'
    · subst coloned
      by_cases filled : named = []
      · subst filled
        exact .nothing (addressPassword?_none_of_unnamed colon _)
          (addressPassword?_none_of_unnamed colon _)
      · exact meets_behind_user signless signlessToo plain filled plainNamed later rest
    · have missing (tail : List Char) := addressPassword?_none_of_stop plainNamed stops coloned
        (later ++ tail)
      simp only [← List.cons_append, ← List.append_assoc] at missing
      exact .nothing (missing _) (missing _)

end Meeting

end Finding

end TableExport.Log
