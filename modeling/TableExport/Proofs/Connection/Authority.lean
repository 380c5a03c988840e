import TableExport.Proofs.Connection.Address
import TableExport.Proofs.Sequence

/-!
Authorities that can be taken apart. Brackets stand in an authority in pairs and
around a numeric host, which nothing stands in front of and only a port behind;
and no character may stand for a delimiter. When an authority fails, it fails
for this and for nothing else.
-/

set_option autoImplicit false

namespace TableExport.Connection

open TableExport.Text
open TableExport.Sequence

/-! ### Pieces of a text -/

section Pieces

variable {separator character : Char} {text : List Char}

private theorem cutAt_eq_some {before after : List Char}
    (cut : cutAt separator text = (before, some after)) :
    text = before ++ separator :: after ∧ separator ∉ before := by
  by_cases member : separator ∈ text
  · obtain ⟨front, behind, rfl, absent⟩ := List.eq_append_cons_of_mem member
    rw [cutAt_append absent] at cut
    cases cut
    exact ⟨rfl, absent⟩
  · rw [cutAt_of_notMem member] at cut
    cases cut

private theorem cutAt_eq_none {before : List Char} (cut : cutAt separator text = (before, none)) :
    text = before ∧ separator ∉ text := by
  by_cases member : separator ∈ text
  · obtain ⟨front, behind, rfl, absent⟩ := List.eq_append_cons_of_mem member
    rw [cutAt_append absent] at cut
    cases cut
  · rw [cutAt_of_notMem member] at cut
    exact ⟨(Prod.mk.inj cut).1, member⟩

private theorem splitAt_of_notMem (absent : separator ∉ text) :
    splitAt separator text = [text] := by
  induction text with
  | nil => rfl
  | cons first rest inductionHypothesis =>
      obtain ⟨different, later⟩ := List.ne_and_not_mem_of_not_mem_cons absent
      rw [splitAt, if_neg different.symm, inductionHypothesis later]

theorem splitAt_cons_of_ne (different : character ≠ separator) (text : List Char) :
    ∃ first later, splitAt separator (character :: text) = (character :: first) :: later := by
  rw [splitAt, if_neg different]
  cases splitAt separator text with
  | nil => exact ⟨[], [], rfl⟩
  | cons first later => exact ⟨first, later, rfl⟩

/-- The parts of a text have the characters of the text that are no separators. -/
theorem mem_splitAt_flatten :
    character ∈ (splitAt separator text).flatten ↔ character ∈ text ∧ character ≠ separator := by
  induction text with
  | nil => simp [splitAt]
  | cons first rest inductionHypothesis =>
      by_cases same : first = separator
      · have apart : character = first → ¬ character ≠ separator := fun equal distinct =>
          distinct (equal.trans same)
        rw [splitAt, if_pos same, List.flatten_cons, List.nil_append, inductionHypothesis,
          List.mem_cons]
        exact ⟨fun inside => ⟨.inr inside.1, inside.2⟩,
          fun inside => ⟨inside.1.resolve_left fun equal => apart equal inside.2, inside.2⟩⟩
      · have flat : (splitAt separator (first :: rest)).flatten =
            first :: (splitAt separator rest).flatten := by
          rw [splitAt, if_neg same]
          cases splitAt separator rest <;> rfl
        rw [flat, List.mem_cons, List.mem_cons, inductionHypothesis, or_and_right]
        refine or_congr_left (iff_self_and.mpr ?_)
        rintro rfl
        exact same

end Pieces

/-! ### Numeric hosts -/

/-- What may stand between brackets: a long address, or one of a later kind. -/
def IsNumericHost (host : List Char) : Prop :=
  isFutureAddress host = true ∨ isLongAddress host = true

section Hosts

variable {host : List Char}

private theorem head?_of_isFutureAddress (future : isFutureAddress host = true) :
    host.head? = some 'v' := by
  unfold isFutureAddress at future
  split at future
  · rfl
  · cases future

private theorem areGroups_of_first {first : List Char} {later : List (List Char)}
    (filled : first ≠ []) (unsound : isGroup first = false) :
    areGroups (first :: later) = false := by
  unfold areGroups
  split
  · rw [List.all_cons, unsound, Bool.false_and, Bool.and_false]
  · rename_i place gap
    have inside : place ∈ gaps (first :: later) := gap ▸ List.mem_singleton_self place
    obtain ⟨before, rfl⟩ : ∃ before, place = before + 1 := by
      simp only [gaps, List.mem_filter, Bool.and_eq_true, decide_eq_true_eq] at inside
      exact ⟨place - 1, by omega⟩
    have high : isSide ((first :: later).take (before + 1)) = false := by
      rw [List.take_succ_cons, isSide, List.all_cons, unsound, Bool.false_and, Bool.or_false,
        beq_eq_false_iff_ne]
      exact fun same => filled (List.cons.inj same).1
    simp only [high, Bool.and_false, Bool.false_and]
  · rfl

theorem addressGroups?_cons {first second : List Char} {later groups : List (List Char)}
    (grouped : addressGroups? (first :: second :: later) = some groups) :
    ∃ others, groups = first :: others := by
  unfold addressGroups? at grouped
  dsimp only at grouped
  split at grouped
  · split at grouped
    · cases grouped
      exact ⟨_, rfl⟩
    · cases grouped
  · cases grouped
    exact ⟨_, rfl⟩

/-- What a long address is found in: it has no zone any more, and at least three parts. -/
theorem exists_of_isLongAddress (long : isLongAddress host = true) :
    ∃ address groups, withoutZone? host = some address ∧
      3 ≤ (splitAt ':' address).length ∧
      addressGroups? (splitAt ':' address) = some groups ∧ areGroups groups = true := by
  unfold isLongAddress at long
  split at long
  · cases long
  · split at long
    · cases long
    · rename_i address zoneless
      dsimp only at long
      split at long
      · cases long
      · rename_i many
        split at long
        · cases long
        · rename_i groups grouped
          exact ⟨address, groups, zoneless, Nat.le_of_not_lt many, grouped, long⟩

private theorem exists_of_withoutZone? {address : List Char}
    (zoneless : withoutZone? host = some address) :
    ∃ later, splitAt '%' host = address :: later := by
  unfold withoutZone? at zoneless
  split at zoneless
  · rename_i same
    cases zoneless
    exact ⟨[], same⟩
  · rename_i same
    split at zoneless
    · cases zoneless
    · cases zoneless
      exact ⟨_, same⟩
  · cases zoneless

private theorem colon_mem_of_isLongAddress (long : isLongAddress host = true) : ':' ∈ host := by
  obtain ⟨address, groups, zoneless, many, _⟩ := exists_of_isLongAddress long
  obtain ⟨later, parts⟩ := exists_of_withoutZone? zoneless
  have inAddress : ':' ∈ address := by
    apply Decidable.byContradiction
    intro absent
    simp [splitAt_of_notMem absent] at many
  have inParts : ':' ∈ (splitAt '%' host).flatten := by
    rw [parts, List.flatten_cons]
    exact List.mem_append_left _ inAddress
  exact (mem_splitAt_flatten.mp inParts).1

private theorem head?_of_isLongAddress (long : isLongAddress host = true) :
    host.head? ≠ some 'v' := by
  intro begins
  obtain ⟨rest, rfl⟩ := List.head?_eq_some_iff.mp begins
  obtain ⟨address, groups, zoneless, many, grouped, sound⟩ := exists_of_isLongAddress long
  obtain ⟨zone, parts⟩ := exists_of_withoutZone? zoneless
  obtain ⟨front, behind, split⟩ :=
    splitAt_cons_of_ne (show 'v' ≠ '%' by decide) rest
  obtain ⟨rfl, _⟩ := List.cons.inj (split.symm.trans parts)
  obtain ⟨first, later, colons⟩ := splitAt_cons_of_ne (show 'v' ≠ ':' by decide) front
  rw [colons] at many grouped
  cases later with
  | nil => simp at many
  | cons second others =>
      obtain ⟨more, rfl⟩ := addressGroups?_cons grouped
      -- no hexadecimal digit is a letter as late as this one
      have unsound : isGroup ('v' :: first) = false := by
        rw [isGroup, List.all_cons, show (Percent.hexValue? 'v').isSome = false by decide,
          Bool.false_and, Bool.and_false]
      rw [areGroups_of_first (List.cons_ne_nil _ _) unsound] at sound
      cases sound

private theorem not_isShortAddress_of_isLongAddress (long : isLongAddress host = true) :
    isShortAddress host = false := by
  apply Bool.eq_false_iff.mpr
  intro short
  have colon : ':' ∈ (splitAt '.' host).flatten :=
    mem_splitAt_flatten.mpr ⟨colon_mem_of_isLongAddress long, by decide⟩
  obtain ⟨octet, listed, inside⟩ := List.mem_flatten.mp colon
  rw [isShortAddress, Bool.and_eq_true, List.all_eq_true] at short
  have digits := short.2 octet listed
  simp only [isOctet, Bool.and_eq_true, List.all_eq_true] at digits
  exact absurd (digits.1.1.1.2 ':' inside) (by decide)

private theorem checkBracketed_ok_iff :
    Address.checkBracketed host = .ok () ↔ IsNumericHost host := by
  unfold Address.checkBracketed IsNumericHost
  by_cases later : host.head? = some 'v'
  · have short : isLongAddress host ≠ true := fun long => head?_of_isLongAddress long later
    rw [if_pos (beq_iff_eq.mpr later), or_iff_left short]
    cases isFutureAddress host <;> simp
  · have present : isFutureAddress host ≠ true := fun future =>
      later (head?_of_isFutureAddress future)
    rw [if_neg (mt beq_iff_eq.mp later), or_iff_right present]
    -- the check for a short address comes first, but no long one is short
    cases long : isLongAddress host with
    | true => simp [not_isShortAddress_of_isLongAddress long]
    | false => cases isShortAddress host <;> simp

end Hosts

/-! ### Sound authorities -/

/-- The place that an authority names: what stands behind the last sign of a user. -/
def Behind (authority place : List Char) : Prop :=
  '@' ∉ place ∧ (authority = place ∨ ∃ user, authority = user ++ '@' :: place)

inductive NamesHost : List Char → List Char → Prop where
  | bracketed {host behind : List Char} (absent : ']' ∉ host)
      (port : ∀ first ∈ behind.head?, first = ':') :
      NamesHost ('[' :: (host ++ ']' :: behind)) host
  | unclosed {host : List Char} (absent : ']' ∉ host) : NamesHost ('[' :: host) host
  | plain {host : List Char} (bare : '[' ∉ host) (absent : ':' ∉ host) : NamesHost host host
  | withPort {host port : List Char} (bare : '[' ∉ host ++ ':' :: port) (absent : ':' ∉ host) :
      NamesHost (host ++ ':' :: port) host

structure IsSound (authority : List Char) : Prop where
  undisguised : ∀ character ∈ authority, isDisguisedDelimiter character = false
  paired : '[' ∈ authority ↔ ']' ∈ authority
  numeric : '[' ∈ authority → ∃ place host,
    Behind authority place ∧ NamesHost place host ∧ IsNumericHost host

section Soundness

variable {authority place host : List Char}

private theorem cutAtLast_behind (text : List Char) : Behind text (cutAtLast '@' text).2 := by
  unfold cutAtLast
  cases cut : cutAt '@' text.reverse with
  | mk behind before =>
      cases before with
      | none =>
          obtain ⟨same, absent⟩ := cutAt_eq_none cut
          dsimp only
          rw [← same, List.reverse_reverse]
          exact ⟨mt List.mem_reverse.mpr absent, .inl rfl⟩
      | some before =>
          obtain ⟨same, absent⟩ := cutAt_eq_some cut
          refine ⟨mt List.mem_reverse.mp absent, .inr ⟨before.reverse, ?_⟩⟩
          rw [← List.reverse_reverse text, same, List.reverse_append, List.reverse_cons,
            List.append_assoc, List.singleton_append]

theorem Behind.unique (behind : Behind authority place) : (cutAtLast '@' authority).2 = place := by
  obtain ⟨absent, rfl | ⟨user, rfl⟩⟩ := behind
  · rw [cutAtLast, cutAt_of_notMem (mt List.mem_reverse.mp absent)]
    exact List.reverse_reverse _
  · rw [cutAtLast_append user absent]

private theorem namesHost_of_plain (bare : '[' ∉ place) : NamesHost place (cutAt ':' place).1 := by
  cases cut : cutAt ':' place with
  | mk before after =>
      cases after with
      | none =>
          obtain ⟨rfl, absent⟩ := cutAt_eq_none cut
          exact .plain bare absent
      | some port =>
          obtain ⟨rfl, absent⟩ := cutAt_eq_some cut
          exact .withPort bare absent

private theorem NamesHost.of_plain (bare : '[' ∉ place) (names : NamesHost place host) :
    (cutAt ':' place).1 = host := by
  cases names with
  | bracketed => exact absurd List.mem_cons_self bare
  | unclosed => exact absurd List.mem_cons_self bare
  | plain _ absent => rw [cutAt_of_notMem absent]
  | withPort _ absent => rw [cutAt_append absent]

private theorem namesHost_of_opened {text : List Char}
    (port : ∀ behind, (cutAt ']' text).2 = some behind → ∀ first ∈ behind.head?, first = ':') :
    NamesHost ('[' :: text) (cutAt ']' text).1 := by
  cases cut : cutAt ']' text with
  | mk before after =>
      rw [cut] at port
      cases after with
      | none =>
          obtain ⟨rfl, absent⟩ := cutAt_eq_none cut
          exact .unclosed absent
      | some behind =>
          obtain ⟨rfl, absent⟩ := cutAt_eq_some cut
          exact .bracketed absent (port behind rfl)

private theorem NamesHost.of_opened {before text : List Char}
    (names : NamesHost (before ++ '[' :: text) host) (absent : '[' ∉ before) :
    before = [] ∧ (cutAt ']' text).1 = host ∧
      ∀ behind, (cutAt ']' text).2 = some behind → ∀ first ∈ behind.head?, first = ':' := by
  have opened : '[' ∈ before ++ '[' :: text := List.mem_append_right _ List.mem_cons_self
  have begins : ∀ other, before ++ '[' :: text = '[' :: other → before = [] ∧ text = other := by
    intro other same
    cases before with
    | nil => exact ⟨rfl, (List.cons.inj same).2⟩
    | cons first rest =>
        rw [List.cons_append, List.cons.injEq] at same
        exact absurd (same.1 ▸ List.mem_cons_self) absent
  generalize whole : before ++ '[' :: text = place at names opened
  cases names with
  | bracketed unclosed port =>
      obtain ⟨rfl, rfl⟩ := begins _ whole
      rw [cutAt_append unclosed]
      exact ⟨rfl, rfl, by rintro _ ⟨⟩; exact port⟩
  | unclosed unclosed =>
      obtain ⟨rfl, rfl⟩ := begins _ whole
      rw [cutAt_of_notMem unclosed]
      exact ⟨rfl, rfl, nofun⟩
  | plain bare => exact absurd opened bare
  | withPort bare => exact absurd opened bare

def NamesNumeric (place : List Char) : Prop :=
  ∃ host, NamesHost place host ∧ IsNumericHost host

private theorem namesNumeric_plain (bare : '[' ∉ place) :
    NamesNumeric place ↔ IsNumericHost (cutAt ':' place).1 := by
  constructor
  · rintro ⟨host, names, numeric⟩
    rwa [names.of_plain bare]
  · intro numeric
    exact ⟨_, namesHost_of_plain bare, numeric⟩

private theorem namesNumeric_opened {before text : List Char} (absent : '[' ∉ before) :
    NamesNumeric (before ++ '[' :: text) ↔ before = [] ∧
      (∀ behind, (cutAt ']' text).2 = some behind → ∀ first ∈ behind.head?, first = ':') ∧
        IsNumericHost (cutAt ']' text).1 := by
  constructor
  · rintro ⟨host, names, numeric⟩
    obtain ⟨front, rfl, port⟩ := names.of_opened absent
    exact ⟨front, port, numeric⟩
  · rintro ⟨rfl, port, numeric⟩
    exact ⟨_, namesHost_of_opened port, numeric⟩

private theorem checkBrackets_ok_iff :
    Address.checkBrackets authority = .ok () ↔ NamesNumeric (cutAtLast '@' authority).2 := by
  unfold Address.checkBrackets
  dsimp only
  generalize (cutAtLast '@' authority).2 = place
  cases cut : cutAt '[' place with
  | mk before after =>
      cases after with
      | none =>
          rw [namesNumeric_plain (cutAt_eq_none cut).2]
          exact checkBracketed_ok_iff
      | some text =>
          obtain ⟨rfl, absent⟩ := cutAt_eq_some cut
          rw [namesNumeric_opened absent, ← checkBracketed_ok_iff]
          dsimp only
          rw [checked_ok_iff, throw_ok_iff, Bool.not_eq_true', imp_false, Bool.not_eq_false,
            List.isEmpty_iff]
          apply and_congr_right
          intro _
          cases (cutAt ']' text).2 with
          | none => simp
          | some behind =>
              cases behind with
              | nil => simp
              | cons first rest =>
                  dsimp only
                  rw [checked_ok_iff, throw_ok_iff]
                  simp

private theorem namesNumeric_behind : NamesNumeric (cutAtLast '@' authority).2 ↔
    ∃ place host, Behind authority place ∧ NamesHost place host ∧ IsNumericHost host := by
  constructor
  · rintro ⟨host, names, numeric⟩
    exact ⟨_, host, cutAtLast_behind authority, names, numeric⟩
  · rintro ⟨place, host, located, names, numeric⟩
    exact ⟨host, located.unique.symm ▸ names, numeric⟩

theorem checkAuthority_ok_iff : Address.checkAuthority authority = .ok () ↔ IsSound authority := by
  have undisguised : (if authority.any isDisguisedDelimiter = true then
        throw (.disguisedDelimiter (String.ofList authority)) else pure () :
          Except AddressFault Unit) = .ok () ↔
      ∀ character ∈ authority, isDisguisedDelimiter character = false := by
    cases disguised : authority.any isDisguisedDelimiter with
    | true => simpa [throw_ok_iff] using disguised
    | false => simpa [pure, Except.pure] using disguised
  unfold Address.checkAuthority
  dsimp only
  rw [checked_ok_iff, checked_ok_iff, throw_ok_iff, undisguised, imp_false, bne_iff_ne, not_not,
    Bool.eq_iff_iff, List.contains_iff_mem, List.contains_iff_mem, Bool.and_eq_true,
    List.contains_iff_mem, List.contains_iff_mem, checkBrackets_ok_iff, namesNumeric_behind]
  constructor
  · rintro ⟨paired, numeric, hidden⟩
    exact ⟨hidden, paired, fun opened => numeric ⟨opened, paired.mp opened⟩⟩
  · rintro ⟨hidden, paired, numeric⟩
    exact ⟨paired, fun both => numeric both.1, hidden⟩

end Soundness

end TableExport.Connection
