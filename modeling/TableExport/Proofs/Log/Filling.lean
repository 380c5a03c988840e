import Mathlib.Algebra.GroupWithZero.Nat
import TableExport.Proofs.Log.Directives
import TableExport.Proofs.Log.Masking

/-!
Filled templates. A template is filled exactly when its directives take all
arguments, and then the redacted arguments fill it as well. Redaction takes no
part of a directive away without the rest becoming plain text, so what a redacted
template lacks are whole directives, and its arguments are left over then.
-/

set_option autoImplicit false

namespace TableExport.Log

open TableExport.Text

inductive Directives : List Char → List (List Char) → Prop
  | done : Directives [] []
  | plain {character : Char} {rest : List Char} {specifiers : List (List Char)}
      (plain : character ≠ '%') (later : Directives rest specifiers) :
      Directives (character :: rest) specifiers
  | doubled {rest : List Char} {specifiers : List (List Char)}
      (later : Directives rest specifiers) : Directives ('%' :: '%' :: rest) specifiers
  | directive {specifier rest : List Char} {specifiers : List (List Char)}
      (formed : IsSpecifier specifier) (later : Directives rest specifiers) :
      Directives ('%' :: (specifier ++ rest)) (specifier :: specifiers)

inductive Fills : List Char → List Cell → List Char → Prop
  | done : Fills [] [] []
  | plain {character : Char} {rest text : List Char} {arguments : List Cell}
      (plain : character ≠ '%') (later : Fills rest arguments text) :
      Fills (character :: rest) arguments (character :: text)
  | doubled {rest text : List Char} {arguments : List Cell} (later : Fills rest arguments text) :
      Fills ('%' :: '%' :: rest) arguments ('%' :: text)
  | directive {specifier rest shown text : List Char} {taken arguments : List Cell}
      (formed : IsSpecifier specifier) (shows : Shows specifier taken shown)
      (later : Fills rest arguments text) :
      Fills ('%' :: (specifier ++ rest)) (taken ++ arguments) (shown ++ text)

inductive Serves : List (List Char) → List Cell → Prop
  | done : Serves [] []
  | more {specifier shown : List Char} {specifiers : List (List Char)} {taken arguments : List Cell}
      (formed : IsSpecifier specifier) (shows : Shows specifier taken shown)
      (later : Serves specifiers arguments) : Serves (specifier :: specifiers) (taken ++ arguments)

/-! ### Filling -/

section Filling

variable {text template : List Char} {arguments : List Cell} {specifiers : List (List Char)}

private theorem directive_doubled (length : Nat) (rest : List Char) (arguments : List Cell) :
    directive length ('%' :: rest) arguments = .ok (['%'], rest, arguments) := rfl

private theorem fillFrom_plain {character : Char} (plain : character ≠ '%') (length fuel : Nat)
    (rest : List Char) (arguments : List Cell) :
    fillFrom length (fuel + 1) (character :: rest) arguments =
      (do
        let later ← fillFrom length fuel rest arguments
        pure (character :: later)) := by
  rw [fillFrom]
  exact plain

private theorem fills_of_fillFrom {length fuel : Nat} (enough : template.length < fuel)
    (filled : fillFrom length fuel template arguments = .ok text) :
    Fills template arguments text := by
  induction fuel generalizing template arguments text with
  | zero => exact absurd enough (Nat.not_lt_zero _)
  | succ fuel inductionHypothesis =>
      cases template with
      | nil =>
          rw [fillFrom] at filled
          split at filled
          · rename_i empty
            cases filled
            rw [List.isEmpty_iff.mp empty]
            exact .done
          · cases filled
          · nofun
      | cons character rest =>
          have shorter : rest.length < fuel := Nat.lt_of_succ_lt_succ enough
          by_cases percent : character = '%'
          · subst percent
            rw [fillFrom, Sequence.bind_ok_iff] at filled
            obtain ⟨⟨shown, behind, left⟩, carried, filled⟩ := filled
            dsimp only at filled
            rw [Sequence.bind_ok_iff] at filled
            obtain ⟨later, filled, same⟩ := filled
            cases same
            by_cases doubled : rest.head? = some '%'
            · obtain ⟨rest, rfl⟩ := List.head?_eq_some_iff.mp doubled
              rw [directive_doubled] at carried
              cases carried
              exact .doubled (inductionHypothesis (Nat.lt_of_succ_lt shorter) filled)
            · obtain ⟨specifier, taken, rfl, rfl, formed, _, shows, _⟩ :=
                directive_shows doubled carried
              refine .directive formed shows (inductionHypothesis ?_ filled)
              rw [List.length_append] at shorter
              omega
          · rw [fillFrom_plain percent, Sequence.bind_ok_iff] at filled
            obtain ⟨later, filled, same⟩ := filled
            cases same
            exact .plain percent (inductionHypothesis shorter filled)

theorem Fills.fillFrom {length fuel : Nat} (fills : Fills template arguments text)
    (enough : template.length < fuel) :
    fillFrom length fuel template arguments = .ok text := by
  induction fills generalizing fuel with
  | done =>
      obtain ⟨fuel, rfl⟩ := Nat.exists_eq_succ_of_ne_zero (Nat.ne_of_gt enough)
      rfl
  | plain plain _ inductionHypothesis =>
      obtain ⟨fuel, rfl⟩ := Nat.exists_eq_succ_of_ne_zero (Nat.ne_of_gt (Nat.zero_lt_of_lt enough))
      rw [fillFrom_plain plain, inductionHypothesis (Nat.lt_of_succ_lt_succ enough)]
      rfl
  | doubled _ inductionHypothesis =>
      obtain ⟨fuel, rfl⟩ := Nat.exists_eq_succ_of_ne_zero (Nat.ne_of_gt (Nat.zero_lt_of_lt enough))
      rw [Log.fillFrom, directive_doubled, Sequence.ok_bind]
      dsimp only
      rw [inductionHypothesis (Nat.lt_of_succ_lt (Nat.lt_of_succ_lt_succ enough))]
      rfl
  | directive _ shows _ inductionHypothesis =>
      obtain ⟨fuel, rfl⟩ := Nat.exists_eq_succ_of_ne_zero (Nat.ne_of_gt (Nat.zero_lt_of_lt enough))
      rw [Log.fillFrom, shows, Sequence.ok_bind]
      dsimp only
      rw [List.length_cons, List.length_append] at enough
      rw [inductionHypothesis (by omega)]
      rfl

/-- A template can be filled with arguments exactly when it is made of plain text and directives
that show them. -/
theorem filled_iff {template : String} {text : String} :
    filled template arguments = .ok text ↔ Fills template.toList arguments text.toList := by
  unfold filled
  dsimp only
  constructor
  · intro done
    cases filled : Log.fillFrom template.toList.length (template.toList.length + 1) template.toList
        arguments with
    | error fault =>
        rw [filled] at done
        cases done
    | ok found =>
        rw [filled] at done
        obtain rfl := Except.ok.inj done
        rw [String.toList_ofList]
        exact fills_of_fillFrom (Nat.lt_succ_self _) filled
  · intro fills
    rw [fills.fillFrom (Nat.lt_succ_self _)]
    exact congrArg Except.ok String.ofList_toList

theorem exists_fills_iff :
    (∃ text, Fills template arguments text) ↔
      ∃ specifiers, Directives template specifiers ∧ Serves specifiers arguments := by
  constructor
  · rintro ⟨text, fills⟩
    induction fills with
    | done => exact ⟨[], .done, .done⟩
    | plain plain _ inductionHypothesis =>
        obtain ⟨specifiers, parsed, serves⟩ := inductionHypothesis
        exact ⟨specifiers, .plain plain parsed, serves⟩
    | doubled _ inductionHypothesis =>
        obtain ⟨specifiers, parsed, serves⟩ := inductionHypothesis
        exact ⟨specifiers, .doubled parsed, serves⟩
    | directive formed shows _ inductionHypothesis =>
        obtain ⟨specifiers, parsed, serves⟩ := inductionHypothesis
        exact ⟨_, .directive formed parsed, .more formed shows serves⟩
  · rintro ⟨specifiers, parsed, serves⟩
    induction parsed generalizing arguments with
    | done =>
        cases serves
        exact ⟨[], .done⟩
    | plain plain _ inductionHypothesis =>
        obtain ⟨text, fills⟩ := inductionHypothesis serves
        exact ⟨_, .plain plain fills⟩
    | doubled _ inductionHypothesis =>
        obtain ⟨text, fills⟩ := inductionHypothesis serves
        exact ⟨_, .doubled fills⟩
    | directive formed _ inductionHypothesis =>
        cases serves with
        | more _ shows serves =>
            obtain ⟨text, fills⟩ := inductionHypothesis serves
            exact ⟨_, .directive formed shows fills⟩

end Filling

/-! ### Arguments of directives -/

section Arguments

variable {specifier shown : List Char} {taken arguments : List Cell}
  {specifiers : List (List Char)}

theorem Shows.redacted (shows : Shows specifier taken shown) (formed : IsSpecifier specifier) :
    taken.length = slots specifier ∧
      ∃ other, Shows specifier (taken.map Message.redactedArgument) other := by
  have done := shows 0 [] []
  rw [List.append_nil, List.append_nil] at done
  have doubled : (specifier ++ []).head? ≠ some '%' := formed.head?_ne formed.percent_notMem []
  rw [List.append_nil] at doubled
  obtain ⟨same, takenToo, split, splitToo, _, count, _, redacted⟩ := directive_shows doubled done
  rw [List.append_nil] at split splitToo
  rw [split, splitToo]
  exact ⟨count, redacted⟩

theorem Serves.redacted (serves : Serves specifiers arguments) :
    Serves specifiers (arguments.map Message.redactedArgument) := by
  induction serves with
  | done => exact .done
  | more formed shows _ inductionHypothesis =>
      obtain ⟨other, shown⟩ := (shows.redacted formed).2
      rw [List.map_append]
      exact .more formed shown inductionHypothesis

theorem Serves.length (serves : Serves specifiers arguments) :
    arguments.length = (specifiers.map slots).sum := by
  induction serves with
  | done => rfl
  | more formed shows _ inductionHypothesis =>
      rw [List.length_append, inductionHypothesis, (shows.redacted formed).1, List.map_cons,
        List.sum_cons]

private theorem sum_slots_le {kept : List (List Char)} (sublist : kept.Sublist specifiers) :
    (kept.map slots).sum ≤ (specifiers.map slots).sum := by
  induction sublist with
  | slnil => exact Nat.le_refl _
  | cons specifier _ inductionHypothesis =>
      rw [List.map_cons, List.sum_cons]
      exact Nat.le_trans inductionHypothesis (Nat.le_add_left _ _)
  | cons_cons specifier _ inductionHypothesis =>
      rw [List.map_cons, List.map_cons, List.sum_cons, List.sum_cons]
      exact Nat.add_le_add_left inductionHypothesis _

theorem eq_of_sublist_slots {kept : List (List Char)} (sublist : kept.Sublist specifiers)
    (same : (kept.map slots).sum = (specifiers.map slots).sum) : kept = specifiers := by
  induction sublist with
  | slnil => rfl
  | cons specifier sublist _ =>
      have fewer := sum_slots_le sublist
      rw [List.map_cons, List.sum_cons, slots] at same
      omega
  | cons_cons specifier _ inductionHypothesis =>
      rw [List.map_cons, List.map_cons, List.sum_cons, List.sum_cons] at same
      rw [inductionHypothesis (Nat.add_left_cancel same)]

private theorem IsSpecifier.eq_of_append {other rest restToo : List Char}
    (formed : IsSpecifier specifier)
    (formedToo : IsSpecifier other) (same : specifier ++ rest = other ++ restToo) :
    specifier = other ∧ rest = restToo := by
  obtain ⟨body, letter, rfl, modifiers, known⟩ := formed
  obtain ⟨bodyToo, letterToo, rfl, modifiersToo, knownToo⟩ := formedToo
  have stops {letter : Char} (known : isDirectiveLetter letter = true) :
      ¬ isModifier letter = true :=
    ne_true_of_eq_false (isModifier_of_isDirectiveLetter known)
  simp only [List.append_assoc, List.singleton_append] at same
  have bodies := congrArg (List.takeWhile isModifier) same
  rw [takeWhile_stop modifiers (stops known), takeWhile_stop modifiersToo (stops knownToo)]
    at bodies
  subst bodies
  obtain ⟨rfl, rest⟩ := List.cons.inj (List.append_cancel_left same)
  exact ⟨rfl, rest⟩

theorem Directives.unique {template : List Char} {others : List (List Char)}
    (parsed : Directives template specifiers) (parsedToo : Directives template others) :
    specifiers = others := by
  have undoubled {specifier rest more : List Char} (formed : IsSpecifier specifier)
      (same : '%' :: more = specifier ++ rest) : False := by
    exact formed.head?_ne formed.percent_notMem rest (same ▸ rfl)
  induction parsed generalizing others with
  | done =>
      cases parsedToo
      rfl
  | plain plain _ inductionHypothesis =>
      cases parsedToo with
      | plain _ later => exact inductionHypothesis later
      | doubled => exact absurd rfl plain
      | directive => exact absurd rfl plain
  | doubled _ inductionHypothesis =>
      generalize same : '%' :: '%' :: _ = template at parsedToo
      cases parsedToo with
      | done => cases same
      | plain plain _ => exact absurd (List.cons.inj same).1.symm plain
      | doubled later =>
          obtain rfl := (List.cons.inj (List.cons.inj same).2).2
          exact inductionHypothesis later
      | directive formed _ => exact (undoubled formed (List.cons.inj same).2).elim
  | directive formed _ inductionHypothesis =>
      generalize same : '%' :: (_ ++ _) = template at parsedToo
      cases parsedToo with
      | done => cases same
      | plain plain _ => exact absurd (List.cons.inj same).1.symm plain
      | doubled => exact (undoubled formed (List.cons.inj same).2.symm).elim
      | directive formedToo later =>
          obtain ⟨rfl, rfl⟩ := formed.eq_of_append formedToo (List.cons.inj same).2
          rw [inductionHypothesis later]

end Arguments

/-! ### What redaction takes away -/

inductive Covers : List Char → List Char → Prop
  | done : Covers [] []
  | keep (character : Char) {rest hidden : List Char} (later : Covers rest hidden) :
      Covers (character :: rest) (character :: hidden)
  | cover {before covered written rest hidden : List Char} {sign : Char}
      (blank : ∀ character ∈ before, isBlank character = true) (signed : IsSign sign)
      (plain : ∀ character ∈ written, character ≠ '%') (ends : rest.head? ≠ some '%')
      (later : Covers rest hidden) :
      Covers (before ++ sign :: (covered ++ rest)) (written ++ hidden)

section Covering

variable {text rest hidden scanned : List Char} {specifiers : List (List Char)}

theorem Covers.append (front : List Char) (covers : Covers text hidden) :
    Covers (front ++ text) (front ++ hidden) := by
  induction front with
  | nil => exact covers
  | cons character front inductionHypothesis => exact .keep character inductionHypothesis

theorem covers_nil (covers : Covers [] hidden) : hidden = [] := by
  generalize same : [] = text at covers
  cases covers with
  | done => rfl
  | keep => cases same
  | cover => exact absurd same.symm (List.append_ne_nil_of_right_ne_nil _ (List.cons_ne_nil _ _))

/-- The first character of a text stays, or is covered with all that stands in front of some
later part. -/
theorem Covers.cons_cases {character : Char} (covers : Covers (character :: rest) hidden) :
    (∃ later, hidden = character :: later ∧ Covers rest later) ∨
      ∃ part written later, part <:+ rest ∧ part.head? ≠ some '%' ∧
        (∀ character ∈ written, character ≠ '%') ∧ hidden = written ++ later ∧
        Covers part later := by
  generalize same : character :: rest = text at covers
  cases covers with
  | done => cases same
  | keep _ later =>
      obtain ⟨rfl, rfl⟩ := List.cons.inj same
      exact .inl ⟨_, rfl, later⟩
  | @cover before covered written part hidden sign _ _ plain ends later =>
      have suffix : part <:+ character :: rest :=
        same ▸ ((List.suffix_append covered part).trans (List.suffix_cons sign _)).trans
          (List.suffix_append before _)
      refine .inr ⟨part, written, hidden, ?_, ends, plain, rfl, later⟩
      refine (List.suffix_cons_iff.mp suffix).resolve_left fun whole => ?_
      have long := congrArg List.length same
      rw [← whole] at long
      simp only [List.length_append, List.length_cons] at long
      omega

theorem ClosesValue.head?_ne (closes : ClosesValue rest) : rest.head? ≠ some '%' := by
  intro first
  exact absurd (closes '%' first) (by decide)

theorem SecretSpan.covers {written : List Char} (span : SecretSpan text written rest)
    (covers : Covers rest hidden) : Covers text (written ++ hidden) := by
  have plain : ∀ character ∈ '=' :: mask, character ≠ '%' := ne_of_all (by decide)
  cases span with
  | @span name before after value rest sign _ _ blankBefore signed _ _ _ closes =>
      have covered : Covers (before ++ sign :: ((after ++ value) ++ rest))
          ('=' :: mask ++ hidden) := .cover blankBefore signed plain closes.head?_ne covers
      rw [List.append_assoc] at covered ⊢
      exact covered.append name

theorem covers_of_scan (scan : Scan secret? text scanned) : Covers text scanned := by
  induction scan with
  | done => exact .done
  | keep _ _ inductionHypothesis => exact .keep _ inductionHypothesis
  | replace found remains _ inductionHypothesis =>
      have span := (secret?_span found).1
      rw [remains] at span
      exact span.covers inductionHypothesis

theorem covers_of_hides (hides : Hides text hidden) : Covers text hidden := by
  induction hides with
  | done => exact .done
  | keep character _ inductionHypothesis => exact .keep character inductionHypothesis
  | @hide password rest hidden _ _ _ inductionHypothesis =>
      have plain : ∀ character ∈ ':' :: mask, character ≠ '%' := ne_of_all (by decide)
      exact .cover (List.forall_mem_nil _) (.inl rfl) plain (show some '@' ≠ some '%' by decide)
        (.keep '@' inductionHypothesis)

private theorem unsigned_ne_cover {body before covered : List Char} {letter sign : Char}
    (unsigned : ∀ character ∈ body ++ [letter], ¬ IsSign character)
    (unblank : isBlank letter = false) (blank : ∀ character ∈ before, isBlank character = true)
    (signed : IsSign sign) : body ++ letter :: rest ≠ before ++ sign :: covered := by
  intro same
  have filled : (body ++ [letter]).dropWhile isBlank ≠ [] := by
    rw [Ne, List.dropWhile_eq_nil_iff]
    intro all
    rw [all letter (List.mem_append_right _ (.head _))] at unblank
    cases unblank
  have front := congrArg (List.dropWhile isBlank) same
  rw [dropWhile_stop blank (ne_true_of_eq_false signed.unblank), ← List.singleton_append,
    ← List.append_assoc, List.dropWhile_append, if_neg (by rwa [List.isEmpty_iff])] at front
  obtain ⟨first, more, remains⟩ := List.exists_cons_of_ne_nil filled
  rw [remains] at front
  obtain ⟨rfl, _⟩ := List.cons.inj front
  have member : first ∈ body ++ [letter] :=
    (List.dropWhile_suffix _).mem (remains ▸ List.mem_cons_self)
  exact unsigned first member signed

/-- Nothing is covered in front of a character that is neither blank nor a sign, when no sign
stands before it. -/
theorem Covers.front {body : List Char} {letter : Char}
    (unsigned : ∀ character ∈ body ++ [letter], ¬ IsSign character)
    (unblank : isBlank letter = false) (covers : Covers (body ++ letter :: rest) hidden) :
    ∃ later, hidden = body ++ letter :: later ∧ Covers rest later := by
  induction body generalizing hidden with
  | nil =>
      generalize same : [] ++ letter :: rest = text at covers
      cases covers with
      | done => cases same
      | keep character later =>
          obtain ⟨rfl, rfl⟩ := List.cons.inj same
          exact ⟨_, rfl, later⟩
      | cover blank signed => exact absurd same (unsigned_ne_cover unsigned unblank blank signed)
  | cons character body inductionHypothesis =>
      generalize same : character :: body ++ letter :: rest = text at covers
      cases covers with
      | done => cases same
      | keep _ later =>
          obtain ⟨rfl, rfl⟩ := List.cons.inj same
          obtain ⟨behind, rfl, covers⟩ := inductionHypothesis
            (fun other member => unsigned other (.tail _ member)) later
          exact ⟨behind, rfl, covers⟩
      | cover blank signed => exact absurd same (unsigned_ne_cover unsigned unblank blank signed)

/-! A directive is covered whole, or its percent sign is: then the rest of it is plain text. -/

theorem IsSpecifier.unsigned {specifier : List Char} (formed : IsSpecifier specifier) :
    ∀ character ∈ specifier, ¬ IsSign character := by
  rintro character member (rfl | rfl)
  · exact formed.notMem (by decide) (by decide) member
  · exact formed.notMem (by decide) (by decide) member

private theorem isBlank_of_isDirectiveLetter {character : Char}
    (letter : isDirectiveLetter character = true) : isBlank character = false :=
  eq_false_of_isDirectiveLetter (by decide) letter

theorem IsSpecifier.suffix {specifier part : List Char} (formed : IsSpecifier specifier)
    (ends : part <:+ specifier) (filled : part ≠ []) : IsSpecifier part := by
  obtain ⟨body, letter, rfl, modifiers, known⟩ := formed
  obtain ⟨body, rfl, inside⟩ := (List.suffix_concat_iff.mp ends).resolve_left filled
  exact ⟨body, letter, rfl, fun character member => modifiers character (inside.mem member), known⟩

theorem Covers.specifier {specifier : List Char} (formed : IsSpecifier specifier)
    (covers : Covers (specifier ++ rest) hidden) :
    ∃ later, hidden = specifier ++ later ∧ Covers rest later := by
  have unsigned := formed.unsigned
  obtain ⟨body, letter, rfl, _, known⟩ := formed
  rw [List.append_assoc] at covers
  obtain ⟨later, rfl, behind⟩ := covers.front unsigned (isBlank_of_isDirectiveLetter known)
  exact ⟨later, by rw [List.append_assoc]; rfl, behind⟩

theorem Covers.percent (covers : Covers ('%' :: rest) hidden) :
    ∃ later, hidden = '%' :: later ∧ Covers rest later :=
  have unsigned : ∀ character ∈ [] ++ ['%'], ¬ IsSign character :=
    List.forall_mem_singleton.mpr (by decide)
  covers.front unsigned (by decide)

theorem Directives.prepend {front : List Char} (plain : ∀ character ∈ front, character ≠ '%')
    (parsed : Directives text specifiers) : Directives (front ++ text) specifiers := by
  induction front with
  | nil => exact parsed
  | cons character front inductionHypothesis =>
      obtain ⟨first, others⟩ := List.forall_mem_cons.mp plain
      exact .plain first (inductionHypothesis others)

/-- A text of which some directives are left wherever it is covered. -/
def LeavesDirectives (specifiers : List (List Char)) (text : List Char) : Prop :=
  ∀ hidden, Covers text hidden → ∃ kept, kept.Sublist specifiers ∧ Directives hidden kept

theorem Directives.leaves (parsed : Directives text specifiers) :
    LeavesDirectives specifiers text ∧
      ∀ part, part <:+ text → part.head? ≠ some '%' → LeavesDirectives specifiers part := by
  induction parsed with
  | done =>
      have whole : LeavesDirectives [] [] := by
        intro hidden covers
        rw [covers_nil covers]
        exact ⟨[], .slnil, .done⟩
      refine ⟨whole, fun part ends _ => ?_⟩
      rw [List.suffix_nil.mp ends]
      exact whole
  | @plain character rest specifiers plain _ inductionHypothesis =>
      obtain ⟨first, later⟩ := inductionHypothesis
      have whole : LeavesDirectives specifiers (character :: rest) := by
        intro hidden covers
        rcases covers.cons_cases with ⟨behind, rfl, after⟩ |
          ⟨part, written, behind, inside, ends, unpercented, rfl, after⟩
        · obtain ⟨kept, sublist, parsed⟩ := first behind after
          exact ⟨kept, sublist, .plain plain parsed⟩
        · obtain ⟨kept, sublist, parsed⟩ := later part inside ends behind after
          exact ⟨kept, sublist, parsed.prepend unpercented⟩
      exact ⟨whole, forall_suffix_cons (fun _ => whole) later⟩
  | doubled _ inductionHypothesis =>
      obtain ⟨first, later⟩ := inductionHypothesis
      refine ⟨fun hidden covers => ?_, forall_suffix_cons (absurd rfl)
        (forall_suffix_cons (absurd rfl) later)⟩
      obtain ⟨once, rfl, single⟩ := covers.percent
      obtain ⟨twice, rfl, double⟩ := single.percent
      obtain ⟨kept, sublist, parsed⟩ := first twice double
      exact ⟨kept, sublist, .doubled parsed⟩
  | @directive specifier rest specifiers formed _ inductionHypothesis =>
      obtain ⟨first, later⟩ := inductionHypothesis
      refine ⟨fun hidden covers => ?_, forall_suffix_cons (absurd rfl)
        (forall_suffix_append (fun head ends filled _ hidden covers => ?_)
          fun part ends plain hidden covers => ?_)⟩
      · obtain ⟨opened, rfl, inside⟩ := covers.percent
        obtain ⟨behind, rfl, outside⟩ := inside.specifier formed
        obtain ⟨kept, sublist, parsed⟩ := first behind outside
        exact ⟨specifier :: kept, sublist.cons_cons _, .directive formed parsed⟩
      · have formedToo := formed.suffix ends filled
        obtain ⟨behind, rfl, outside⟩ := covers.specifier formedToo
        obtain ⟨kept, sublist, parsed⟩ := first behind outside
        have plain : ∀ character ∈ head, character ≠ '%' := by
          rintro _ member rfl
          exact formedToo.percent_notMem member
        exact ⟨kept, sublist.cons _, parsed.prepend plain⟩
      · obtain ⟨kept, sublist, parsed⟩ := later part ends plain hidden covers
        exact ⟨kept, sublist.cons _, parsed⟩

end Covering

end TableExport.Log
