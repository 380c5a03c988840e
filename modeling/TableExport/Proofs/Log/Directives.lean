import TableExport.Log.Template
import TableExport.Proofs.Log.Patterns
import TableExport.Proofs.Sequence

/-!
Directives of a template. A directive is a percent sign, modifiers, and a letter;
what it shows depends on nothing behind the letter and on no other arguments than
those it takes. It takes one argument for each asterisk and one for the letter.
Arguments of text are only ever shown, so a directive that shows an argument shows
it redacted as well.
-/

set_option autoImplicit false

namespace TableExport.Log

open TableExport.Text

/-- A character between the percent sign of a directive and its letter. -/
def isModifier (character : Char) : Bool :=
  character.isDigit || "-+ #*.hlL".toList.contains character

def isDirectiveLetter (character : Char) : Bool :=
  "sradiuxXoeEfFgGc".toList.contains character

/-- What stands behind the percent sign of a directive. -/
def IsSpecifier (specifier : List Char) : Prop :=
  ∃ body letter, specifier = body ++ [letter] ∧
    (∀ character ∈ body, isModifier character = true) ∧ isDirectiveLetter letter = true

def slots (specifier : List Char) : Nat :=
  specifier.count '*' + 1

/-- A directive shows the arguments it takes, whatever follows them and whatever follows it. -/
def Shows (specifier : List Char) (taken : List Cell) (shown : List Char) : Prop :=
  ∀ length rest later,
    directive length (specifier ++ rest) (taken ++ later) = .ok (shown, rest, later)

/-! ### Stages of a directive -/

abbrev Staged := Except TemplateFault (Layout × List Char × List Cell)

def prepare (text : List Char) (arguments : List Cell) : Staged := do
  let (layout, text) := takeFlags Layout.plain text
  let (layout, text, arguments) ← takeWidth layout text arguments
  let (layout, text, arguments) ← takePrecision layout text arguments
  pure (layout, dropSizeLetter text, arguments)

def conclude (length : Nat) (layout : Layout) (text : List Char) (arguments : List Cell) :
    Except TemplateFault (List Char × List Char × List Cell) :=
  match text with
  | [] => throw .incomplete
  | letter :: rest =>
      match arguments with
      | [] => throw .tooFew
      | cell :: arguments => do
          let room := if layout.isTooWide then { layout with width := 0 } else layout
          let shown ← shownBy letter (length - (rest.length + 1)) room cell
          if layout.isTooWide then throw .tooLong
          pure (shown, rest, arguments)

private theorem directive_eq {text : List Char} (length : Nat) (opened : text.head? ≠ some '(')
    (doubled : text.head? ≠ some '%') (arguments : List Cell) :
    directive length text arguments =
      (do
        let (layout, text, arguments) ← prepare text arguments
        conclude length layout text arguments) := by
  unfold directive prepare
  rw [if_neg (by rwa [beq_iff_eq]), if_neg (by rwa [beq_iff_eq])]
  dsimp only
  cases takeWidth (takeFlags Layout.plain text).1 (takeFlags Layout.plain text).2 arguments with
  | error fault => rfl
  | ok answer =>
      obtain ⟨layout, text, arguments⟩ := answer
      rw [Sequence.ok_bind, Sequence.ok_bind]
      dsimp only
      cases takePrecision layout text arguments with
      | error fault => rfl
      | ok answer => rfl

def flagged? (layout : Layout) (character : Char) : Option Layout :=
  if character == '-' then some { layout with left := true }
  else if character == '+' then some { layout with plus := true }
  else if character == ' ' then some { layout with space := true }
  else if character == '#' then some { layout with alternate := true }
  else if character == '0' then some { layout with zeros := true }
  else none

private theorem takeFlags_cons (layout : Layout) (character : Char) (rest : List Char) :
    takeFlags layout (character :: rest) =
      match flagged? layout character with
      | some layout => takeFlags layout rest
      | none => (layout, character :: rest) := by
  rw [takeFlags, flagged?]
  split
  · rfl
  split
  · rfl
  split
  · rfl
  split
  · rfl
  split
  · rfl
  · rfl

private theorem takeWidth_star (layout : Layout) (rest : List Char) (arguments : List Cell) :
    takeWidth layout ('*' :: rest) arguments =
      (do
        let (width, arguments) ← starValue widthLimit .widthNotWord arguments
        pure ({ layout with
          left := layout.left || width < 0
          width := widthOf width }, rest, arguments)) := rfl

private theorem takeWidth_digits {text : List Char} (layout : Layout)
    (unstarred : text.head? ≠ some '*')
    (arguments : List Cell) :
    takeWidth layout text arguments =
      if widthLimit < (takeNumber 0 text).1 then .error .widthTooLarge
      else .ok ({ layout with width := (takeNumber 0 text).1 }, (takeNumber 0 text).2,
        arguments) := by
  unfold takeWidth
  split
  · exact absurd rfl unstarred
  · rfl

private theorem takePrecision_star (layout : Layout) (rest : List Char) (arguments : List Cell) :
    takePrecision layout ('.' :: '*' :: rest) arguments =
      (do
        let (precision, arguments) ← starValue precisionLimit .precisionNotWord arguments
        pure ({ layout with precision := some precision.toNat }, rest, arguments)) := rfl

private theorem takePrecision_digits {text : List Char} (layout : Layout)
    (unstarred : text.head? ≠ some '*') (arguments : List Cell) :
    takePrecision layout ('.' :: text) arguments =
      if precisionLimit < (takeNumber 0 text).1 then .error .precisionTooLarge
      else .ok ({ layout with precision := some (takeNumber 0 text).1 }, (takeNumber 0 text).2,
        arguments) := by
  unfold takePrecision
  split
  · rename_i same
    exact absurd (congrArg List.head? (List.cons.inj same).2) unstarred
  · rename_i same
    rw [(List.cons.inj same).2]
  · rename_i undotted
    exact absurd rfl (undotted _)

private theorem takePrecision_none {text : List Char} (layout : Layout)
    (undotted : text.head? ≠ some '.')
    (arguments : List Cell) :
    takePrecision layout text arguments = .ok (layout, text, arguments) := by
  unfold takePrecision
  split
  · exact absurd rfl undotted
  · exact absurd rfl undotted
  · rfl

def appended (behind : List Char) (staged : Staged) : Staged :=
  staged.map fun (layout, text, arguments) => (layout, text ++ behind, arguments)

/-! ### Nothing behind the letter is read -/

section Letters

variable {letter : Char}

structure EndsStages (letter : Char) : Prop where
  unflagged : ∀ layout, flagged? layout letter = none
  undigited : letter.isDigit = false
  unstarred : letter ≠ '*'
  undotted : letter ≠ '.'
  sizeless : (letter == 'h' || letter == 'l' || letter == 'L') = false

private theorem endsStages_of_not_isModifier (plain : isModifier letter = false) :
    EndsStages letter := by
  have toList : "-+ #*.hlL".toList = ['-', '+', ' ', '#', '*', '.', 'h', 'l', 'L'] := rfl
  rw [isModifier, Bool.or_eq_false_iff, toList] at plain
  obtain ⟨undigited, others⟩ := plain
  simp only [List.contains_cons, List.contains_nil, Bool.or_false, Bool.or_eq_false_iff] at others
  obtain ⟨left, plus, space, alternate, star, dot, half, long, longer⟩ := others
  have zero : (letter == '0') = false := by
    rw [beq_eq_false_iff_ne]
    rintro rfl
    cases undigited
  refine ⟨fun layout => ?_, undigited, ne_of_beq_false star, ne_of_beq_false dot, ?_⟩
  · rw [flagged?, left, plus, space, alternate, zero]
    rfl
  · rw [half, long, longer]
    rfl

variable (ends : EndsStages letter) (rest : List Char)
include ends

private theorem takeFlags_append (layout : Layout) (body : List Char) :
    takeFlags layout (body ++ letter :: rest) =
      ((takeFlags layout body).1, (takeFlags layout body).2 ++ letter :: rest) := by
  induction body generalizing layout with
  | nil =>
      rw [List.nil_append, takeFlags_cons, ends.unflagged]
      rfl
  | cons character body inductionHypothesis =>
      rw [List.cons_append, takeFlags_cons, takeFlags_cons]
      cases flagged? layout character with
      | none => rfl
      | some layout => exact inductionHypothesis layout

private theorem takeNumber_append (value : Nat) (body : List Char) :
    takeNumber value (body ++ letter :: rest) =
      ((takeNumber value body).1, (takeNumber value body).2 ++ letter :: rest) := by
  induction body generalizing value with
  | nil =>
      exact if_neg (ne_true_of_eq_false ends.undigited)
  | cons character body inductionHypothesis =>
      rw [List.cons_append, takeNumber, takeNumber]
      split
      · exact inductionHypothesis _
      · rfl

omit ends in
private theorem head?_append_ne {separator : Char} {body : List Char}
    (different : letter ≠ separator)
    (unopened : body.head? ≠ some separator) :
    (body ++ letter :: rest).head? ≠ some separator := by
  cases body with
  | nil => exact fun same => different (Option.some.inj same)
  | cons character body => exact unopened

private theorem takeWidth_append (layout : Layout) (body : List Char) (arguments : List Cell) :
    takeWidth layout (body ++ letter :: rest) arguments =
      appended (letter :: rest) (takeWidth layout body arguments) := by
  by_cases starred : body.head? = some '*'
  · obtain ⟨body, rfl⟩ := List.head?_eq_some_iff.mp starred
    rw [List.cons_append, takeWidth_star, takeWidth_star]
    cases starValue widthLimit .widthNotWord arguments with
    | error fault => rfl
    | ok answer => rfl
  · rw [takeWidth_digits layout starred,
      takeWidth_digits layout (head?_append_ne rest ends.unstarred starred),
      takeNumber_append ends]
    dsimp only
    split
    · rfl
    · rfl

private theorem takePrecision_append (layout : Layout) (body : List Char) (arguments : List Cell) :
    takePrecision layout (body ++ letter :: rest) arguments =
      appended (letter :: rest) (takePrecision layout body arguments) := by
  by_cases dotted : body.head? = some '.'
  · obtain ⟨body, rfl⟩ := List.head?_eq_some_iff.mp dotted
    rw [List.cons_append]
    by_cases starred : body.head? = some '*'
    · obtain ⟨body, rfl⟩ := List.head?_eq_some_iff.mp starred
      rw [List.cons_append, takePrecision_star, takePrecision_star]
      cases starValue precisionLimit .precisionNotWord arguments with
      | error fault => rfl
      | ok answer => rfl
    · rw [takePrecision_digits layout starred,
        takePrecision_digits layout (head?_append_ne rest ends.unstarred starred),
        takeNumber_append ends]
      dsimp only
      split
      · rfl
      · rfl
  · rw [takePrecision_none layout dotted,
      takePrecision_none layout (head?_append_ne rest ends.undotted dotted)]
    rfl

private theorem dropSizeLetter_append (body : List Char) :
    dropSizeLetter (body ++ letter :: rest) = dropSizeLetter body ++ letter :: rest := by
  cases body with
  | nil => rw [List.nil_append, dropSizeLetter, if_neg (ne_true_of_eq_false ends.sizeless)]; rfl
  | cons character body =>
      rw [List.cons_append, dropSizeLetter, dropSizeLetter]
      split
      · rfl
      · rfl

private theorem prepare_append (body : List Char) (arguments : List Cell) :
    prepare (body ++ letter :: rest) arguments =
      appended (letter :: rest) (prepare body arguments) := by
  unfold prepare
  rw [takeFlags_append ends]
  dsimp only
  rw [takeWidth_append ends]
  cases takeWidth (takeFlags Layout.plain body).1 (takeFlags Layout.plain body).2 arguments with
  | error fault => rfl
  | ok answer =>
      obtain ⟨layout, text, arguments⟩ := answer
      simp only [appended, Sequence.ok_bind, Except.map]
      rw [takePrecision_append ends]
      cases takePrecision layout text arguments with
      | error fault => rfl
      | ok answer =>
          obtain ⟨layout, text, arguments⟩ := answer
          simp only [appended, Sequence.ok_bind, Except.map, dropSizeLetter_append ends]
          rfl

end Letters

/-! ### What a stage takes -/

/-- A stage goes over the front of a text and takes an argument for each asterisk there: an integer
or a truth value, which redaction keeps. -/
structure Takes (stage : List Cell → Staged) (text : List Char) (arguments : List Cell)
    (layout : Layout) (left : List Char) (later : List Cell) (taken : List Cell) : Prop where
  front : left <:+ text
  arguments : arguments = taken ++ later
  stars : text.count '*' = taken.length + left.count '*'
  kept : taken.map Message.redactedArgument = taken
  again : ∀ others, stage (taken ++ others) = .ok (layout, left, others)

section Taking

variable {layout result : Layout} {text left : List Char} {arguments later : List Cell}

private theorem takes_none {stage : List Cell → Staged} (front : left <:+ text)
    (stars : text.count '*' = left.count '*')
    (again : ∀ others, stage others = .ok (result, left, others)) :
    Takes stage text later result left later [] :=
  ⟨front, rfl, by rw [stars, List.length_nil, Nat.zero_add], rfl, again⟩

private theorem takeFlags_suffix (layout : Layout) (text : List Char) :
    (takeFlags layout text).2 <:+ text ∧
      text.count '*' = (takeFlags layout text).2.count '*' := by
  induction text generalizing layout with
  | nil => exact ⟨List.suffix_refl _, rfl⟩
  | cons character rest inductionHypothesis =>
      rw [takeFlags_cons]
      cases flag : flagged? layout character with
      | none => exact ⟨List.suffix_refl _, rfl⟩
      | some layout =>
          obtain ⟨ends, stars⟩ := inductionHypothesis layout
          refine ⟨ends.trans (List.suffix_cons _ _), ?_⟩
          rw [List.count_cons_of_ne, stars]
          rintro rfl
          cases flag

private theorem takeNumber_suffix (value : Nat) (text : List Char) :
    (takeNumber value text).2 <:+ text ∧
      text.count '*' = (takeNumber value text).2.count '*' := by
  induction text generalizing value with
  | nil => exact ⟨List.suffix_refl _, rfl⟩
  | cons character rest inductionHypothesis =>
      rw [takeNumber]
      split
      · rename_i digit
        obtain ⟨ends, stars⟩ := inductionHypothesis (10 * value + (character.toNat - 48))
        refine ⟨ends.trans (List.suffix_cons _ _), ?_⟩
        rw [List.count_cons_of_ne, stars]
        rintro rfl
        cases digit
      · exact ⟨List.suffix_refl _, rfl⟩

private theorem starValue_ok {limit : Nat} {fault : TemplateFault} {value : Int}
    (found : starValue limit fault arguments = .ok (value, later)) :
    ∃ cell, arguments = cell :: later ∧ Message.redactedArgument cell = cell ∧
      ∀ others, starValue limit fault (cell :: others) = .ok (value, others) := by
  unfold starValue at found
  split at found
  · cases found
  · split at found
    · rename_i within
      cases found
      exact ⟨_, rfl, rfl, fun others => if_pos within⟩
    · cases found
  · cases found
    exact ⟨_, rfl, rfl, fun others => rfl⟩
  · cases found

private theorem takeWidth_ok (read : takeWidth layout text arguments = .ok (result, left, later)) :
    ∃ taken, Takes (takeWidth layout text) text arguments result left later taken := by
  by_cases starred : text.head? = some '*'
  · obtain ⟨rest, rfl⟩ := List.head?_eq_some_iff.mp starred
    rw [takeWidth_star, Sequence.bind_ok_iff] at read
    obtain ⟨⟨width, remaining⟩, found, same⟩ := read
    cases same
    obtain ⟨cell, rfl, kept, again⟩ := starValue_ok found
    refine ⟨[cell], List.suffix_cons _ _, rfl, ?_, ?_, fun others => ?_⟩
    · rw [List.count_cons_self, List.length_singleton, Nat.add_comm]
    · rw [List.map_singleton, kept]
    · rw [List.singleton_append, takeWidth_star, again]
      rfl
  · rw [takeWidth_digits layout starred] at read
    split at read
    · cases read
    · rename_i small
      cases read
      obtain ⟨ends, stars⟩ := takeNumber_suffix 0 text
      refine ⟨[], takes_none ends stars fun others => ?_⟩
      rw [takeWidth_digits layout starred]
      exact if_neg small

private theorem takePrecision_ok
    (read : takePrecision layout text arguments = .ok (result, left, later)) :
    ∃ taken, Takes (takePrecision layout text) text arguments result left later taken := by
  by_cases dotted : text.head? = some '.'
  · obtain ⟨rest, rfl⟩ := List.head?_eq_some_iff.mp dotted
    by_cases starred : rest.head? = some '*'
    · obtain ⟨rest, rfl⟩ := List.head?_eq_some_iff.mp starred
      rw [takePrecision_star, Sequence.bind_ok_iff] at read
      obtain ⟨⟨precision, remaining⟩, found, same⟩ := read
      cases same
      obtain ⟨cell, rfl, kept, again⟩ := starValue_ok found
      refine ⟨[cell], ⟨['.', '*'], rfl⟩, rfl, ?_, ?_, fun others => ?_⟩
      · rw [List.count_cons_of_ne (by decide), List.count_cons_self, List.length_singleton,
          Nat.add_comm]
      · rw [List.map_singleton, kept]
      · rw [List.singleton_append, takePrecision_star, again]
        rfl
    · rw [takePrecision_digits layout starred] at read
      split at read
      · cases read
      · rename_i small
        cases read
        obtain ⟨ends, stars⟩ := takeNumber_suffix 0 rest
        refine ⟨[], takes_none (ends.trans (List.suffix_cons _ _)) ?_ fun others => ?_⟩
        · rw [List.count_cons_of_ne (by decide), stars]
        · rw [takePrecision_digits layout starred]
          exact if_neg small
  · rw [takePrecision_none layout dotted] at read
    cases read
    exact ⟨[], takes_none (List.suffix_refl _) rfl fun others => takePrecision_none layout dotted _⟩

private theorem dropSizeLetter_suffix (text : List Char) :
    dropSizeLetter text <:+ text ∧ text.count '*' = (dropSizeLetter text).count '*' := by
  cases text with
  | nil => exact ⟨List.suffix_refl _, rfl⟩
  | cons character rest =>
      rw [dropSizeLetter]
      split
      · rename_i size
        refine ⟨List.suffix_cons _ _, List.count_cons_of_ne ?_⟩
        rintro rfl
        cases size
      · exact ⟨List.suffix_refl _, rfl⟩

private theorem prepare_ok (read : prepare text arguments = .ok (result, left, later)) :
    ∃ taken, Takes (prepare text) text arguments result left later taken := by
  unfold prepare at read
  dsimp only at read
  rw [Sequence.bind_ok_iff] at read
  obtain ⟨⟨first, behindFirst, laterFirst⟩, width, read⟩ := read
  dsimp only at read
  rw [Sequence.bind_ok_iff] at read
  obtain ⟨⟨second, behindSecond, laterSecond⟩, precision, same⟩ := read
  cases same
  obtain ⟨one, wide⟩ := takeWidth_ok width
  obtain ⟨other, precise⟩ := takePrecision_ok precision
  obtain ⟨flags, flagStars⟩ := takeFlags_suffix Layout.plain text
  obtain ⟨size, sizeStars⟩ := dropSizeLetter_suffix behindSecond
  refine ⟨one ++ other, ((size.trans precise.front).trans wide.front).trans flags, ?_, ?_, ?_, ?_⟩
  · rw [wide.arguments, precise.arguments, List.append_assoc]
  · rw [flagStars, wide.stars, precise.stars, sizeStars, List.length_append, Nat.add_assoc]
  · rw [List.map_append, wide.kept, precise.kept]
  · intro others
    unfold prepare
    dsimp only
    rw [List.append_assoc, wide.again, Sequence.ok_bind]
    dsimp only
    rw [precise.again, Sequence.ok_bind]
    rfl

end Taking

/-! ### The letter -/

section Concluding

variable {letter : Char} {layout : Layout} {cell : Cell} {shown : List Char}

theorem isDirectiveLetter_eq (letter : Char) :
    isDirectiveLetter letter =
      (letter == 's' || (letter == 'r' || (letter == 'a' ||
        ((letter == 'd' || letter == 'i' || letter == 'u') ||
          ((letter == 'x' || letter == 'X' || letter == 'o') ||
            ("eEfFgG".toList.contains letter || letter == 'c')))))) := by
  have groups : "sradiuxXoeEfFgGc".toList =
    ['s'] ++ (['r'] ++ (['a'] ++ (['d', 'i', 'u'] ++ (['x', 'X', 'o'] ++
      ("eEfFgG".toList ++ ['c']))))) := rfl
  have three (first second third : Char) : [first, second, third].contains letter =
      (letter == first || letter == second || letter == third) := by
    rw [List.contains_cons, List.contains_cons, List.contains_cons, List.contains_nil,
      Bool.or_false, Bool.or_assoc]
  have one (only : Char) : [only].contains letter = (letter == only) := by
    rw [List.contains_cons, List.contains_nil, Bool.or_false]
  simp only [isDirectiveLetter, groups, List.contains_append, one, three]

private theorem shownBy_of_not_letter (unknown : isDirectiveLetter letter = false) (index : Nat) :
    shownBy letter index layout cell = .error (.unsupported letter index) := by
  rw [isDirectiveLetter_eq] at unknown
  obtain ⟨s, unknown⟩ := Bool.or_eq_false_iff.mp unknown
  obtain ⟨r, unknown⟩ := Bool.or_eq_false_iff.mp unknown
  obtain ⟨a, unknown⟩ := Bool.or_eq_false_iff.mp unknown
  obtain ⟨whole, unknown⟩ := Bool.or_eq_false_iff.mp unknown
  obtain ⟨exact, unknown⟩ := Bool.or_eq_false_iff.mp unknown
  obtain ⟨real, c⟩ := Bool.or_eq_false_iff.mp unknown
  unfold shownBy
  rw [s, r, a, whole, exact, real, c]
  rfl

private theorem shownBy_letter {index : Nat}
    (found : shownBy letter index layout cell = .ok shown) :
    isDirectiveLetter letter = true := by
  by_contra unknown
  rw [shownBy_of_not_letter (Bool.eq_false_iff.mpr unknown)] at found
  cases found

/-- The place of a directive only shows when its letter is unknown. -/
theorem shownBy_index {index : Nat} (found : shownBy letter index layout cell = .ok shown)
    (other : Nat) : shownBy letter other layout cell = .ok shown := by
  have known := shownBy_letter found
  rw [← found]
  unfold shownBy
  refine ite_congr rfl (fun _ => rfl) fun s => ?_
  refine ite_congr rfl (fun _ => rfl) fun r => ?_
  refine ite_congr rfl (fun _ => rfl) fun a => ?_
  refine ite_congr rfl (fun _ => rfl) fun whole => ?_
  refine ite_congr rfl (fun _ => rfl) fun exact => ?_
  refine ite_congr rfl (fun _ => rfl) fun real => ?_
  refine ite_congr rfl (fun _ => rfl) fun c => ?_
  rw [isDirectiveLetter_eq, Bool.eq_false_iff.mpr s, Bool.eq_false_iff.mpr r,
    Bool.eq_false_iff.mpr a, Bool.eq_false_iff.mpr whole, Bool.eq_false_iff.mpr exact,
    Bool.eq_false_iff.mpr real, Bool.eq_false_iff.mpr c] at known
  cases known

theorem SecretSpan.long {text written rest : List Char} (span : SecretSpan text written rest) :
    2 < text.length := by
  cases span with
  | span named _ _ _ _ filled =>
      have first := List.length_pos_iff.mpr named
      have last := List.length_pos_iff.mpr filled
      simp only [List.length_append, List.length_cons]
      omega

private theorem redact_singleton (character : Char) :
    redactCharacters [character] = [character] := by
  have unsecret : secret? [character] = none := by
    refine Option.eq_none_iff_forall_ne_some.mpr fun replacement found => ?_
    exact absurd (secret?_span found).1.long (show ¬ 2 < 1 by decide)
  have unaddressed : addressPassword? [character] = none := by
    refine addressPassword?_eq_none_iff.mpr fun password read => ?_
    obtain ⟨more, same⟩ := read.opens
    cases same
  unfold redactCharacters
  rw [replaceAll_of_none unsecret, replaceAll, replaceAll_of_none unaddressed, replaceAll]

private theorem redact_ofList_singleton {text : String} {character : Char}
    (single : text.toList = [character]) : redact text = text := by
  rw [redact, single, redact_singleton, ← single, String.ofList_toList]

/-- A text is shown redacted where it is shown at all. -/
theorem shownBy_redacted {index : Nat} (found : shownBy letter index layout cell = .ok shown) :
    ∃ other, shownBy letter index layout (Message.redactedArgument cell) = .ok other := by
  cases cell with
  | text text =>
      change ∃ other, shownBy letter index layout (.text (redact text)) = .ok other
      unfold shownBy at found ⊢
      by_cases s : letter == 's'
      · exact ⟨_, if_pos s⟩
      by_cases r : letter == 'r'
      · exact ⟨_, (if_neg s).trans (if_pos r)⟩
      by_cases a : letter == 'a'
      · exact ⟨_, (if_neg s).trans ((if_neg r).trans (if_pos a))⟩
      rw [if_neg s, if_neg r, if_neg a] at found ⊢
      -- no text is a number
      by_cases whole : letter == 'd' || letter == 'i' || letter == 'u'
      · rw [if_pos whole] at found
        cases found
      by_cases exact : letter == 'x' || letter == 'X' || letter == 'o'
      · rw [if_neg whole, if_pos exact] at found
        cases found
      by_cases real : "eEfFgG".toList.contains letter
      · rw [if_neg whole, if_neg exact, if_pos real] at found
        cases found
      rw [if_neg whole, if_neg exact, if_neg real] at found ⊢
      split at found
      · rename_i c
        dsimp only at found
        split at found
        · rename_i single
          rw [redact_ofList_singleton single]
          exact ⟨shown, by rw [if_pos c]; dsimp only; rw [single]; exact found⟩
        · cases found
      · cases found
  | null | boolean _ | integer _ | real _ | decimal _ | bytes _ | date _ => exact ⟨shown, found⟩

theorem conclude_ok {length : Nat} {text rest : List Char} {arguments later : List Cell}
    (read : conclude length layout text arguments = .ok (shown, rest, later)) :
    ∃ letter cell, text = letter :: rest ∧ arguments = cell :: later ∧
      isDirectiveLetter letter = true ∧
      (∀ length rest others,
        conclude length layout (letter :: rest) (cell :: others) = .ok (shown, rest, others)) ∧
      ∃ other, ∀ length rest others,
        conclude length layout (letter :: rest) (Message.redactedArgument cell :: others) =
          .ok (other, rest, others) := by
  unfold conclude at read
  split at read
  case h_1 => cases read
  rename_i letter behind
  split at read
  case h_1 => cases read
  rename_i cell others
  rw [Sequence.bind_ok_iff] at read
  obtain ⟨found, shows, read⟩ := read
  split at read
  · cases read
  · rename_i room
    cases read
    obtain ⟨other, showsToo⟩ := shownBy_redacted shows
    refine ⟨letter, cell, rfl, rfl, shownBy_letter shows, fun length rest others => ?_, other,
      fun length rest others => ?_⟩
    · unfold conclude
      dsimp only
      rw [shownBy_index shows, Sequence.ok_bind]
      exact if_neg room
    · unfold conclude
      dsimp only
      rw [shownBy_index showsToo, Sequence.ok_bind]
      exact if_neg room

end Concluding

/-! ### Directives -/

section Whole

variable {text rest : List Char} {arguments later : List Cell} {shown : List Char}

theorem eq_false_of_isDirectiveLetter {accepts : Char → Bool} {character : Char}
    (letterless : "sradiuxXoeEfFgGc".toList.any accepts = false)
    (letter : isDirectiveLetter character = true) : accepts character = false :=
  Bool.eq_false_iff.mpr (List.any_eq_false.mp letterless character (List.contains_iff_mem.mp letter))

theorem isModifier_of_isDirectiveLetter {character : Char}
    (letter : isDirectiveLetter character = true) : isModifier character = false :=
  eq_false_of_isDirectiveLetter (by decide) letter

theorem IsSpecifier.fits {specifier : List Char} (formed : IsSpecifier specifier) :
    ∀ character ∈ specifier,
      isModifier character = true ∨ isDirectiveLetter character = true := by
  obtain ⟨body, letter, rfl, modifiers, known⟩ := formed
  refine List.forall_mem_append.mpr ⟨fun character member => .inl (modifiers character member), ?_⟩
  exact List.forall_mem_singleton.mpr (.inr known)

theorem IsSpecifier.notMem {specifier : List Char} (formed : IsSpecifier specifier)
    {character : Char} (plain : isModifier character = false)
    (unknown : isDirectiveLetter character = false) : character ∉ specifier := by
  intro member
  rcases formed.fits character member with modifier | letter
  · rw [plain] at modifier
    cases modifier
  · rw [unknown] at letter
    cases letter

theorem IsSpecifier.head?_ne {specifier : List Char} (formed : IsSpecifier specifier)
    {character : Char} (absent : character ∉ specifier) (rest : List Char) :
    (specifier ++ rest).head? ≠ some character := by
  intro first
  cases specifier with
  | nil =>
      obtain ⟨body, letter, empty, _⟩ := formed
      exact absurd empty.symm (List.append_ne_nil_of_right_ne_nil _ (List.cons_ne_nil _ _))
  | cons begin specifier =>
      obtain rfl := Option.some.inj first
      exact absent List.mem_cons_self

theorem IsSpecifier.percent_notMem {specifier : List Char} (formed : IsSpecifier specifier) :
    '%' ∉ specifier :=
  formed.notMem (by decide) (by decide)

private theorem IsSpecifier.parenthesis_notMem {specifier : List Char}
    (formed : IsSpecifier specifier) :
    '(' ∉ specifier :=
  formed.notMem (by decide) (by decide)

theorem prepare_modifiers {layout : Layout} {letter : Char} {left : List Cell}
    (known : isDirectiveLetter letter = true)
    (prepared : prepare text arguments = .ok (layout, letter :: rest, left)) :
    ∃ body taken, text = body ++ letter :: rest ∧
      (∀ character ∈ body, isModifier character = true) ∧
      Takes (prepare body) body arguments layout [] left taken := by
  have split := List.takeWhile_append_dropWhile (p := isModifier) (l := text)
  have modifiers : ∀ character ∈ text.takeWhile isModifier, isModifier character = true :=
    fun _ => List.mem_takeWhile_imp
  have plain := isModifier_of_isDirectiveLetter known
  generalize text.takeWhile isModifier = body at split modifiers
  cases behind : text.dropWhile isModifier with
  | nil =>
      obtain ⟨_, takes⟩ := prepare_ok prepared
      rw [behind, List.append_nil] at split
      rw [split] at modifiers
      rw [modifiers letter (takes.front.mem (.head _))] at plain
      cases plain
  | cons first more =>
      have ends : isModifier first = false := by
        have stopped := List.head?_dropWhile_not isModifier text
        rw [behind] at stopped
        exact stopped
      rw [behind] at split
      rw [← split, prepare_append (endsStages_of_not_isModifier ends)] at prepared
      cases read : prepare body arguments with
      | error fault =>
          rw [read] at prepared
          cases prepared
      | ok answer =>
          obtain ⟨layoutToo, remains, leftToo⟩ := answer
          rw [read] at prepared
          obtain ⟨rfl, same⟩ := Prod.mk.inj (Except.ok.inj prepared)
          obtain ⟨whole, rfl⟩ := Prod.mk.inj same
          obtain ⟨taken, takes⟩ := prepare_ok read
          cases remains with
          | nil =>
              obtain ⟨rfl, rfl⟩ := List.cons.inj whole
              exact ⟨body, taken, split.symm, modifiers, takes⟩
          | cons character remains =>
              obtain ⟨rfl, _⟩ := List.cons.inj whole
              rw [modifiers character (takes.front.mem (.head _))] at plain
              cases plain

/-- A directive that can be carried out is a specifier, with the arguments it takes. -/
theorem directive_shows {length : Nat} (doubled : text.head? ≠ some '%')
    (done : directive length text arguments = .ok (shown, rest, later)) :
    ∃ specifier taken, text = specifier ++ rest ∧ arguments = taken ++ later ∧
      IsSpecifier specifier ∧ taken.length = slots specifier ∧ Shows specifier taken shown ∧
      ∃ other, Shows specifier (taken.map Message.redactedArgument) other := by
  have opened : text.head? ≠ some '(' := by
    intro opened
    unfold directive at done
    rw [if_pos (by rw [opened]; rfl)] at done
    cases done
  rw [directive_eq length opened doubled, Sequence.bind_ok_iff] at done
  obtain ⟨⟨layout, left, remaining⟩, prepared, concluded⟩ := done
  obtain ⟨letter, cell, rfl, rfl, known, again, other, againToo⟩ := conclude_ok concluded
  obtain ⟨body, taken, rfl, modifiers, takes⟩ := prepare_modifiers known prepared
  have formed : IsSpecifier (body ++ [letter]) := ⟨body, letter, rfl, modifiers, known⟩
  have plain := isModifier_of_isDirectiveLetter known
  have carried {cell : Cell} {shown : List Char} (concludes : ∀ length rest others,
      conclude length layout (letter :: rest) (cell :: others) = .ok (shown, rest, others)) :
      Shows (body ++ [letter]) (taken ++ [cell]) shown := by
    intro length rest later
    rw [directive_eq length (formed.head?_ne formed.parenthesis_notMem rest)
      (formed.head?_ne formed.percent_notMem rest), List.append_assoc, List.singleton_append,
      prepare_append (endsStages_of_not_isModifier plain), List.append_assoc,
      List.singleton_append, takes.again]
    exact concludes length rest later
  refine ⟨body ++ [letter], taken ++ [cell], ?_, ?_, formed, ?_, carried again, other, ?_⟩
  · rw [List.append_assoc, List.singleton_append]
  · rw [takes.arguments, List.append_assoc, List.singleton_append]
  · have unstarred : letter ≠ '*' := (endsStages_of_not_isModifier plain).unstarred
    rw [slots, List.count_append, takes.stars, List.count_nil, List.length_append,
      List.count_singleton, if_neg (by rwa [beq_iff_eq])]
    rfl
  · rw [List.map_append, takes.kept, List.map_singleton]
    exact carried againToo

end Whole

end TableExport.Log
