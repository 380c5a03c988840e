import TableExport.Proofs.Log.Filling

/-!
Messages whose template and arguments are redacted one by one, against redaction
of what they show. A message without arguments shows the same either way. With
arguments it can still be shown exactly when no directive of the template stood
within a secret; and it shows what redaction of the whole would show when no
secret and no address reaches from one piece of the message into the next.
-/

set_option autoImplicit false

namespace TableExport.Log

open TableExport.Text

/-! ### Texts side by side -/

/-- A search finds the same in a text as in front of another one. -/
def Closed (find? : List Char → Option Replacement) (front rest : List Char) : Prop :=
  ∀ part, part <:+ front → part ≠ [] → find? (part ++ rest) = find? part

/-- No secret and no address begins in one text and ends in the next. -/
def Apart (front rest : List Char) : Prop :=
  Closed secret? front rest ∧
    Closed addressPassword? (replaceAll secret? 0 front) (replaceAll secret? 0 rest)

instance (find? : List Char → Option Replacement) (front rest : List Char) :
    Decidable (Closed find? front rest) :=
  decidable_of_iff (∀ part ∈ front.tails, part ≠ [] → find? (part ++ rest) = find? part)
    (forall_congr' fun part => imp_congr_left (List.mem_tails part front))

instance (front rest : List Char) : Decidable (Apart front rest) :=
  inferInstanceAs (Decidable (_ ∧ _))

section Joining

variable {find? : List Char → Option Replacement} {front rest scanned : List Char}

/-- A search that replaces what it finds, and nothing behind it. -/
def IsBounded (find? : List Char → Option Replacement) : Prop :=
  ∀ text replacement, find? text = some replacement →
    0 < replacement.length ∧ replacement.length ≤ text.length

private theorem isBounded_secret? : IsBounded secret? := by
  intro text replacement found
  refine ⟨secret?_positive text replacement found, ?_⟩
  obtain ⟨_, _, _, _, _, _, rfl⟩ := secret?_eq_some found
  exact Nat.sub_le _ _

private theorem isBounded_addressPassword? : IsBounded addressPassword? := by
  intro text replacement found
  refine ⟨addressPassword?_positive text replacement found, ?_⟩
  obtain ⟨user, password, rest, ⟨named, plain, filled, signless⟩, rfl, _⟩ :=
    addressPassword?_eq_some found
  rw [addressPassword?_address named plain filled signless] at found
  cases found
  simp only [addressFrom, List.length_cons, List.length_append]
  omega

private theorem Scan.append_closed (bounded : IsBounded find?) (scan : Scan find? front scanned)
    (closed : Closed find? front rest) :
    replaceAll find? 0 (front ++ rest) = scanned ++ replaceAll find? 0 rest := by
  induction scan with
  | done => rfl
  | @keep character text scanned missing _ inductionHypothesis =>
      have first := closed _ (List.suffix_refl _) (List.cons_ne_nil _ _)
      rw [missing, List.cons_append] at first
      rw [List.cons_append, replaceAll_of_none first, inductionHypothesis, List.cons_append]
      exact fun part ends => closed part (ends.trans (List.suffix_cons _ _))
  | @replace text behind scanned replacement found remains _ inductionHypothesis =>
      obtain ⟨positive, within⟩ := bounded text replacement found
      cases text with
      | nil => exact absurd positive (Nat.not_lt.mpr within)
      | cons character text =>
          have first := closed _ (List.suffix_refl _) (List.cons_ne_nil _ _)
          rw [found, List.cons_append] at first
          rw [List.cons_append, replaceAll_of_some first positive, ← List.cons_append,
            List.drop_append_of_le_length within, remains, inductionHypothesis, List.append_assoc]
          exact fun part ends => closed part (ends.trans (remains ▸ List.drop_suffix _ _))

private theorem replaceAll_append (bounded : IsBounded find?) (closed : Closed find? front rest) :
    replaceAll find? 0 (front ++ rest) = replaceAll find? 0 front ++ replaceAll find? 0 rest :=
  (scan_replaceAll (fun text replacement found => (bounded text replacement found).1)
    front).append_closed bounded closed

theorem redact_append (apart : Apart front rest) :
    redactCharacters (front ++ rest) = redactCharacters front ++ redactCharacters rest := by
  unfold redactCharacters
  rw [replaceAll_append isBounded_secret? apart.1,
    replaceAll_append isBounded_addressPassword? apart.2]

end Joining

/-! ### Pieces of a message -/

/-- A template and the text that arguments make of it, in pieces that stand apart; what a directive
shows of redacted arguments is what it shows of the arguments, redacted. -/
inductive Separated : List Char → List Cell → List Char → Prop
  | done : Separated [] [] []
  | plain {run template text : List Char} {arguments : List Cell}
      (plain : ∀ character ∈ run, character ≠ '%') (apart : Apart run template)
      (apartShown : Apart run text) (later : Separated template arguments text) :
      Separated (run ++ template) arguments (run ++ text)
  | doubled {template text : List Char} {arguments : List Cell}
      (apart : Apart ['%', '%'] template) (apartShown : Apart ['%'] text)
      (later : Separated template arguments text) :
      Separated ('%' :: '%' :: template) arguments ('%' :: text)
  | directive {specifier template shown text : List Char} {taken arguments : List Cell}
      (formed : IsSpecifier specifier)
      (shows : Shows specifier (taken.map Message.redactedArgument) (redactCharacters shown))
      (apart : Apart ('%' :: specifier) template) (apartShown : Apart shown text)
      (later : Separated template arguments text) :
      Separated ('%' :: (specifier ++ template)) (taken ++ arguments) (shown ++ text)

section Pieces

variable {template text hidden : List Char} {arguments : List Cell}

theorem Covers.plain (covers : Covers text hidden) (plain : ∀ character ∈ text, character ≠ '%') :
    ∀ character ∈ hidden, character ≠ '%' := by
  induction covers with
  | done => exact plain
  | keep character _ inductionHypothesis =>
      obtain ⟨first, others⟩ := List.forall_mem_cons.mp plain
      exact List.forall_mem_cons.mpr ⟨first, inductionHypothesis others⟩
  | cover _ _ unpercented _ _ inductionHypothesis =>
      refine List.forall_mem_append.mpr ⟨unpercented, inductionHypothesis ?_⟩
      intro character member
      exact plain character
        (List.mem_append_right _ (.tail _ (List.mem_append_right _ member)))

theorem covers_redact (text : List Char) :
    ∃ once, Covers text once ∧ Covers once (redactCharacters text) :=
  ⟨_, covers_of_scan (scan_replaceAll secret?_positive text),
    covers_of_hides (hides_of_scan (scan_replaceAll addressPassword?_positive _))⟩

private theorem redact_plain (plain : ∀ character ∈ text, character ≠ '%') :
    ∀ character ∈ redactCharacters text, character ≠ '%' := by
  obtain ⟨once, first, second⟩ := covers_redact text
  exact second.plain (first.plain plain)

private theorem redact_specifier {specifier : List Char} (formed : IsSpecifier specifier) :
    redactCharacters ('%' :: specifier) = '%' :: specifier := by
  have unchanged {hidden : List Char} (covers : Covers ('%' :: specifier) hidden) :
      hidden = '%' :: specifier := by
    obtain ⟨behind, rfl, inside⟩ := covers.percent
    rw [← List.append_nil specifier] at inside
    obtain ⟨later, rfl, untouched⟩ := inside.specifier formed
    rw [covers_nil untouched, List.append_nil]
  obtain ⟨once, first, second⟩ := covers_redact ('%' :: specifier)
  obtain rfl := unchanged first
  exact unchanged second

theorem Fills.prepend {front : List Char} (plain : ∀ character ∈ front, character ≠ '%')
    (fills : Fills template arguments text) :
    Fills (front ++ template) arguments (front ++ text) := by
  induction front with
  | nil => exact fills
  | cons character front inductionHypothesis =>
      obtain ⟨first, others⟩ := List.forall_mem_cons.mp plain
      exact .plain first (inductionHypothesis others)

/-- In pieces that stand apart, redacted arguments make of a redacted template what redaction of
the text would make of it. -/
theorem Separated.fills (separated : Separated template arguments text) :
    Fills (redactCharacters template) (arguments.map Message.redactedArgument)
      (redactCharacters text) := by
  induction separated with
  | done => exact .done
  | plain plain apart apartShown _ inductionHypothesis =>
      rw [redact_append apart, redact_append apartShown]
      exact inductionHypothesis.prepend (redact_plain plain)
  | @doubled template text arguments apart apartShown _ inductionHypothesis =>
      have both : redactCharacters ('%' :: '%' :: template) =
          redactCharacters ['%', '%'] ++ redactCharacters template := redact_append apart
      have single : redactCharacters ('%' :: text) =
          redactCharacters ['%'] ++ redactCharacters text := redact_append apartShown
      rw [both, single]
      exact .doubled inductionHypothesis
  | @directive specifier template shown text taken arguments formed shows apart apartShown _
      inductionHypothesis =>
      rw [← List.cons_append, redact_append apart, redact_specifier formed,
        redact_append apartShown, List.map_append]
      exact .directive formed shows inductionHypothesis

end Pieces

/-! ### Redacted messages -/

section Whole

variable {template text : String} {arguments : List Cell}

private theorem text_of_arguments (given : arguments ≠ []) :
    Message.text ⟨.text template, arguments⟩ = filled template arguments := by
  have present : arguments.isEmpty = false := List.isEmpty_eq_false_iff.mpr given
  unfold Message.text
  dsimp only
  rw [present]
  rfl

private theorem redacted_text : Message.redacted ⟨.text template, arguments⟩ =
    .ok ⟨.text (redact template), arguments.map Message.redactedArgument⟩ := by
  unfold Message.redacted
  dsimp only
  split
  · rfl
  · rename_i nothing
    have empty : template = "" := by
      by_contra filled
      apply nothing
      rw [Cell.isSomething, Bool.not_eq_true', String.isEmpty_eq_false_iff]
      exact filled
    rw [empty]
    rfl

/-- Redacted arguments fill the redacted template exactly when it has all the directives that the
template has. -/
theorem exists_fills_redact_iff (fills : ∃ text, Fills template.toList arguments text) :
    (∃ shown, Fills (redact template).toList (arguments.map Message.redactedArgument) shown) ↔
      ∃ specifiers, Directives template.toList specifiers ∧
        Directives (redact template).toList specifiers := by
  obtain ⟨specifiers, parsed, serves⟩ := exists_fills_iff.mp fills
  rw [redact, String.toList_ofList, exists_fills_iff]
  obtain ⟨once, first, second⟩ := covers_redact template.toList
  obtain ⟨most, sublist, parsedOnce⟩ := parsed.leaves.1 once first
  obtain ⟨kept, sublistToo, parsedTwice⟩ := parsedOnce.leaves.1 _ second
  constructor
  · rintro ⟨others, parsedToo, servesToo⟩
    obtain rfl := parsedTwice.unique parsedToo
    have count := serves.length
    rw [← List.length_map Message.redactedArgument, servesToo.length] at count
    obtain rfl := eq_of_sublist_slots (sublistToo.trans sublist) count
    exact ⟨_, parsed, parsedToo⟩
  · rintro ⟨others, same, keeps⟩
    obtain rfl := parsed.unique same
    exact ⟨_, keeps, serves.redacted⟩

/-- A message that can be shown is redacted without a fault. Without arguments it then shows the
redacted text. With arguments it can be shown exactly when its template has lost no directive, and
shows the redacted text when the pieces of the message stand apart. -/
theorem redacted_message_text (read : Message.text ⟨.text template, arguments⟩ = .ok text) :
    ∃ kept, Message.redacted ⟨.text template, arguments⟩ = .ok kept ∧
      (arguments = [] → kept.text = .ok (redact text)) ∧
      ((∃ shown, kept.text = .ok shown) ↔ arguments = [] ∨
        ∃ specifiers, Directives template.toList specifiers ∧
          Directives (redact template).toList specifiers) ∧
      (Separated template.toList arguments text.toList → kept.text = .ok (redact text)) := by
  refine ⟨_, redacted_text, ?_⟩
  by_cases bare : arguments = []
  · subst bare
    obtain rfl : template = text := Except.ok.inj read
    exact ⟨fun _ => rfl, iff_of_true ⟨_, rfl⟩ (.inl rfl), fun _ => rfl⟩
  · have mapped : arguments.map Message.redactedArgument ≠ [] :=
      fun empty => bare (List.map_eq_nil_iff.mp empty)
    rw [text_of_arguments bare, filled_iff] at read
    have shown : ∀ shown, Message.text ⟨.text (redact template),
        arguments.map Message.redactedArgument⟩ = .ok shown ↔
          Fills (redact template).toList (arguments.map Message.redactedArgument) shown.toList :=
      fun shown => by rw [text_of_arguments mapped, filled_iff]
    refine ⟨fun empty => absurd empty bare, ?_, fun separated => ?_⟩
    · rw [or_iff_right bare, ← exists_fills_redact_iff ⟨_, read⟩]
      constructor
      · rintro ⟨text, done⟩
        exact ⟨_, (shown text).mp done⟩
      · rintro ⟨text, fills⟩
        refine ⟨String.ofList text, (shown _).mpr ?_⟩
        rwa [String.toList_ofList]
    · rw [shown, redact, redact, String.toList_ofList, String.toList_ofList]
      exact separated.fills

theorem shows_text (text : String) : Shows ['s'] [.text text] text.toList := by
  intro length rest later
  have laid : Layout.plain.text text = text.toList := by
    simp only [Layout.text, Layout.plain, Layout.fill, Nat.zero_sub, List.replicate_zero,
      List.nil_append, Bool.false_eq_true, if_false]
  change Except.ok (Layout.plain.text text, rest, later) = _
  rw [laid]

theorem Separated.argument {template text : List Char} {arguments : List Cell} (shown : String)
    (apart : Apart ['%', 's'] template) (apartShown : Apart shown.toList text)
    (later : Separated template arguments text) :
    Separated ('%' :: 's' :: template) (.text shown :: arguments) (shown.toList ++ text) := by
  have formed : IsSpecifier ['s'] := ⟨[], 's', rfl, List.forall_mem_nil _, by decide⟩
  have shows := shows_text (redact shown)
  rw [redact, String.toList_ofList] at shows
  have shownToo : Shows ['s'] ([Cell.text shown].map Message.redactedArgument)
      (redactCharacters shown.toList) := shows
  have piece := Separated.directive formed shownToo apart apartShown later
  exact piece

private theorem separated_login :
    Separated "password=old, user %s at %s".toList [.text "eve", .text "db://u:p@h"]
      "password=old, user eve at db://u:p@h".toList := by
  have host := Separated.argument "db://u:p@h" (by decide +kernel) (by decide +kernel) .done
  have between : Separated (" at ".toList ++ ['%', 's']) [.text "db://u:p@h"]
      (" at ".toList ++ ("db://u:p@h".toList ++ [])) :=
    .plain (ne_of_all (by decide)) (by decide +kernel) (by decide +kernel) host
  have user := Separated.argument "eve" (by decide +kernel) (by decide +kernel) between
  have front : ∀ character ∈ "password=old, user ".toList, character ≠ '%' :=
    ne_of_all (by decide)
  exact .plain front (by decide +kernel) (by decide +kernel) user

theorem redacted_message_login :
    Message.text ⟨.text "password=old, user %s at %s", [.text "eve", .text "db://u:p@h"]⟩ =
        .ok "password=old, user eve at db://u:p@h" ∧
      ∃ kept, Message.redacted ⟨.text "password=old, user %s at %s",
          [.text "eve", .text "db://u:p@h"]⟩ = .ok kept ∧
        kept.text = .ok "password=***REDACTED***, user eve at db://u:***REDACTED***@h" := by
  have read : Message.text ⟨.text "password=old, user %s at %s",
      [.text "eve", .text "db://u:p@h"]⟩ = .ok "password=old, user eve at db://u:p@h" := by
    decide +kernel
  have hidden : redact "password=old, user eve at db://u:p@h" =
    "password=***REDACTED***, user eve at db://u:***REDACTED***@h" := by decide
  obtain ⟨kept, redacted, _, _, apart⟩ := redacted_message_text read
  exact ⟨read, kept, redacted, hidden ▸ apart separated_login⟩

/-- A value of a template is hidden with its directive, and a secret whose name is an argument is
not hidden at all. -/
theorem redacted_message_unshown :
    (Message.text ⟨.text "password=%s", [.text "x"]⟩ = .ok "password=x" ∧
      Message.redacted ⟨.text "password=%s", [.text "x"]⟩ =
        .ok ⟨.text "password=***REDACTED***", [.text "x"]⟩ ∧
      Message.text ⟨.text "password=***REDACTED***", [.text "x"]⟩ = .error .leftOver) ∧
      Message.text ⟨.text "%s=%s", [.text "password", .text "x"]⟩ = .ok "password=x" ∧
      Message.redacted ⟨.text "%s=%s", [.text "password", .text "x"]⟩ =
        .ok ⟨.text "%s=%s", [.text "password", .text "x"]⟩ ∧
      redact "password=x" = "password=***REDACTED***" := by
  decide +kernel

end Whole

end TableExport.Log
