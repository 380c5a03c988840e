import TableExport.Proofs.Admission.Checks
import TableExport.Proofs.Text.Order

/-!
The names that are accepted for a table: an identifier of ASCII letters, digits
and underscores that no digit begins, and the same with one line end behind it.
The name stands unquoted in every statement. A line end there is one more blank
in front of the next keyword, so what a statement selects from is always the
identifier and nothing else.
-/

set_option autoImplicit false

namespace TableExport.Query

open TableExport.Text

/-! ### Identifiers -/

def IsIdentifierStart (character : Char) : Prop :=
  'a' ≤ character ∧ character ≤ 'z' ∨ 'A' ≤ character ∧ character ≤ 'Z' ∨ character = '_'

def IsIdentifierCharacter (character : Char) : Prop :=
  IsIdentifierStart character ∨ '0' ≤ character ∧ character ≤ '9'

def IsIdentifier (text : String) : Prop :=
  ∃ first rest, text.toList = first :: rest ∧ IsIdentifierStart first ∧
    ∀ character ∈ rest, IsIdentifierCharacter character

/-- An identifier, perhaps with one line end behind it. -/
def NamesTable (text : String) : Prop :=
  ∃ identifier, IsIdentifier identifier ∧ (text = identifier ∨ text = identifier ++ "\n")

private theorem isNameStart_iff {character : Char} :
    isNameStart character = true ↔ IsIdentifierStart character := by
  have letter : character.isAlpha =
      (decide ('A' ≤ character ∧ character ≤ 'Z') ||
        decide ('a' ≤ character) && decide (character ≤ 'z')) := rfl
  rw [isNameStart, letter, IsIdentifierStart]
  simp only [Bool.or_eq_true, Bool.and_eq_true, decide_eq_true_eq, beq_iff_eq]
  rw [or_assoc, or_left_comm]

theorem isNameCharacter_iff {character : Char} :
    isNameCharacter character = true ↔ IsIdentifierCharacter character := by
  have letterOrDigit : character.isAlphanum =
      (character.isAlpha || decide ('0' ≤ character) && decide (character ≤ '9')) := rfl
  rw [IsIdentifierCharacter, ← isNameStart_iff, isNameCharacter, letterOrDigit, isNameStart]
  simp only [Bool.or_eq_true, Bool.and_eq_true, decide_eq_true_eq, beq_iff_eq]
  exact or_right_comm

private theorem isNameTail_iff {characters : List Char} :
    isNameTail characters = true ↔
      ∃ body, (characters = body ∨ characters = body ++ ['\n']) ∧
        ∀ character ∈ body, IsIdentifierCharacter character := by
  fun_induction isNameTail characters with
  | case1 => exact iff_of_true rfl ⟨[], .inl rfl, List.forall_mem_nil _⟩
  | case2 => exact iff_of_true rfl ⟨[], .inr rfl, List.forall_mem_nil _⟩
  | case3 character rest more inductionHypothesis =>
      rw [Bool.and_eq_true, isNameCharacter_iff, inductionHypothesis]
      constructor
      · rintro ⟨first, body, rfl | rfl, all⟩
        · exact ⟨_, .inl rfl, List.forall_mem_cons.mpr ⟨first, all⟩⟩
        · exact ⟨character :: body, .inr rfl, List.forall_mem_cons.mpr ⟨first, all⟩⟩
      · rintro ⟨body, same, all⟩
        cases body with
        | nil =>
            -- only a line end that is not the last character could stand here
            rcases same with same | same
            · cases same
            · obtain ⟨rfl, rfl⟩ := List.cons.inj same
              exact absurd rfl (more rfl)
        | cons first body =>
            obtain ⟨begins, goesOn⟩ := List.forall_mem_cons.mp all
            rcases same with same | same
            · obtain ⟨rfl, rfl⟩ := List.cons.inj same
              exact ⟨begins, _, .inl rfl, goesOn⟩
            · obtain ⟨rfl, rfl⟩ := List.cons.inj same
              exact ⟨begins, body, .inr rfl, goesOn⟩

theorem isTableName_iff {text : String} : isTableName text = true ↔ NamesTable text := by
  have split : isTableName text = true ↔
      ∃ first rest, text.toList = first :: rest ∧ IsIdentifierStart first ∧
        isNameTail rest = true := by
    unfold isTableName
    cases text.toList with
    | nil =>
        apply iff_of_false Bool.false_ne_true
        rintro ⟨_, _, impossible, _⟩
        cases impossible
    | cons first rest =>
        rw [Bool.and_eq_true, isNameStart_iff]
        constructor
        · intro valid
          exact ⟨first, rest, rfl, valid⟩
        · rintro ⟨_, _, same, valid⟩
          cases same
          exact valid
  rw [split]
  constructor
  · rintro ⟨first, rest, begins, start, tail⟩
    obtain ⟨body, same, all⟩ := isNameTail_iff.mp tail
    have identifier : IsIdentifier (String.ofList (first :: body)) :=
      ⟨first, body, String.toList_ofList, start, all⟩
    refine ⟨_, identifier, same.imp ?_ ?_⟩
    · rintro rfl
      rw [← begins, String.ofList_toList]
    · rintro rfl
      apply String.toList_injective
      rw [begins, String.toList_append, String.toList_ofList]
      rfl
  · rintro ⟨identifier, ⟨first, body, begins, start, all⟩, rfl | rfl⟩
    · exact ⟨first, body, begins, start, isNameTail_iff.mpr ⟨body, .inl rfl, all⟩⟩
    · refine ⟨first, body ++ ['\n'], ?_, start, isNameTail_iff.mpr ⟨body, .inr rfl, all⟩⟩
      rw [String.toList_append, begins]
      rfl

theorem IsIdentifier.characters {text : String} (identifier : IsIdentifier text) :
    ∀ character ∈ text.toList, IsIdentifierCharacter character := by
  obtain ⟨first, rest, begins, start, all⟩ := identifier
  rw [begins]
  exact List.forall_mem_cons.mpr ⟨.inl start, all⟩

theorem NamesTable.characters {text : String} (named : NamesTable text) :
    ∀ character ∈ text.toList, IsIdentifierCharacter character ∨ character = '\n' := by
  obtain ⟨identifier, isIdentifier, rfl | rfl⟩ := named
  · intro character member
    exact .inl (isIdentifier.characters character member)
  · intro character member
    rw [String.toList_append, List.mem_append] at member
    exact member.imp (isIdentifier.characters character) List.mem_singleton.mp

/-! ### Statements -/

theorem IsIdentifierCharacter.unblank {character : Char}
    (identifies : IsIdentifierCharacter character) : isBlank character = false := by
  simp only [IsIdentifierCharacter, IsIdentifierStart, char_le_iff, ← Char.toNat_inj]
    at identifies
  apply Bool.eq_false_iff.mpr
  intro blank
  have listed : character.toNat ∈ blankCodes := List.contains_iff_mem.mp blank
  simp only [blankCodes, List.mem_cons, List.not_mem_nil, or_false] at listed
  have bounds : 'a'.toNat = 97 ∧ 'z'.toNat = 122 ∧ 'A'.toNat = 65 ∧ 'Z'.toNat = 90 ∧
      '_'.toNat = 95 ∧ '0'.toNat = 48 ∧ '9'.toNat = 57 := by decide
  omega

/-- A statement that selects every row of the table that an identifier names. Nothing but
blanks stands behind the identifier in front of the next keyword. -/
def SelectsFrom (statement identifier : String) : Prop :=
  IsIdentifier identifier ∧ ∃ gap, gap ≠ "" ∧ isAllBlank gap = true ∧
    statement = "SELECT * FROM " ++ identifier ++ gap ++ "WHERE 1=1"

theorem SelectsFrom.takeWhile {statement identifier : String}
    (selects : SelectsFrom statement identifier) :
    (statement.toList.drop "SELECT * FROM ".toList.length).takeWhile
      (fun character => !isBlank character) = identifier.toList := by
  obtain ⟨named, gap, filled, blank, rfl⟩ := selects
  have unblank : ∀ character ∈ identifier.toList, (!isBlank character) = true := by
    intro character member
    rw [(named.characters character member).unblank]
    rfl
  rw [String.toList_append, String.toList_append, String.toList_append, List.append_assoc,
    List.append_assoc, List.drop_left, List.takeWhile_append_of_pos unblank]
  unfold isAllBlank at blank
  cases characters : gap.toList with
  | nil => exact absurd (String.toList_eq_nil_iff.mp characters) filled
  | cons first rest =>
      rw [characters, List.all_cons, Bool.and_eq_true] at blank
      rw [List.cons_append, List.takeWhile_cons_of_neg (by rw [blank.1]; decide),
        List.append_nil]

theorem SelectsFrom.unique {statement identifier other : String}
    (selects : SelectsFrom statement identifier) (selectsOther : SelectsFrom statement other) :
    other = identifier :=
  String.toList_injective (selectsOther.takeWhile.symm.trans selects.takeWhile)

private theorem selectsFrom_table {name : TableName} {identifier : String}
    (named : IsIdentifier identifier)
    (same : name.text = identifier ∨ name.text = identifier ++ "\n") :
    SelectsFrom (Source.table name).statement identifier := by
  have shown : (Source.table name).statement = "SELECT * FROM " ++ name.text ++ " WHERE 1=1" :=
    rfl
  have gap : " WHERE 1=1" = " " ++ "WHERE 1=1" := rfl
  have longGap : "\n" ++ " WHERE 1=1" = "\n " ++ "WHERE 1=1" := rfl
  rcases same with same | same
  · refine ⟨named, " ", by decide, by decide, ?_⟩
    rw [shown, same, gap]
    simp only [String.append_assoc]
  · refine ⟨named, "\n ", by decide, by decide, ?_⟩
    rw [shown, same]
    simp only [String.append_assoc, longGap]

end TableExport.Query

namespace TableExport.Guard

open TableExport.Query
open TableExport.Condition

/-! ### Checks -/

structure IsAccepted (text : String) (name : TableName) : Prop where
  sameText : name.text = text
  checked : tableName (some text) = .ok name
  guarded : ∀ options : Options, options.table = some (.value text) →
    checkSource options = .ok ()
  sourced : ∀ (options : Options) (files : Files.Tree), options.table = some (.value text) →
    options.sqlFile = none → sourceOf options files = .ok (.table name)

structure IsRefused (text : String) (failure : Failure) : Prop where
  checked : tableName (some text) = .error failure
  guarded : ∀ options : Options, options.table = some (.value text) →
    checkSource options = .error failure
  sourced : ∀ (options : Options) (files : Files.Tree), options.table = some (.value text) →
    options.sqlFile = none → sourceOf options files = .error failure

private theorem isAccepted_of_valid {text : String} (valid : isTableName text = true) :
    IsAccepted text ⟨text, valid⟩ := by
  constructor
  case sameText => rfl
  case checked => exact tableName_of_valid valid
  case guarded =>
    intro options table
    simp only [Guard.checkSource, table, tableName_of_valid valid]
    rfl
  case sourced =>
    intro options files table noFile
    simp only [sourceOf, noFile, table, Option.bind_some, Given.value?, tableName_of_valid valid]
    rfl

private theorem isRefused_of_invalid {text : String} (invalid : ¬ isTableName text = true) :
    IsRefused text (.configuration (.tableName text)) := by
  constructor
  case checked => exact tableName_of_invalid invalid
  case guarded =>
    intro options table
    simp only [Guard.checkSource, table, tableName_of_invalid invalid]
    rfl
  case sourced =>
    intro options files table noFile
    simp only [sourceOf, noFile, table, Option.bind_some, Given.value?,
      tableName_of_invalid invalid]
    rfl

/-- A text is accepted as the name of a table exactly when it is an identifier, perhaps with one
line end behind it, and is refused with its own text otherwise; and what the statement of any
accepted name selects from is its identifier alone. -/
theorem tableName_accepted_iff (text : String) :
    ((∃ name, IsAccepted text name) ↔ NamesTable text) ∧
    (IsRefused text (.configuration (.tableName text)) ↔ ¬ NamesTable text) ∧
    ∀ name : TableName, ∃ identifier,
      (name.text = identifier ∨ name.text = identifier ++ "\n") ∧
      SelectsFrom (Source.table name).statement identifier ∧
      ∀ other, SelectsFrom (Source.table name).statement other → other = identifier := by
  refine ⟨?_, ?_, ?_⟩
  · constructor
    · rintro ⟨name, accepted⟩
      rw [← accepted.sameText]
      exact isTableName_iff.mp name.valid
    · intro named
      exact ⟨_, isAccepted_of_valid (isTableName_iff.mpr named)⟩
  · constructor
    · intro refused named
      have accepted := isAccepted_of_valid (isTableName_iff.mpr named)
      cases accepted.checked.symm.trans refused.checked
    · intro unnamed
      exact isRefused_of_invalid (mt isTableName_iff.mp unnamed)
  · intro name
    obtain ⟨identifier, named, same⟩ := isTableName_iff.mp name.valid
    have selects := selectsFrom_table named same
    exact ⟨identifier, same, selects, fun _ => selects.unique⟩

/-- A line end is no character of an identifier, and a name that ends in one is accepted. -/
theorem name_with_line_end_accepted :
    ∃ name, tableName (some "visits\n") = .ok name ∧ ¬ IsIdentifier "visits\n" ∧
      (Source.table name).statement = "SELECT * FROM visits\n WHERE 1=1" := by
  refine ⟨_, tableName_of_valid (by decide), ?_, rfl⟩
  intro identifier
  have unblank := (identifier.characters '\n' (by decide)).unblank
  cases unblank

end TableExport.Guard
