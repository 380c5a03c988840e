import TableExport.Proofs.Log.Scanning
import TableExport.Proofs.Log.Soundness

/-!
What stands in front of a message. It is a row of fields, each a label and a
value in brackets, and the memory reading is the last of them. No secret begins
in a field, so a record is its fields as they are and then its message masked.
-/

set_option autoImplicit false

namespace TableExport.Log

open TableExport.Text
open TableExport.Number
open TableExport.Sequence

/-! ### Texts that stay as they are -/

structure IsUntouched (text : String) : Prop where
  secrets : Passes secret? text.toList
  addresses : Passes addressPassword? text.toList

theorem IsUntouched.append {first second : String} (untouched : IsUntouched first)
    (untouchedToo : IsUntouched second) : IsUntouched (first ++ second) := by
  constructor
  · rw [String.toList_append]
    exact untouched.secrets.append untouchedToo.secrets
  · rw [String.toList_append]
    exact untouched.addresses.append untouchedToo.addresses

theorem IsUntouched.redact_append {front : String} (untouched : IsUntouched front)
    (rest : String) : redact (front ++ rest) = front ++ redact rest := by
  rw [redact, redactCharacters, String.toList_append, untouched.secrets, untouched.addresses,
    String.ofList_append, String.ofList_toList]
  rfl

/-! ### Fields -/

def fieldLabels : List String :=
  ["EXPORT", "QUERIES", "ROWS", "MEM"]

structure Field where
  label : String
  value : String
  known : label ∈ fieldLabels
  unsigned : ∀ character ∈ value.toList, ¬ IsSign character
  unslashed : value.toList.head? ≠ some '/'

namespace Field

def text (field : Field) : String :=
  field.label ++ ":" ++ field.value

def shown (field : Field) : String :=
  "[" ++ field.text ++ "] "

private theorem isBarrier_bracket : IsBarrier ']' :=
  ⟨unnamed_of_all (by decide), by decide, by decide⟩

theorem passes_secret_label {label : String} (known : label ∈ fieldLabels) :
    Passes secret? ("[" ++ label ++ ":").toList := by
  simp only [fieldLabels, List.mem_cons, List.not_mem_nil, or_false] at known
  rcases known with rfl | rfl | rfl | rfl
  · exact fun _ => rfl
  · exact fun _ => rfl
  · exact fun _ => rfl
  · exact fun _ => rfl

private theorem passes_address_label {label : String} (known : label ∈ fieldLabels) :
    Passes addressPassword? ("[" ++ label).toList := by
  have uncoloned : ∀ label ∈ fieldLabels, (("[" ++ label).toList.all (· != ':')) = true := by
    decide
  exact passes_address_of_uncoloned (ne_of_all (uncoloned label known))

private theorem passes_address_value (field : Field) :
    Passes addressPassword? (':' :: (field.value.toList ++ [']', ' '])) := by
  have uncoloned : ∀ character ∈ field.value.toList ++ [']', ' '], character ≠ ':' := by
    intro character member
    rcases List.mem_append.mp member with inside | behind
    · exact fun colon => field.unsigned character inside (.inl colon)
    · have bracketed : ∀ other ∈ [']', ' '], other ≠ ':' := ne_of_all (by decide)
      exact bracketed character behind
  have passes := passes_address_of_uncoloned uncoloned
  have unslashed := field.unslashed
  generalize field.value.toList = value at passes unslashed
  cases value with
  | nil => exact passes.colon (by decide)
  | cons first rest => exact passes.colon fun slash => unslashed (congrArg some slash)

theorem untouched (field : Field) : IsUntouched field.shown := by
  constructor
  · have value : Passes secret? (field.value.toList ++ [']']) :=
      passes_secret_of_unsigned isBarrier_bracket field.unsigned
    have blank : Passes secret? [' '] := fun _ => rfl
    have passes := ((passes_secret_label field.known).append value).append blank
    simp only [shown, text, String.toList_append, List.append_assoc] at passes ⊢
    exact passes
  · have passes := (passes_address_label field.known).append field.passes_address_value
    simp only [shown, text, String.toList_append, List.append_assoc] at passes ⊢
    exact passes

def row (fields : List Field) : String :=
  String.join (fields.map shown)

private theorem row_cons (field : Field) (fields : List Field) :
    row (field :: fields) = field.shown ++ row fields := by
  rw [row, List.map_cons, String.join_cons]
  rfl

theorem row_singleton (field : Field) : row [field] = field.shown := by
  rw [row_cons]
  exact String.append_empty

theorem row_append (first second : List Field) :
    row (first ++ second) = row first ++ row second := by
  induction first with
  | nil => exact String.empty_append.symm
  | cons field rest inductionHypothesis =>
      rw [List.cons_append, row_cons, row_cons, inductionHypothesis, String.append_assoc]

theorem row_untouched (fields : List Field) : IsUntouched (row fields) := by
  induction fields with
  | nil => exact ⟨passes_nil _, passes_nil _⟩
  | cons field rest inductionHypothesis =>
      rw [row_cons]
      exact field.untouched.append inductionHypothesis

theorem intercalate_row (fields : List Field) (last : Field) :
    "[" ++ String.intercalate "] [" (fields.map text ++ [last.text]) ++ "]" ++ " " =
      row (fields ++ [last]) := by
  induction fields with
  | nil =>
      rw [List.map_nil, List.nil_append, String.intercalate_singleton, List.nil_append,
        row_singleton, shown, String.append_assoc]
      rfl
  | cons field rest inductionHypothesis =>
      have several : rest.map text ++ [last.text] ≠ [] := by
        rw [Ne, List.append_eq_nil_iff]
        exact fun empty => List.cons_ne_nil _ _ empty.2
      rw [List.map_cons, List.cons_append, String.intercalate_cons_of_ne_nil several,
        List.cons_append, row_cons, ← inductionHypothesis, shown]
      have opening : "] [" = "] " ++ "[" := rfl
      rw [opening]
      simp only [String.append_assoc]

end Field

/-! ### Measures -/

/-- A text without signs and slashes. -/
def IsMeasure (text : String) : Prop :=
  ∀ character ∈ text.toList, ¬ IsSign character ∧ character ≠ '/'

theorem IsMeasure.append {first second : String} (measure : IsMeasure first)
    (measureToo : IsMeasure second) : IsMeasure (first ++ second) := by
  intro character member
  rw [String.toList_append, List.mem_append] at member
  rcases member with early | late
  · exact measure character early
  · exact measureToo character late

theorem measure_of_ne {character : Char}
    (apart : character ≠ ':' ∧ character ≠ '=' ∧ character ≠ '/') :
    ¬ IsSign character ∧ character ≠ '/' :=
  ⟨fun sign => sign.elim apart.1 apart.2.1, apart.2.2⟩

theorem measure_of_belongs (belongs : Char → Bool)
    (apart : belongs ':' = false ∧ belongs '=' = false ∧ belongs '/' = false) {character : Char}
    (fits : belongs character = true) : ¬ IsSign character ∧ character ≠ '/' := by
  obtain ⟨colon, equals, slash⟩ := apart
  refine measure_of_ne ⟨?_, ?_, ?_⟩
  · rintro rfl
    cases colon.symm.trans fits
  · rintro rfl
    cases equals.symm.trans fits
  · rintro rfl
    cases slash.symm.trans fits

private theorem measure_of_isDigit {character : Char} (digit : character.isDigit = true) :
    ¬ IsSign character ∧ character ≠ '/' :=
  measure_of_belongs Char.isDigit (by decide) digit

private theorem isMeasure_ofNat (value : Nat) : IsMeasure (Numeral.ofNat value) :=
  fun _ member => measure_of_isDigit (Numeral.isDigit_of_mem_ofNat member)

private theorem isMeasure_ofInt (value : Int) : IsMeasure (Numeral.ofInt value) := by
  intro character member
  rcases Numeral.mem_ofInt member with sign | digit
  · rw [sign]
    exact measure_of_ne (by decide)
  · exact measure_of_isDigit digit

theorem isMeasure_of_all {text : String}
    (plain : text.toList.all fun character =>
      character != ':' && character != '=' && character != '/') : IsMeasure text := by
  intro character member
  have apart := List.all_eq_true.mp plain character member
  simp only [Bool.and_eq_true, bne_iff_ne] at apart
  exact measure_of_ne ⟨apart.1.1, apart.1.2, apart.2⟩

private theorem isMeasure_fixed (places : Nat) (value : Binary64) :
    IsMeasure (value.fixed places) := by
  have magnitude : IsMeasure (value.magnitudeFixed places) := by
    cases value with
    | nan => exact (isMeasure_of_all (by decide) : IsMeasure "nan")
    | infinite negative => exact (isMeasure_of_all (by decide) : IsMeasure "inf")
    | finite negative mantissa exponent =>
        unfold Binary64.magnitudeFixed pointed
        dsimp only
        split
        · exact isMeasure_ofNat _
        · refine ((isMeasure_ofNat _).append (isMeasure_of_all (by decide))).append ?_
          exact fun _ member => measure_of_isDigit (Numeral.isDigit_of_mem_padded member)
  unfold Binary64.fixed
  split
  · exact (isMeasure_of_all (by decide)).append magnitude
  · exact magnitude

private theorem dividedBy_integer {dividend divisor : Int} {quotient : Quantity}
    (divided : (Cell.integer dividend).dividedBy (.integer divisor) = .ok quotient) :
    ∃ value, quotient = .real value := by
  have opened : (Quantity.divide (.integer dividend) (.integer divisor)).mapError
      Cell.Fault.number = .ok quotient := divided
  rw [mapError_ok_iff, Quantity.divide] at opened
  split at opened
  · exact ⟨_, (Except.ok.inj opened).symm⟩
  · cases opened

private theorem isMeasure_unitText {count : Int} {unit : Nat} {letter text : String}
    (measure : IsMeasure letter) (shown : unitText (.integer count) unit letter = .ok text) :
    IsMeasure text := by
  simp only [unitText, bind_ok_iff, mapError_ok_iff] at shown
  obtain ⟨quotient, divided, digits, fixed, same⟩ := shown
  obtain ⟨value, rfl⟩ := dividedBy_integer divided
  cases fixed
  cases same
  exact (isMeasure_fixed 1 value).append measure

private theorem isMeasure_shown {count : Int} {text : String}
    (shown : (Cell.integer count).shown = .ok text) : IsMeasure text := by
  have written : (Numeral.write count).mapError Cell.Fault.numeral = .ok text := shown
  rw [mapError_ok_iff, Numeral.write_eq_ok_iff] at written
  rw [written.2]
  exact isMeasure_ofInt count

private theorem isMeasure_rowsText {count : Int} {text : String}
    (shown : rowsText (.integer count) = .ok text) : IsMeasure text := by
  simp only [rowsText, less_integer, ok_bind, decide_eq_true_eq] at shown
  split at shown
  · exact isMeasure_shown shown
  · split at shown
    · exact isMeasure_unitText (isMeasure_of_all (by decide)) shown
    · split at shown
      · exact isMeasure_unitText (isMeasure_of_all (by decide)) shown
      · exact isMeasure_unitText (isMeasure_of_all (by decide)) shown

theorem isMeasure_memoryText {memory : Option Int} {text : String}
    (shown : memoryText memory = .ok text) : IsMeasure text := by
  cases memory with
  | none =>
      cases shown
      exact isMeasure_of_all (by decide)
  | some bytes =>
      simp only [memoryText, bind_ok_iff, mapError_ok_iff] at shown
      obtain ⟨units, divided, digits, fixed, same⟩ := shown
      obtain ⟨value, rfl⟩ := dividedBy_integer divided
      obtain ⟨unit, found⟩ := realOf_unit
      rw [Quantity.divide, found] at fixed
      cases fixed
      cases same
      exact (isMeasure_fixed 1 _).append (isMeasure_of_all (by decide))

/-! ### The fields of a journal -/

namespace Field

def measured (label : String) {value : String} (known : label ∈ fieldLabels)
    (measure : IsMeasure value) : Field where
  label := label
  value := value
  known := known
  unsigned := fun character member => (measure character member).1
  unslashed := fun slash => (measure '/' (List.mem_of_head? slash)).2 rfl

def memory {reading : String} (measure : IsMeasure reading) : Field :=
  measured "MEM" (by decide) measure

def queries {completed total : String} (measure : IsMeasure completed)
    (filled : completed.toList ≠ []) (measureToo : IsMeasure total) : Field where
  label := "QUERIES"
  value := completed ++ "/" ++ total
  known := by decide
  unsigned := by
    intro character member
    simp only [String.toList_append, List.mem_append] at member
    rcases member with (early | slash) | late
    · exact (measure character early).1
    · rw [List.mem_singleton.mp slash]
      decide
    · exact (measureToo character late).1
  unslashed := by
    obtain ⟨first, rest, begins⟩ := List.exists_cons_of_ne_nil filled
    rw [String.toList_append, String.toList_append, begins]
    exact fun slash => (measure first (begins ▸ List.mem_cons_self)).2 (Option.some.inj slash)

end Field

private theorem ofInt_ne_nil (value : Int) : (Numeral.ofInt value).toList ≠ [] := by
  by_cases negative : value < 0
  · rw [Numeral.ofInt_of_neg negative]
    exact List.cons_ne_nil _ _
  · rw [Numeral.ofInt_of_nonneg negative, Numeral.ofNat, Nat.toList_repr]
    exact Nat.toDigits_ne_nil

private theorem rowParts_fields {progress : Progress} (sound : progress.IsSound) :
    ∃ fields : List Field, progress.rowParts = .ok (fields.map Field.text) := by
  obtain ⟨parts, found⟩ := rowParts_isOk sound
  obtain ⟨count, rows, _⟩ := sound.rows
  have made := found
  simp only [Progress.rowParts, rows, Cell.ofQuantity, greater_integer, ok_bind] at made
  split at made
  · rw [bind_ok_iff] at made
    obtain ⟨shown, displayed, same⟩ := made
    cases same
    exact ⟨[.measured "ROWS" (by decide) (isMeasure_rowsText displayed)], found⟩
  · cases made
    exact ⟨[], found⟩

theorem parts_fields {progress : Progress} (sound : progress.IsSound)
    (named : ∀ name, progress.name = .text name → IsMeasure name) :
    ∃ fields : List Field, progress.parts = .ok (fields.map Field.text) := by
  obtain ⟨name, nameText⟩ := sound.name
  obtain ⟨count, total, writable⟩ := sound.total
  have shownName : progress.name.shown = .ok name := by rw [nameText]; rfl
  obtain ⟨exportField, labelled⟩ : ∃ field : Field, field.text = "EXPORT:" ++ name :=
    ⟨.measured "EXPORT" (by decide) (named name nameText), rfl⟩
  obtain ⟨queriesField, counted⟩ : ∃ field : Field, field.text =
      "QUERIES:" ++ Numeral.ofInt progress.completed ++ "/" ++ Numeral.ofInt count := by
    refine ⟨.queries (isMeasure_ofInt progress.completed) (ofInt_ne_nil _)
      (isMeasure_ofInt count), ?_⟩
    rw [Field.text, Field.queries, ← String.append_assoc, ← String.append_assoc]
    rfl
  simp only [Progress.parts, shownName, total, greater_integer, ok_bind, decide_eq_true_eq]
  by_cases positive : 0 < count
  · obtain ⟨fields, shownRows⟩ := rowParts_fields sound
    rw [if_pos positive, countText, shown_integer sound.completed, shown_integer writable,
      shownRows]
    refine ⟨exportField :: queriesField :: fields, ?_⟩
    rw [List.map_cons, List.map_cons, labelled, counted]
    rfl
  · rw [if_neg positive]
    refine ⟨[exportField], ?_⟩
    rw [List.map_cons, labelled]
    rfl

/-- A message stands behind the fields of its journal, of which the last is the memory
reading. -/
theorem headed_fields {journal : Journal} {fields : List Field} {reading : String}
    (shows : ∀ progress, journal.progress = some progress →
      progress.parts = .ok (fields.map Field.text))
    (idle : journal.progress = none → fields = [])
    (read : memoryText journal.memory = .ok reading) (measure : IsMeasure reading)
    (text : String) :
    journal.headed (.text text) =
      .ok (Field.row (fields ++ [.memory measure]) ++ text) := by
  have heading : journal.heading = .ok ("[" ++
      String.intercalate "] [" (fields.map Field.text ++ [(Field.memory measure).text]) ++
        "]") := by
    unfold Journal.heading
    cases underway : journal.progress with
    | none =>
        rw [idle underway, read]
        rfl
    | some progress =>
        simp only [shows progress underway, read, ok_bind]
        rfl
  rw [← Field.intercalate_row, Journal.headed, heading]
  rfl

end TableExport.Log
