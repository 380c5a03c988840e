import TableExport.Text.Numeral

/-!
What the text of an integer says. Different integers have different texts, and a
text holds digits behind at most one sign, so nothing that follows a numeral and
begins with another character can be mistaken for a part of it.
-/

set_option autoImplicit false

namespace TableExport.Text.Numeral

def IsWritable (value : Int) : Prop :=
  value.natAbs < firstUnwritable

def length (value : Int) : Nat :=
  (ofNat value.natAbs).length

/-! ### Writing -/

theorem write_of_isWritable {value : Int} (writable : IsWritable value) :
    write value = .ok (ofInt value) :=
  if_pos writable

theorem write_of_not_isWritable {value : Int} (unwritable : ¬ IsWritable value) :
    write value = .error .tooManyToWrite :=
  if_neg unwritable

theorem write_eq_ok_iff {value : Int} {text : String} :
    write value = .ok text ↔ IsWritable value ∧ text = ofInt value := by
  constructor
  · intro written
    by_cases writable : IsWritable value
    · rw [write_of_isWritable writable] at written
      cases written
      exact ⟨writable, rfl⟩
    · rw [write_of_not_isWritable writable] at written
      cases written
  · rintro ⟨writable, rfl⟩
    exact write_of_isWritable writable

theorem tenPow_le {first second : Nat} (atMost : first ≤ second) :
    Nat.pow 10 first ≤ Nat.pow 10 second :=
  Nat.pow_le_pow_right (Nat.succ_pos 9) atMost

theorem isWritable_of_small {value : Int} (small : value.natAbs < 100000) :
    IsWritable value := by
  have power : Nat.pow 10 5 ≤ Nat.pow 10 digitLimit := tenPow_le (by decide)
  unfold IsWritable firstUnwritable
  exact Nat.lt_of_lt_of_le small power

/-- A length below a bound keeps the integer below the power of ten with that exponent. -/
theorem natAbs_lt_of_length_lt {value : Int} {bound : Nat} (positive : 1 < bound)
    (short : length value < bound) : value.natAbs < Nat.pow 10 (bound - 1) :=
  (Nat.length_repr_le_iff (by omega)).mp (Nat.le_sub_one_of_lt short)

private theorem twice_tenPow_lt {first second : Nat} (less : first < second) :
    2 * Nat.pow 10 first < Nat.pow 10 second := by
  have positive : 0 < Nat.pow 10 first := Nat.pow_pos (Nat.succ_pos 9)
  have next : Nat.pow 10 (first + 1) ≤ Nat.pow 10 second := tenPow_le less
  rw [Nat.pow_eq, Nat.pow_succ] at next
  rw [Nat.pow_eq] at positive ⊢
  omega

theorem isWritable_of_le_twice {value : Int} {digits : Nat} (few : digits < digitLimit)
    (within : value.natAbs ≤ 2 * Nat.pow 10 digits) : IsWritable value := by
  unfold IsWritable firstUnwritable
  exact Nat.lt_of_le_of_lt within (twice_tenPow_lt few)

/-- A sum of two integers has at most one digit more. -/
theorem isWritable_of_natAbs_le {value first second : Int}
    (firstShort : length first < digitLimit)
    (secondShort : length second < digitLimit)
    (within : value.natAbs ≤ first.natAbs + second.natAbs) : IsWritable value := by
  have firstBelow := natAbs_lt_of_length_lt (by decide) firstShort
  have secondBelow := natAbs_lt_of_length_lt (by decide) secondShort
  have fewer : digitLimit - 1 < digitLimit := by decide
  exact isWritable_of_le_twice fewer (by omega)

theorem isWritable_of_length_lt {value : Int}
    (short : length value < digitLimit) : IsWritable value :=
  isWritable_of_natAbs_le short short (Nat.le_add_left _ _)

/-! ### Characters -/

theorem digit_bounds {character : Char} (digit : character.isDigit = true) :
    48 ≤ character.toNat ∧ character.toNat ≤ 57 := by
  simp only [Char.isDigit, Bool.and_eq_true, decide_eq_true_eq] at digit
  exact ⟨UInt32.le_iff_toNat_le.mp digit.1, UInt32.le_iff_toNat_le.mp digit.2⟩

theorem isDigit_of_mem_ofNat {value : Nat} {character : Char}
    (member : character ∈ (ofNat value).toList) : character.isDigit = true := by
  rw [ofNat, Nat.toList_repr] at member
  exact Nat.isDigit_of_mem_toDigits (by decide) (by decide) member

theorem ofInt_of_neg {value : Int} (negative : value < 0) :
    (ofInt value).toList = '-' :: (ofNat value.natAbs).toList := by
  unfold ofInt
  rw [if_pos negative, String.toList_append]
  rfl

theorem ofInt_of_nonneg {value : Int} (nonneg : ¬ value < 0) :
    ofInt value = ofNat value.natAbs :=
  if_neg nonneg

theorem mem_ofInt {value : Int} {character : Char}
    (member : character ∈ (ofInt value).toList) :
    character = '-' ∨ character.isDigit = true := by
  by_cases negative : value < 0
  · rw [ofInt_of_neg negative] at member
    rcases List.mem_cons.mp member with sign | later
    · exact .inl sign
    · exact .inr (isDigit_of_mem_ofNat later)
  · rw [ofInt_of_nonneg negative] at member
    exact .inr (isDigit_of_mem_ofNat member)

private theorem space_not_mem_ofInt (value : Int) : ' ' ∉ (ofInt value).toList := by
  intro member
  rcases mem_ofInt member with sign | digit
  · exact absurd sign (by decide)
  · exact absurd digit (by decide)

private theorem minus_not_mem_ofNat (value : Nat) : '-' ∉ (ofNat value).toList := by
  intro member
  exact absurd (isDigit_of_mem_ofNat member) (by decide)

/-! ### Injectivity -/

private theorem ofNat_injective {first second : Nat} (same : ofNat first = ofNat second) :
    first = second := by
  have digits : Nat.toDigits 10 first = Nat.toDigits 10 second := by
    rw [← Nat.toList_repr, ← Nat.toList_repr]
    exact congrArg String.toList same
  rw [← Nat.ofDigitChars_toDigits (b := 10) (n := first) (by decide) (by decide), digits,
    Nat.ofDigitChars_toDigits (by decide) (by decide)]

private theorem ofDigitChars_zeros (count : Nat) (digits : List Char) :
    Nat.ofDigitChars 10 (List.replicate count '0' ++ digits) 0 =
      Nat.ofDigitChars 10 digits 0 := by
  induction count with
  | zero => rfl
  | succ count inductionHypothesis =>
      rw [List.replicate_succ, List.cons_append, Nat.ofDigitChars_cons]
      exact inductionHypothesis

theorem ofDigitChars_padded (width value : Nat) :
    Nat.ofDigitChars 10 (padded width value).toList 0 = value := by
  rw [padded, String.toList_ofList, ofDigitChars_zeros, ofNat, Nat.toList_repr,
    Nat.ofDigitChars_toDigits (by decide) (by decide)]

theorem padded_injective {width first second : Nat}
    (same : padded width first = padded width second) : first = second := by
  rw [← ofDigitChars_padded width first, same, ofDigitChars_padded]

theorem isDigit_of_mem_padded {width value : Nat} {character : Char}
    (member : character ∈ (padded width value).toList) : character.isDigit = true := by
  rw [padded, String.toList_ofList, List.mem_append] at member
  rcases member with zero | digit
  · rw [List.eq_of_mem_replicate zero]
    rfl
  · exact isDigit_of_mem_ofNat digit

private theorem minus_mem_ofInt_iff {value : Int} :
    '-' ∈ (ofInt value).toList ↔ value < 0 := by
  by_cases negative : value < 0
  · rw [ofInt_of_neg negative]
    exact iff_of_true List.mem_cons_self negative
  · rw [ofInt_of_nonneg negative]
    exact iff_of_false (minus_not_mem_ofNat _) negative

private theorem ofInt_injective {first second : Int} (same : ofInt first = ofInt second) :
    first = second := by
  have sign : first < 0 ↔ second < 0 := by
    rw [← minus_mem_ofInt_iff, ← minus_mem_ofInt_iff, same]
  by_cases negative : first < 0
  · have lists := congrArg String.toList same
    rw [ofInt_of_neg negative, ofInt_of_neg (sign.mp negative)] at lists
    have size := ofNat_injective (String.toList_inj.mp (List.cons.inj lists).2)
    have other := sign.mp negative
    omega
  · have other := mt sign.mpr negative
    rw [ofInt_of_nonneg negative, ofInt_of_nonneg other] at same
    have size := ofNat_injective same
    omega

/-! ### Numerals inside a text -/

/-- Up to the first mark two lists agree when neither holds the mark before it. -/
theorem eq_of_append_cons_eq {mark : Char} {first second firstRest secondRest : List Char}
    (absentFirst : mark ∉ first) (absentSecond : mark ∉ second)
    (same : first ++ mark :: firstRest = second ++ mark :: secondRest) :
    first = second := by
  induction first generalizing second with
  | nil =>
      cases second with
      | nil => rfl
      | cons character rest =>
          have head := (List.cons.inj same).1
          exact absurd (head ▸ List.mem_cons_self) absentSecond
  | cons character rest inductionHypothesis =>
      cases second with
      | nil =>
          have head := (List.cons.inj same).1
          exact absurd (head ▸ List.mem_cons_self) absentFirst
      | cons other later =>
          obtain ⟨head, tail⟩ := List.cons.inj same
          rw [head, inductionHypothesis
            (fun member => absentFirst (List.mem_cons_of_mem _ member))
            (fun member => absentSecond (List.mem_cons_of_mem _ member)) tail]

theorem eq_of_ofInt_append_eq {first second : Int} {firstRest secondRest : String}
    (same : ofInt first ++ (" " ++ firstRest) = ofInt second ++ (" " ++ secondRest)) :
    first = second := by
  have lists := congrArg String.toList same
  simp only [String.toList_append] at lists
  exact ofInt_injective (String.toList_inj.mp
    (eq_of_append_cons_eq (space_not_mem_ofInt first) (space_not_mem_ofInt second) lists))

/-! ### Reading -/

theorem digitsValue_eq_ofDigitChars (characters : List Char) :
    digitsValue (characters.map fun character => character.toNat - 48) =
      Nat.ofDigitChars 10 characters 0 :=
  List.foldl_map

/-- The digits that are written are read back, when there are not too many of them. -/
theorem readDigits_ofNat {value : Nat} (count : Nat) (positive : 0 < count)
    (few : count ≤ digitLimit) (short : value < Nat.pow 10 count) :
    readDigits ((ofNat value).toList.map fun character => character.toNat - 48) = .ok value := by
  have length : (ofNat value).toList.length ≤ count := (Nat.length_repr_le_iff positive).mpr short
  rw [readDigits, List.length_map, if_pos (Nat.le_trans length few), digitsValue_eq_ofDigitChars,
    ofNat, Nat.toList_repr, Nat.ofDigitChars_toDigits (by decide) (by decide)]

theorem digitsValueFrom_lt {digits : List Nat} (small : ∀ digit ∈ digits, digit < 10)
    (start : Nat) : digitsValueFrom start digits < (start + 1) * Nat.pow 10 digits.length := by
  induction digits generalizing start with
  | nil =>
      change start < (start + 1) * 1
      omega
  | cons digit rest inductionHypothesis =>
      have first := small digit List.mem_cons_self
      have later := inductionHypothesis
        (fun other member => small other (List.mem_cons_of_mem _ member)) (10 * start + digit)
      have room : (10 * start + digit + 1) * Nat.pow 10 rest.length ≤
          (10 * (start + 1)) * Nat.pow 10 rest.length :=
        Nat.mul_le_mul_right _ (by omega)
      have power : (10 * (start + 1)) * Nat.pow 10 rest.length =
          (start + 1) * Nat.pow 10 (rest.length + 1) := by
        rw [Nat.pow_eq, Nat.pow_eq, Nat.pow_succ, Nat.mul_comm 10, Nat.mul_assoc,
          Nat.mul_comm 10]
      change digitsValueFrom (10 * start + digit) rest < _
      rw [List.length_cons, ← power]
      exact Nat.lt_of_lt_of_le later room

private theorem asciiDigit?_lt {character : Char} {digit : Nat}
    (found : asciiDigit? character = some digit) : digit < 10 := by
  unfold asciiDigit? at found
  by_cases isDigit : character.isDigit
  · rw [if_pos isDigit] at found
    cases found
    have bounds := digit_bounds isDigit
    omega
  · rw [if_neg isDigit] at found
    cases found

private theorem moreDigits?_lt {text : List Char} {digits : List Nat}
    (found : moreDigits? text = some digits) : ∀ digit ∈ digits, digit < 10 := by
  induction text using moreDigits?.induct generalizing digits with
  | case1 =>
      cases found
      intro digit member
      cases member
  | case2 character rest inductionHypothesis =>
      simp only [moreDigits?, Option.bind_eq_bind, Option.bind_eq_some_iff] at found
      obtain ⟨first, isFirst, later, isLater, same⟩ := found
      cases same
      intro digit member
      rcases List.mem_cons.mp member with rfl | present
      · exact asciiDigit?_lt isFirst
      · exact inductionHypothesis isLater digit present
  | case3 character rest notMark inductionHypothesis =>
      rw [moreDigits?.eq_3 _ _ notMark] at found
      simp only [Option.bind_eq_bind, Option.bind_eq_some_iff] at found
      obtain ⟨first, isFirst, later, isLater, same⟩ := found
      cases same
      intro digit member
      rcases List.mem_cons.mp member with rfl | present
      · exact asciiDigit?_lt isFirst
      · exact inductionHypothesis isLater digit present

private theorem readNat?_lt {text : List Char} {value : Nat} (found : readNat? text = some value) :
    value < firstUnwritable := by
  simp only [readNat?, Option.bind_eq_bind, Option.bind_eq_some_iff] at found
  obtain ⟨digits, isGrouped, read⟩ := found
  by_cases short : digits.length ≤ digitLimit
  · rw [if_pos short] at read
    cases read
    have small : ∀ digit ∈ digits, digit < 10 := by
      cases text with
      | nil => cases isGrouped
      | cons character rest =>
          simp only [groupedDigits?, Option.bind_eq_bind, Option.bind_eq_some_iff] at isGrouped
          obtain ⟨first, isFirst, later, isLater, same⟩ := isGrouped
          cases same
          intro digit member
          rcases List.mem_cons.mp member with rfl | present
          · exact asciiDigit?_lt isFirst
          · exact moreDigits?_lt isLater digit present
    have below := digitsValueFrom_lt small 0
    rw [Nat.zero_add, Nat.one_mul] at below
    have power := tenPow_le short
    unfold firstUnwritable
    exact Nat.lt_of_lt_of_le below power
  · rw [if_neg short] at read
    cases read

theorem isWritable_of_readInt? {text : String} {value : Int}
    (found : readInt? text = some value) : IsWritable value := by
  have held {digits : List Char} {size : Int}
      (read : (do let whole ← readNat? digits; pure (whole : Int)) = some size) :
      size.natAbs < firstUnwritable := by
    simp only [Option.bind_eq_bind, Option.bind_eq_some_iff] at read
    obtain ⟨whole, isWhole, same⟩ := read
    cases same
    exact readNat?_lt isWhole
  unfold readInt? at found
  dsimp only at found
  unfold IsWritable
  split at found
  · obtain ⟨size, read, rfl⟩ := Option.map_eq_some_iff.mp found
    rw [Int.natAbs_neg]
    exact held read
  · obtain ⟨size, read, rfl⟩ := Option.map_eq_some_iff.mp found
    exact held read
  · obtain ⟨size, read, rfl⟩ := Option.map_eq_some_iff.mp found
    exact held read

end TableExport.Text.Numeral
