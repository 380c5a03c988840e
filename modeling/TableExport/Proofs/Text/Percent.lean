import TableExport.Proofs.Text.Order
import TableExport.Text.Percent

/-!
Percent escapes undo each other. A text is quoted character by character: what is
not reserved stays, and of every other character each UTF-8 byte becomes an
escape. Decoding collects the bytes of a run and reads them as UTF-8 at its end,
so what carries the induction is the run so far, as bytes.
-/

set_option autoImplicit false

namespace TableExport.Text

namespace Utf8

/-! ### Characters from their bytes -/

private theorem mayFollow_of_bounds {first second : UInt8}
    (continues : isContinuation second = true)
    (long : first.toNat = 0xE0 → 0xA0 ≤ second.toNat)
    (surrogate : first.toNat = 0xED → second.toNat < 0xA0)
    (longer : first.toNat = 0xF0 → 0x90 ≤ second.toNat)
    (beyond : first.toNat = 0xF4 → second.toNat < 0x90) : mayFollow first second = true := by
  unfold mayFollow
  rw [continues, Bool.true_and]
  split
  · exact decide_eq_true (long ‹_›)
  · exact decide_eq_true (surrogate ‹_›)
  · exact decide_eq_true (longer ‹_›)
  · exact decide_eq_true (beyond ‹_›)
  · rfl

private theorem decodeLossy_of_character {first : UInt8} {rest : List UInt8} {value : Char}
    {more : Nat}
    (found : piece first rest = .character value more) :
    decodeLossy (first :: rest) = value :: decodeLossy (rest.drop more) := by
  rw [decodeLossy, found]

private theorem isContinuation_iff {byte : UInt8} :
    isContinuation byte = true ↔ 0x80 ≤ byte.toNat ∧ byte.toNat < 0xC0 := by
  rw [isContinuation, Bool.and_eq_true, decide_eq_true_eq, decide_eq_true_eq]

variable {first second third fourth : UInt8} {rest : List UInt8}

private theorem piece_single (low : first.toNat < 0x80) :
    piece first rest = .character (Char.ofNat first.toNat) 0 :=
  if_pos low

private theorem piece_pair (low : 0xC2 ≤ first.toNat) (high : first.toNat < 0xE0)
    (follows : mayFollow first second = true) :
    piece first (second :: rest) =
      .character (Char.ofNat ((first.toNat - 0xC0) * 64 + payload second)) 1 := by
  rw [piece, if_neg (by omega), if_neg (by omega), if_pos high, pairPiece, if_pos follows]

private theorem piece_triple (low : 0xE0 ≤ first.toNat) (high : first.toNat < 0xF0)
    (follows : mayFollow first second = true) (continues : isContinuation third = true) :
    piece first (second :: third :: rest) =
      .character (Char.ofNat
        (((first.toNat - 0xE0) * 64 + payload second) * 64 + payload third)) 2 := by
  rw [piece, if_neg (by omega), if_neg (by omega), if_neg (by omega), if_pos high, triplePiece,
    if_pos follows]
  exact if_pos continues

private theorem piece_quadruple (low : 0xF0 ≤ first.toNat) (high : first.toNat < 0xF5)
    (follows : mayFollow first second = true) (continues : isContinuation third = true)
    (ends : isContinuation fourth = true) :
    piece first (second :: third :: fourth :: rest) =
      .character (Char.ofNat
        ((((first.toNat - 0xF0) * 64 + payload second) * 64 + payload third) * 64
          + payload fourth)) 3 := by
  rw [piece, if_neg (by omega), if_neg (by omega), if_neg (by omega), if_neg (by omega),
    if_pos high, quadruplePiece, if_pos follows]
  rw [if_pos continues]
  exact if_pos ends

private theorem toNat_ofNat_of_lt (value : Nat) (small : value < 256) :
    (UInt8.ofNat value).toNat = value :=
  Nat.mod_eq_of_lt small

/-! The bytes of a code point, by their count. -/

variable {value : Nat}

private theorem decodeLossy_pair (low : 0x80 ≤ value) (high : value ≤ 0x7FF) :
    decodeLossy (UInt8.ofNat (value / 64 % 32 + 192) :: UInt8.ofNat (value % 64 + 128) :: rest) =
      Char.ofNat value :: decodeLossy rest := by
  have first := toNat_ofNat_of_lt (value / 64 % 32 + 192) (by omega)
  have second := toNat_ofNat_of_lt (value % 64 + 128) (by omega)
  have follows : mayFollow (UInt8.ofNat (value / 64 % 32 + 192))
      (UInt8.ofNat (value % 64 + 128)) = true :=
    mayFollow_of_bounds (isContinuation_iff.mpr (by omega)) (by omega) (by omega) (by omega)
      (by omega)
  have whole : (value / 64 % 32 + 192 - 0xC0) * 64 + (value % 64 + 128) % 64 = value := by omega
  rw [decodeLossy_of_character (piece_pair (by omega) (by omega) follows), payload, first, second,
    whole]
  rfl

private theorem decodeLossy_triple (low : 0x800 ≤ value) (high : value ≤ 0xFFFF)
    (scalar : value < 0xD800 ∨ 0xDFFF < value) :
    decodeLossy (UInt8.ofNat (value / 4096 % 16 + 224) :: UInt8.ofNat (value / 64 % 64 + 128) ::
        UInt8.ofNat (value % 64 + 128) :: rest) =
      Char.ofNat value :: decodeLossy rest := by
  have first := toNat_ofNat_of_lt (value / 4096 % 16 + 224) (by omega)
  have second := toNat_ofNat_of_lt (value / 64 % 64 + 128) (by omega)
  have third := toNat_ofNat_of_lt (value % 64 + 128) (by omega)
  have follows : mayFollow (UInt8.ofNat (value / 4096 % 16 + 224))
      (UInt8.ofNat (value / 64 % 64 + 128)) = true :=
    mayFollow_of_bounds (isContinuation_iff.mpr (by omega)) (by omega) (by omega) (by omega)
      (by omega)
  have whole : ((value / 4096 % 16 + 224 - 0xE0) * 64 + (value / 64 % 64 + 128) % 64) * 64 +
      (value % 64 + 128) % 64 = value := by omega
  rw [decodeLossy_of_character (piece_triple (by omega) (by omega) follows
    (isContinuation_iff.mpr (by omega))), payload, payload, first, second, third, whole]
  rfl

private theorem decodeLossy_quadruple (low : 0x10000 ≤ value) (high : value < 0x110000) :
    decodeLossy (UInt8.ofNat (value / 262144 % 8 + 240) ::
        UInt8.ofNat (value / 4096 % 64 + 128) :: UInt8.ofNat (value / 64 % 64 + 128) ::
        UInt8.ofNat (value % 64 + 128) :: rest) =
      Char.ofNat value :: decodeLossy rest := by
  have first := toNat_ofNat_of_lt (value / 262144 % 8 + 240) (by omega)
  have second := toNat_ofNat_of_lt (value / 4096 % 64 + 128) (by omega)
  have third := toNat_ofNat_of_lt (value / 64 % 64 + 128) (by omega)
  have fourth := toNat_ofNat_of_lt (value % 64 + 128) (by omega)
  have follows : mayFollow (UInt8.ofNat (value / 262144 % 8 + 240))
      (UInt8.ofNat (value / 4096 % 64 + 128)) = true :=
    mayFollow_of_bounds (isContinuation_iff.mpr (by omega)) (by omega) (by omega) (by omega)
      (by omega)
  have whole : (((value / 262144 % 8 + 240 - 0xF0) * 64 + (value / 4096 % 64 + 128) % 64) * 64 +
      (value / 64 % 64 + 128) % 64) * 64 + (value % 64 + 128) % 64 = value := by omega
  rw [decodeLossy_of_character (piece_quadruple (by omega) (by omega) follows
    (isContinuation_iff.mpr (by omega)) (isContinuation_iff.mpr (by omega))), payload, payload,
    payload, first, second, third, fourth, whole]
  rfl

theorem decodeLossy_encodeChar (character : Char) (rest : List UInt8) :
    decodeLossy (String.utf8EncodeChar character ++ rest) = character :: decodeLossy rest := by
  have scalar : character.toNat < 0xD800 ∨ 0xDFFF < character.toNat ∧ character.toNat < 0x110000 :=
    character.valid
  have back : Char.ofNat character.toNat = character := Char.ofNat_toNat character
  generalize shown : character.toNat = value at scalar back
  have code : character.val.toNat = value := shown
  unfold String.utf8EncodeChar
  simp only [code]
  by_cases one : value ≤ 0x7F
  · have byte := toNat_ofNat_of_lt value (by omega)
    rw [if_pos one, List.singleton_append, decodeLossy_of_character (piece_single (by omega)), byte,
      back, List.drop_zero]
  rw [if_neg one]
  by_cases two : value ≤ 0x7FF
  · rw [if_pos two, ← back]
    exact decodeLossy_pair (by omega) two
  rw [if_neg two]
  by_cases three : value ≤ 0xFFFF
  · rw [if_pos three, ← back]
    exact decodeLossy_triple (by omega) three (by omega)
  · rw [if_neg three, ← back]
    exact decodeLossy_quadruple (by omega) (by omega)

private theorem decodeLossy_encode (text : List Char) :
    decodeLossy (text.flatMap String.utf8EncodeChar) = text := by
  induction text with
  | nil => rw [List.flatMap_nil, decodeLossy]
  | cons character rest inductionHypothesis =>
      rw [List.flatMap_cons, decodeLossy_encodeChar, inductionHypothesis]

end Utf8

namespace Percent

/-! ### Quoting -/

/-- The characters that stand for themselves in any part of an address. -/
def isUnreserved (character : Char) : Bool :=
  character.isAlphanum || character == '_' || character == '.' || character == '-' ||
    character == '~'

def hexDigit (value : Nat) : Char :=
  (Nat.digitChar value).toUpper

def escape (byte : UInt8) : List Char :=
  ['%', hexDigit (byte.toNat / 16), hexDigit (byte.toNat % 16)]

def quoteChar (character : Char) : List Char :=
  if isUnreserved character then [character]
  else (String.utf8EncodeChar character).flatMap escape

def quote (text : String) : List Char :=
  text.toList.flatMap quoteChar

/-! ### Decoding what was quoted -/

private theorem byte?_hexDigits (byte : UInt8) :
    byte? (hexDigit (byte.toNat / 16)) (hexDigit (byte.toNat % 16)) = some byte := by
  have digit : ∀ value < 16, hexValue? (hexDigit value) = some value := by decide
  have small : byte.toNat < 256 := byte.toNat_lt
  have whole : byte.toNat / 16 * 16 + byte.toNat % 16 = byte.toNat := by omega
  unfold byte?
  rw [digit _ (by omega), digit _ (by omega)]
  change some (UInt8.ofNat (byte.toNat / 16 * 16 + byte.toNat % 16)) = some byte
  rw [whole, UInt8.ofNat_toNat]

private theorem decodeAfter_escape (run : List UInt8) (byte : UInt8) (rest : List Char) :
    decodeAfter run (escape byte ++ rest) = decodeAfter (byte :: run) rest := by
  rw [escape, List.cons_append, List.cons_append, List.singleton_append, decodeAfter,
    byte?_hexDigits]

private theorem decodeAfter_escapes (run bytes : List UInt8) (rest : List Char) :
    decodeAfter run (bytes.flatMap escape ++ rest) = decodeAfter (bytes.reverse ++ run) rest := by
  induction bytes generalizing run with
  | nil => rfl
  | cons byte bytes inductionHypothesis =>
      rw [List.flatMap_cons, List.append_assoc, decodeAfter_escape, inductionHypothesis,
        List.reverse_cons, List.append_assoc, List.singleton_append]

theorem toNat_of_isAlpha {character : Char} (alpha : character.isAlpha = true) :
    (0x41 ≤ character.toNat ∧ character.toNat ≤ 0x5A) ∨
      (0x61 ≤ character.toNat ∧ character.toNat ≤ 0x7A) := by
  rcases Bool.or_eq_true_iff.mp alpha with upper | lower
  · exact .inl (of_decide_eq_true upper)
  · obtain ⟨first, last⟩ := Bool.and_eq_true_iff.mp lower
    exact .inr ⟨of_decide_eq_true first, of_decide_eq_true last⟩

private theorem toNat_lt_of_isAlphanum {character : Char} (alphanum : character.isAlphanum = true) :
    character.toNat < 0x80 := by
  rcases Bool.or_eq_true_iff.mp alphanum with alpha | digit
  · have bounds := toNat_of_isAlpha alpha
    omega
  · have bounds := Numeral.digit_bounds digit
    omega

private theorem toNat_lt_of_isUnreserved {character : Char}
    (unreserved : isUnreserved character = true) :
    character.toNat < 0x80 := by
  simp only [isUnreserved, Bool.or_eq_true, beq_iff_eq] at unreserved
  rcases unreserved with (((alphanum | rfl) | rfl) | rfl) | rfl
  · exact toNat_lt_of_isAlphanum alphanum
  all_goals decide

private theorem decodeAfter_plain (run : List UInt8) {character : Char} (rest : List Char)
    (ascii : character.toNat < 0x80) (plain : character ≠ '%') :
    decodeAfter run (character :: rest) =
      decodeAfter (UInt8.ofNat character.toNat :: run) rest := by
  rw [decodeAfter, if_pos ascii]
  intro _ _ _ escaped
  exact absurd escaped plain

private theorem decodeAfter_quoteChar (run : List UInt8) (character : Char) (rest : List Char) :
    decodeAfter run (quoteChar character ++ rest) =
      decodeAfter ((String.utf8EncodeChar character).reverse ++ run) rest := by
  unfold quoteChar
  split
  · rename_i unreserved
    have ascii := toNat_lt_of_isUnreserved unreserved
    have single : String.utf8EncodeChar character = [UInt8.ofNat character.toNat] :=
      if_pos (Nat.le_of_lt_succ ascii)
    rw [single, List.singleton_append, decodeAfter_plain run rest ascii]
    · rfl
    · rintro rfl
      exact absurd unreserved (by decide)
  · exact decodeAfter_escapes run _ rest

private theorem decodeAfter_quote (run : List UInt8) (text : List Char) :
    decodeAfter run (text.flatMap quoteChar) =
      Utf8.decodeLossy (run.reverse ++ text.flatMap String.utf8EncodeChar) := by
  induction text generalizing run with
  | nil => rw [List.flatMap_nil, List.flatMap_nil, List.append_nil, decodeAfter]
  | cons character rest inductionHypothesis =>
      rw [List.flatMap_cons, decodeAfter_quoteChar, inductionHypothesis, List.reverse_append,
        List.reverse_reverse, List.append_assoc, List.flatMap_cons]

theorem decode_quote (text : String) : decode (String.ofList (quote text)) = text := by
  rw [decode, String.toList_ofList, quote, decodeAfter_quote, List.reverse_nil, List.nil_append,
    Utf8.decodeLossy_encode, String.ofList_toList]

end Percent

end TableExport.Text
