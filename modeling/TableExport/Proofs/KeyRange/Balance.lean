import Mathlib.Data.Finset.Card
import Mathlib.Data.List.MinMax
import Mathlib.Data.Rat.Floor
import TableExport.Proofs.KeyRange.Division

/-!
How many keys the parts of a range hold, and how many parts there are. All parts
but the last hold as many keys as the span divided by the parallelism, rounded
upwards. The last one takes what remains, which is never a single key and at most
one key more. Both roundings together may leave almost half of the parallelism
unused, but not half of it.
-/

set_option autoImplicit false

namespace TableExport.KeyRange

def keys (range : KeyRange) : Finset Int :=
  (Finset.range (range.high + 1 - range.low).toNat).image fun place : Nat => range.low + place

private theorem card_keys (range : KeyRange) :
    range.keys.card = (range.high + 1 - range.low).toNat := by
  rw [keys, Finset.card_image_of_injective, Finset.card_range]
  exact fun _ _ same => Int.ofNat.inj (Int.add_left_cancel same)

def widest (ranges : List KeyRange) : Nat :=
  (ranges.map fun range => range.keys.card).foldr max 0

/-- Ranges that hold the given count of keys each, up to the last one, which holds two keys
at least and one key more at most. -/
structure IsBalanced (bucket : Int) (ranges : List KeyRange) : Prop where
  others : ∀ range ∈ ranges.dropLast, (range.keys.card : Int) = bucket
  last : ∃ range, ranges.getLast? = some range ∧ 2 ≤ range.keys.card ∧
    (range.keys.card : Int) ≤ bucket + 1

variable {whole : KeyRange} {ranges : List KeyRange}
variable {span width parallelism fewer more : Int}

private theorem quotientUp_eq_ceil {dividend divisor : Int} (positive : 0 < divisor) :
    quotientUp dividend divisor = ⌈(dividend : ℚ) / divisor⌉ := by
  have divides : (0 : ℚ) < divisor := Int.cast_pos.mpr positive
  apply eq_of_forall_ge_iff
  intro bound
  rw [quotientUp_le_iff positive, Int.ceil_le, div_le_iff₀ divides]
  exact_mod_cast Iff.rfl

private theorem partWidth_eq_quotientUp (long : 0 < span) (positive : 1 ≤ parallelism) :
    partWidth span parallelism = quotientUp span parallelism := by
  apply max_eq_right
  rw [← Int.zero_add 1, Int.add_one_le_iff, lt_quotientUp_iff (by omega), Int.zero_mul]
  exact long

theorem partWidth_eq_ceil (long : 0 < span) (positive : 1 ≤ parallelism) :
    partWidth span parallelism = ⌈(span : ℚ) / parallelism⌉ := by
  rw [partWidth_eq_quotientUp long positive, quotientUp_eq_ceil (by omega)]

theorem pred_partWidth_mul_lt (long : 0 < span) (positive : 1 ≤ parallelism) :
    (partWidth span parallelism - 1) * parallelism < span := by
  rw [← lt_quotientUp_iff (by omega), partWidth_eq_quotientUp long positive]
  omega

/-- Parts do not get wider when more of them are asked for. -/
theorem partWidth_antitone (positive : 1 ≤ fewer) (le : fewer ≤ more) :
    partWidth span more ≤ partWidth span fewer := by
  have width := partWidth_pos span fewer
  apply Int.max_le.mpr
  constructor
  · omega
  · rw [quotientUp_le_iff (by omega)]
    calc span ≤ partWidth span fewer * fewer := span_le_partWidth_mul (by omega) span
      _ ≤ partWidth span fewer * more := Int.mul_le_mul_of_nonneg_left le (by omega)

theorem span_le_partCount_mul (positive : 0 < width) (span : Int) :
    span ≤ partCount span width * width := by
  rw [← quotientUp_le_iff positive]
  exact Int.self_le_toNat _

theorem partCount_antitone {narrow wide : Int} (positive : 0 < narrow) (le : narrow ≤ wide) :
    partCount span wide ≤ partCount span narrow := by
  apply Int.toNat_le.mpr
  rw [quotientUp_le_iff (by omega)]
  calc span ≤ partCount span narrow * narrow := span_le_partCount_mul positive span
    _ ≤ partCount span narrow * wide := Int.mul_le_mul_of_nonneg_left le (Int.natCast_nonneg _)

theorem partCount_of_lt (long : 0 < span) (less : span < parallelism) :
    (partCount span (partWidth span parallelism) : Int) = span := by
  have before := pred_partWidth_mul_lt long (Int.le_trans long (Int.le_of_lt less))
  have width := partWidth_pos span parallelism
  have single : partWidth span parallelism = 1 := by
    by_contra wider
    have reaches : parallelism ≤ (partWidth span parallelism - 1) * parallelism :=
      le_mul_of_one_le_left (by omega) (by omega)
    omega
  have across := span_le_partCount_mul Int.zero_lt_one span
  have within := pred_partCount_mul_lt Int.zero_lt_one long
  rw [single]
  omega

theorem half_lt_partCount (positive : 1 ≤ parallelism) (long : parallelism ≤ span) :
    parallelism < 2 * (partCount span (partWidth span parallelism) : Int) := by
  have before := pred_partWidth_mul_lt (Int.lt_of_lt_of_le positive long) positive
  have width := partWidth_pos span parallelism
  have across := span_le_partCount_mul width span
  by_contra half
  have reached : 2 * span ≤ parallelism * partWidth span parallelism := by
    calc 2 * span ≤ 2 * (partCount span (partWidth span parallelism) *
          partWidth span parallelism) := by omega
      _ = 2 * (partCount span (partWidth span parallelism) : Int) *
          partWidth span parallelism := (Int.mul_assoc _ _ _).symm
      _ ≤ parallelism * partWidth span parallelism :=
          Int.mul_le_mul_of_nonneg_right (by omega) (by omega)
  -- parts of more than one key would be narrower by one key and still reach across the span
  have narrow : 2 * (partWidth span parallelism - 1) < partWidth span parallelism := by
    refine Int.lt_of_mul_lt_mul_right ?_ (Int.le_trans Int.one_nonneg positive)
    calc 2 * (partWidth span parallelism - 1) * parallelism =
          2 * ((partWidth span parallelism - 1) * parallelism) := Int.mul_assoc _ _ _
      _ < 2 * span := by omega
      _ ≤ parallelism * partWidth span parallelism := reached
      _ = partWidth span parallelism * parallelism := Int.mul_comm _ _
  have single : partWidth span parallelism = 1 := by omega
  rw [single] at reached
  omega

private theorem card_keys_part {count place : Nat} (notLast : place + 1 ≠ count)
    (nonneg : 0 ≤ width)
    (whole : KeyRange) : ((whole.part width count place).keys.card : Int) = width := by
  simp only [card_keys, part, if_neg notLast]
  omega

/-- The last part holds what the others leave of the span, and its first key. -/
theorem card_keys_lastPart {place : Nat}
    (within : whole.low + place * width ≤ whole.high) :
    ((whole.part width (place + 1) place).keys.card : Int) =
      whole.high - whole.low - place * width + 1 := by
  simp only [card_keys, part, if_true]
  omega

private theorem parts_eq_concat {place : Nat}
    (counted : partCount (whole.high - whole.low) width = place + 1) :
    whole.parts width =
      (List.range place).map (whole.part width (place + 1)) ++
        [whole.part width (place + 1) place] := by
  rw [parts, counted, List.range_succ, List.map_append, List.map_singleton]

private theorem isBalanced_parts (positive : 0 < width) (long : whole.low < whole.high) :
    IsBalanced width (whole.parts width) := by
  have spanPositive : 0 < whole.high - whole.low := by omega
  obtain ⟨place, counted⟩ :=
    Nat.exists_eq_succ_of_ne_zero (Nat.ne_of_gt (partCount_pos positive spanPositive))
  have before := pred_partCount_mul_lt positive spanPositive
  have across := span_le_partCount_mul positive (whole.high - whole.low)
  rw [counted, Nat.cast_succ, Int.add_sub_cancel] at before
  rw [counted, Nat.cast_succ, Int.add_mul, Int.one_mul] at across
  have lastKeys : ((whole.part width (place + 1) place).keys.card : Int) = _ :=
    card_keys_lastPart (by omega)
  rw [parts_eq_concat counted]
  constructor
  · intro range member
    rw [List.dropLast_concat, List.mem_map] at member
    obtain ⟨other, inside, rfl⟩ := member
    have earlier := List.mem_range.mp inside
    exact card_keys_part (by omega) (Int.le_of_lt positive) whole
  · refine ⟨_, List.getLast?_concat, ?_, ?_⟩
    · omega
    · omega

theorem isBalanced_divided (long : whole.low < whole.high) (parallelism : Int) :
    IsBalanced (partWidth (whole.high - whole.low) parallelism) (whole.divided parallelism) := by
  rw [divided_of_lt long]
  exact isBalanced_parts (partWidth_pos _ _) long

theorem length_divided (long : whole.low < whole.high) (parallelism : Int) :
    (whole.divided parallelism).length =
      partCount (whole.high - whole.low) (partWidth (whole.high - whole.low) parallelism) := by
  rw [divided_of_lt long, parts, List.length_map, List.length_range]

/-- There are no fewer parts when more are asked for. -/
theorem length_divided_mono (whole : KeyRange) (positive : 1 ≤ fewer) (le : fewer ≤ more) :
    (whole.divided fewer).length ≤ (whole.divided more).length := by
  by_cases long : whole.low < whole.high
  · rw [length_divided long, length_divided long]
    exact partCount_antitone (partWidth_pos _ _) (partWidth_antitone positive le)
  · rw [divided_of_not_lt long, divided_of_not_lt long]

private theorem card_le_widest {range : KeyRange} (member : range ∈ ranges) :
    range.keys.card ≤ widest ranges :=
  List.le_max_of_le (List.mem_map_of_mem member) (Nat.le_refl _)

private theorem IsBalanced.widest_le {bucket : Int} (balanced : IsBalanced bucket ranges) :
    (widest ranges : Int) ≤ bucket + 1 := by
  obtain ⟨last, ends, positive, atMost⟩ := balanced.last
  have each : ∀ size ∈ ranges.map fun range => range.keys.card, size ≤ (bucket + 1).toNat := by
    rw [List.forall_mem_map, ← List.dropLast_append_getLast? last ends,
      List.forall_mem_append, List.forall_mem_singleton]
    constructor
    · intro range member
      have filled := balanced.others range member
      omega
    · omega
  have bounded : widest ranges ≤ (bucket + 1).toNat := List.max_le_of_forall_le _ _ each
  omega

/-- Some part is at least as wide as the width of the parts. -/
theorem partWidth_le_widest (long : whole.low < whole.high) (positive : 1 ≤ parallelism) :
    partWidth (whole.high - whole.low) parallelism ≤ widest (whole.divided parallelism) := by
  have spanPositive : 0 < whole.high - whole.low := by omega
  have width := partWidth_pos (whole.high - whole.low) parallelism
  have atMost := partWidth_le spanPositive positive
  rw [divided_of_lt long]
  obtain ⟨place, counted⟩ :=
    Nat.exists_eq_succ_of_ne_zero (Nat.ne_of_gt (partCount_pos width spanPositive))
  have first : whole.part (partWidth (whole.high - whole.low) parallelism) (place + 1) 0 ∈
      whole.parts (partWidth (whole.high - whole.low) parallelism) := by
    rw [parts, counted]
    exact List.mem_map_of_mem (List.mem_range.mpr (Nat.succ_pos place))
  have held : ((whole.part (partWidth (whole.high - whole.low) parallelism) (place + 1)
      0).keys.card : Int) ≤ widest (whole.parts _) :=
    Int.ofNat_le.mpr (card_le_widest first)
  cases place with
  | zero =>
      rw [card_keys_lastPart (by omega)] at held
      omega
  | succ others =>
      rw [card_keys_part (by omega) (Int.le_of_lt width)] at held
      exact held

/-- The widest part grows by at most one key when more parts are asked for. -/
theorem widest_divided_le (whole : KeyRange) (positive : 1 ≤ fewer) (le : fewer ≤ more) :
    widest (whole.divided more) ≤ widest (whole.divided fewer) + 1 := by
  by_cases long : whole.low < whole.high
  · have narrower : partWidth (whole.high - whole.low) more ≤ _ :=
      partWidth_antitone positive le
    have atMost := (isBalanced_divided long more).widest_le
    have atLeast := partWidth_le_widest long positive
    omega
  · rw [divided_of_not_lt long, divided_of_not_lt long]
    exact Nat.le_succ _

end TableExport.KeyRange
