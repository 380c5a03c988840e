import TableExport.Proofs.KeyRange.Tiling

/-!
The division of a range rounds twice: the width of a part is a quotient rounded
upwards, and the count of parts is a quotient by that width rounded upwards. The
first rounding keeps the count within what was asked for, and the second leaves
at least one key to the last part.
-/

set_option autoImplicit false

namespace TableExport.KeyRange

theorem quotientUp_le_iff {dividend divisor bound : Int} (positive : 0 < divisor) :
    quotientUp dividend divisor ≤ bound ↔ dividend ≤ bound * divisor := by
  unfold quotientUp
  rw [Int.fdiv_eq_ediv_of_nonneg _ (Int.le_of_lt positive), Int.neg_le_iff,
    Int.le_ediv_iff_mul_le positive, Int.neg_mul, Int.neg_le_neg_iff]

theorem lt_quotientUp_iff {dividend divisor bound : Int} (positive : 0 < divisor) :
    bound < quotientUp dividend divisor ↔ bound * divisor < dividend := by
  rw [← Int.not_le, ← Int.not_le, quotientUp_le_iff positive]

theorem partWidth_pos (span parts : Int) : 0 < partWidth span parts :=
  Int.lt_of_lt_of_le Int.zero_lt_one (Int.le_max_left 1 _)

theorem partWidth_le {span parallelism : Int} (long : 0 < span) (positive : 1 ≤ parallelism) :
    partWidth span parallelism ≤ span := by
  apply Int.max_le.mpr
  constructor
  · exact long
  · rw [quotientUp_le_iff (by omega)]
    exact le_mul_of_one_le_right (Int.le_of_lt long) positive

theorem span_le_partWidth_mul {parallelism : Int} (positive : 0 < parallelism) (span : Int) :
    span ≤ partWidth span parallelism * parallelism :=
  (quotientUp_le_iff positive).mp (Int.le_max_right 1 _)

private theorem partCount_le {span width parallelism : Int} (positive : 0 < width)
    (reached : span ≤ width * parallelism) (nonneg : 0 ≤ parallelism) :
    (partCount span width : Int) ≤ parallelism := by
  have atMost : quotientUp span width ≤ parallelism := by
    rw [quotientUp_le_iff positive, Int.mul_comm]
    exact reached
  unfold partCount
  omega

theorem partCount_pos {span width : Int} (positive : 0 < width) (long : 0 < span) :
    0 < partCount span width := by
  have counted : 0 < quotientUp span width := by
    rw [lt_quotientUp_iff positive, Int.zero_mul]
    exact long
  unfold partCount
  omega

theorem pred_partCount_mul_lt {span width : Int} (positive : 0 < width) (long : 0 < span) :
    ((partCount span width : Int) - 1) * width < span := by
  have counted := partCount_pos positive long
  rw [← lt_quotientUp_iff positive]
  unfold partCount at counted ⊢
  omega

/-- The parts from a given place on reach from the start of that part to the end. -/
theorem tiling_part_from {whole : KeyRange} {width : Int} (positive : 0 < width)
    {count : Nat} (fits : whole.low + ((count : Int) - 1) * width ≤ whole.high)
    (remaining place : Nat) (reaches : place + (remaining + 1) = count) :
    Tiling (whole.low + place * width)
      ((List.range' place (remaining + 1)).map (whole.part width count)) whole.high := by
  -- on the parts that are left; only the last one ends at the end of the whole
  induction remaining generalizing place with
  | zero =>
      have last : place + 1 = count := reaches
      rw [List.range'_succ, List.range'_zero, List.map_cons, List.map_nil]
      simp only [part, if_pos last]
      apply Tiling.single
      have same : (count : Int) - 1 = place := by omega
      rw [same] at fits
      exact fits
  | succ remaining inductionHypothesis =>
      have notLast : place + 1 ≠ count := by omega
      have later := inductionHypothesis (place + 1) (by omega)
      rw [List.range'_succ, List.map_cons]
      simp only [part, if_neg notLast]
      apply Tiling.cons
      · omega
      · have next : whole.low + place * width + width - 1 + 1 =
            whole.low + ((place + 1 : Nat) : Int) * width := by
          rw [Int.natCast_add, Int.add_mul, Int.natCast_one, Int.one_mul]
          omega
        rw [next]
        exact later

private theorem tiling_parts {whole : KeyRange} {width : Int} (positive : 0 < width)
    (long : whole.low < whole.high) :
    Tiling whole.low (whole.parts width) whole.high := by
  have spanPositive : 0 < whole.high - whole.low := by omega
  have counted := partCount_pos positive spanPositive
  have before := pred_partCount_mul_lt positive spanPositive
  obtain ⟨remaining, same⟩ := Nat.exists_eq_add_of_lt counted
  have fits : whole.low + ((partCount (whole.high - whole.low) width : Int) - 1) * width ≤
      whole.high := by omega
  have tiled := tiling_part_from positive fits remaining 0 (by omega)
  simp only [parts, List.range_eq_range']
  have start : whole.low + ((0 : Nat) : Int) * width = whole.low := by omega
  rw [start] at tiled
  have length : remaining + 1 = partCount (whole.high - whole.low) width := by omega
  rw [length] at tiled
  exact tiled

theorem divided_of_not_lt {whole : KeyRange} (short : ¬ whole.low < whole.high)
    (parallelism : Int) : whole.divided parallelism = [whole] :=
  if_pos (Int.not_lt.mp short)

theorem divided_of_lt {whole : KeyRange} (long : whole.low < whole.high)
    (parallelism : Int) :
    whole.divided parallelism =
      whole.parts (partWidth (whole.high - whole.low) parallelism) :=
  if_neg (Int.not_le.mpr long)

theorem tiling_divided {whole : KeyRange} (ordered : whole.low ≤ whole.high)
    (parallelism : Int) :
    Tiling whole.low (whole.divided parallelism) whole.high := by
  by_cases long : whole.low < whole.high
  · rw [divided_of_lt long]
    exact tiling_parts (partWidth_pos _ _) long
  · rw [divided_of_not_lt long]
    exact Tiling.single ordered

theorem length_divided_le (whole : KeyRange) {parallelism : Int} (positive : 1 ≤ parallelism) :
    ((whole.divided parallelism).length : Int) ≤ parallelism := by
  by_cases long : whole.low < whole.high
  · rw [divided_of_lt long]
    unfold parts
    rw [List.length_map, List.length_range]
    exact partCount_le (partWidth_pos _ _)
      (span_le_partWidth_mul (by omega) _) (by omega)
  · rw [divided_of_not_lt long]
    exact positive

theorem divided_ne_nil (whole : KeyRange) (parallelism : Int) :
    whole.divided parallelism ≠ [] := by
  by_cases ordered : whole.low ≤ whole.high
  · exact (tiling_divided ordered parallelism).ne_nil
  · rw [divided_of_not_lt (fun long => ordered (Int.le_of_lt long))]
    exact List.cons_ne_nil _ _

/-- The parts ascend, also when there is only one. -/
theorem pairwise_divided (whole : KeyRange) (parallelism : Int) :
    (whole.divided parallelism).Pairwise fun earlier later => earlier.low < later.low := by
  by_cases ordered : whole.low ≤ whole.high
  · exact (tiling_divided ordered parallelism).pairwise_low_lt
  · rw [divided_of_not_lt (fun long => ordered (Int.le_of_lt long))]
    exact List.pairwise_singleton _ _

end TableExport.KeyRange
