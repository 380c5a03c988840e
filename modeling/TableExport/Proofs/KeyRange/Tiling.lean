import Mathlib.Algebra.Order.Ring.Rat
import Mathlib.Data.Rat.Cast.Order
import Mathlib.Tactic.Linarith
import TableExport.KeyRange

/-!
Ranges of keys that follow each other without a gap in the integers. Over the
rationals there are gaps: between the end of one range and the start of the next
lies an open interval of length one. A value between the first and the last key
lies in exactly one of the ranges when no such interval holds it, and otherwise
in none.
-/

set_option autoImplicit false

namespace TableExport.KeyRange

/-- A value that satisfies both comparisons of the range. -/
def Holds (range : KeyRange) (value : ℚ) : Prop :=
  (range.low : ℚ) ≤ value ∧ value ≤ range.high

instance (range : KeyRange) (value : ℚ) : Decidable (range.Holds value) :=
  inferInstanceAs (Decidable (_ ∧ _))

/-- A value strictly between the start of the range and the integer before it. -/
def Follows (range : KeyRange) (value : ℚ) : Prop :=
  (range.low : ℚ) - 1 < value ∧ value < range.low

instance (range : KeyRange) (value : ℚ) : Decidable (range.Follows value) :=
  inferInstanceAs (Decidable (_ ∧ _))

private theorem not_follows_intCast (range : KeyRange) (value : Int) :
    ¬ range.Follows value := by
  rintro ⟨after, before⟩
  have first : range.low - 1 < value := by exact_mod_cast after
  have second : value < range.low := by exact_mod_cast before
  omega

/-- Behind the end of a range the next one is reached or its gap holds the value. -/
theorem not_follows_iff {next : KeyRange} {middle : Int} {value : ℚ}
    (starts : next.low = middle + 1) (late : (middle : ℚ) < value) :
    ¬ next.Follows value ↔ ((middle + 1 : Int) : ℚ) ≤ value := by
  have nextStarts : (next.low : ℚ) - 1 = middle := by
    rw [starts]
    push_cast
    linarith
  unfold Follows
  rw [nextStarts, starts, not_and_or, not_lt, not_lt]
  exact or_iff_right (not_le.mpr late)

inductive Tiling : Int → List KeyRange → Int → Prop
  | single {low high : Int} :
      low ≤ high → Tiling low [⟨low, high⟩] high
  | cons {low middle high : Int} {rest : List KeyRange} :
      low ≤ middle → Tiling (middle + 1) rest high →
      Tiling low (⟨low, middle⟩ :: rest) high

namespace Tiling

variable {low high : Int} {ranges : List KeyRange}

private theorem eq_cons (tiling : Tiling low ranges high) :
    ∃ first rest, ranges = first :: rest ∧ first.low = low := by
  cases tiling with
  | single within => exact ⟨_, _, rfl, rfl⟩
  | cons within tiled => exact ⟨_, _, rfl, rfl⟩

theorem ne_nil (tiling : Tiling low ranges high) : ranges ≠ [] := by
  obtain ⟨first, rest, same, _⟩ := tiling.eq_cons
  rw [same]
  exact List.cons_ne_nil first rest

private theorem low_le_high (tiling : Tiling low ranges high) : low ≤ high := by
  induction tiling with
  | single within => exact within
  | cons within _ inductionHypothesis => omega

theorem bounds_of_mem (tiling : Tiling low ranges high) :
    ∀ range ∈ ranges, low ≤ range.low ∧ range.low ≤ range.high ∧ range.high ≤ high := by
  induction tiling with
  | single within =>
      intro range member
      cases List.mem_singleton.mp member
      exact ⟨Int.le_refl _, within, Int.le_refl _⟩
  | cons within tiled inductionHypothesis =>
      intro range member
      rcases List.mem_cons.mp member with first | later
      · subst range
        have rest := tiled.low_le_high
        exact ⟨Int.le_refl _, within, by dsimp only; omega⟩
      · have bounds := inductionHypothesis range later
        exact ⟨by omega, bounds.2⟩

theorem head_low (tiling : Tiling low ranges high) :
    (ranges.head tiling.ne_nil).low = low := by
  cases tiling with
  | single within => rfl
  | cons within tiled => rfl

theorem getLast_high (tiling : Tiling low ranges high) :
    (ranges.getLast tiling.ne_nil).high = high := by
  induction tiling with
  | single within => rfl
  | cons within tiled inductionHypothesis =>
      rw [List.getLast_cons tiled.ne_nil]
      exact inductionHypothesis

theorem isChain (tiling : Tiling low ranges high) :
    ranges.IsChain fun range next => next.low = range.high + 1 := by
  induction tiling with
  | single within => exact List.IsChain.singleton _
  | cons within tiled inductionHypothesis =>
      obtain ⟨first, rest, same, starts⟩ := tiled.eq_cons
      subst same
      exact List.isChain_cons_cons.mpr ⟨starts, inductionHypothesis⟩

theorem pairwise_low_lt (tiling : Tiling low ranges high) :
    ranges.Pairwise fun earlier later => earlier.low < later.low := by
  induction tiling with
  | single within => exact List.pairwise_singleton _ _
  | cons within tiled inductionHypothesis =>
      refine List.pairwise_cons.mpr ⟨?_, inductionHypothesis⟩
      intro later member
      have bounds := tiled.bounds_of_mem later member
      dsimp only
      omega

private theorem countP_eq_zero_of_lt (tiling : Tiling low ranges high) {value : ℚ}
    (below : value < low) :
    ranges.countP (fun range => decide (range.Holds value)) = 0 := by
  apply List.countP_eq_zero.mpr
  intro range member held
  have starts : (low : ℚ) ≤ range.low :=
    Int.cast_le.mpr (tiling.bounds_of_mem range member).1
  have holds : range.Holds value := of_decide_eq_true held
  linarith [holds.1]

private theorem not_follows_of_lt (tiling : Tiling low ranges high) {value : ℚ}
    (below : value ≤ (low : ℚ) - 1) : ∀ range ∈ ranges, ¬ range.Follows value := by
  intro range member follows
  have starts : (low : ℚ) ≤ range.low :=
    Int.cast_le.mpr (tiling.bounds_of_mem range member).1
  linarith [follows.1]

/-- A value in between lies in one range, unless a gap before a later range holds it. -/
theorem countP_holds (tiling : Tiling low ranges high) (value : ℚ) :
    ranges.countP (fun range => decide (range.Holds value)) =
      if ((low : ℚ) ≤ value ∧ value ≤ high) ∧
        ∀ range ∈ ranges.tail, ¬ range.Follows value then 1 else 0 := by
  induction tiling with
  | @single low high within =>
      rw [List.countP_singleton]
      simp only [decide_eq_true_eq, List.tail_cons, List.not_mem_nil, false_implies,
        implies_true, and_true]
      rfl
  | @cons low middle high rest within tiled inductionHypothesis =>
      have lowMiddle : (low : ℚ) ≤ middle := Int.cast_le.mpr within
      have middleHigh : (middle : ℚ) + 1 ≤ high := by
        exact_mod_cast tiled.low_le_high
      rw [List.countP_cons, List.tail_cons]
      -- the first range and the rest cannot both hold the value
      by_cases early : value ≤ middle
      · have before : value < ((middle + 1 : Int) : ℚ) := by
          push_cast
          linarith
        have wellBefore : value ≤ ((middle + 1 : Int) : ℚ) - 1 := by
          push_cast
          linarith
        have noneLater := tiled.countP_eq_zero_of_lt before
        have noGap := tiled.not_follows_of_lt wellBefore
        rw [noneLater, Nat.zero_add]
        refine if_congr ?_ rfl rfl
        rw [decide_eq_true_eq]
        constructor
        · intro holds
          exact ⟨⟨holds.1, by linarith⟩, noGap⟩
        · intro between
          exact ⟨between.1.1, early⟩
      · have late : (middle : ℚ) < value := lt_of_not_ge early
        have notFirst : ¬ KeyRange.Holds ⟨low, middle⟩ value := fun holds => early holds.2
        obtain ⟨next, others, same, starts⟩ := tiled.eq_cons
        rw [inductionHypothesis, decide_eq_false notFirst, if_neg Bool.false_ne_true,
          Nat.add_zero]
        refine if_congr ?_ rfl rfl
        rw [same, List.tail_cons, List.forall_mem_cons, not_follows_iff starts late]
        constructor
        · rintro ⟨⟨after, atMost⟩, noGap⟩
          exact ⟨⟨by linarith, atMost⟩, after, noGap⟩
        · rintro ⟨⟨_, atMost⟩, after, noGap⟩
          exact ⟨⟨after, atMost⟩, noGap⟩

theorem countP_mem (tiling : Tiling low ranges high) (value : Int) :
    ranges.countP (fun range => decide (range.low ≤ value ∧ value ≤ range.high)) =
      if low ≤ value ∧ value ≤ high then 1 else 0 := by
  have counted := tiling.countP_holds value
  simp only [not_follows_intCast, not_false_eq_true, implies_true, and_true, Holds,
    Int.cast_le] at counted
  exact counted

end Tiling

end TableExport.KeyRange
