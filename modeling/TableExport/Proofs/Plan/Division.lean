import TableExport.Proofs.KeyRange.Division
import TableExport.Proofs.Plan.Steps
import TableExport.Proofs.Sequence.Effects

/-!
Dividing a range as a piece of planning. The message about the parts shows five
integers, and an integer of more digits than the limit has no display; one digit
to spare for the ends leaves room for the span and the width of the parts.
-/

set_option autoImplicit false

namespace TableExport

open TableExport.Text
open TableExport.Log

def Failure.untold : Failure :=
  .cell (.numeral .tooManyToWrite)

structure KeyRange.Within (digits : Nat) (range : KeyRange) : Prop where
  low : range.low.natAbs ≤ Nat.pow 10 digits
  high : range.high.natAbs ≤ Nat.pow 10 digits

namespace KeyRange.Within

variable {digits : Nat} {whole : KeyRange}

theorem isWritable_low (within : whole.Within digits) (few : digits < Numeral.digitLimit) :
    Numeral.IsWritable whole.low := by
  have bound := within.low
  exact Numeral.isWritable_of_le_twice few (by omega)

theorem isWritable_high (within : whole.Within digits) (few : digits < Numeral.digitLimit) :
    Numeral.IsWritable whole.high := by
  have bound := within.high
  exact Numeral.isWritable_of_le_twice few (by omega)

private theorem isWritable_span (within : whole.Within digits) (few : digits < Numeral.digitLimit) :
    Numeral.IsWritable (whole.high - whole.low) := by
  have low := within.low
  have high := within.high
  exact Numeral.isWritable_of_le_twice few (by omega)

theorem divided (within : whole.Within digits) (parallelism : Int) :
    ∀ part ∈ whole.divided parallelism, part.Within digits := by
  intro part member
  by_cases ordered : whole.low ≤ whole.high
  · have low := within.low
    have high := within.high
    obtain ⟨after, filled, before⟩ :=
      (tiling_divided ordered parallelism).bounds_of_mem part member
    constructor
    · omega
    · omega
  · rw [divided_of_not_lt (fun long => ordered (Int.le_of_lt long))] at member
    rw [List.mem_singleton.mp member]
    exact within

end KeyRange.Within

namespace Planning

open TableExport.Sequence

variable {exchange : Exchange} {range : KeyRange} {digits : Nat} {parallelism : Int}

theorem countText_refuses (count : Int) :
    RefusesOnly (· = .numeral .tooManyToWrite) (countText count) := by
  by_cases writable : Numeral.IsWritable count
  · rw [countText, shown_integer writable]
    exact refusesOnly_ok _ _
  · have refused : countText count = .error (.numeral .tooManyToWrite) := by
      change (Numeral.write count).mapError Cell.Fault.numeral = _
      rw [Numeral.write_of_not_isWritable writable]
      rfl
    rw [refused]
    exact refusesOnly_error rfl

private theorem rangeDivided_text {low high count width parallelism : Int}
    (lowWritable : Numeral.IsWritable low) (highWritable : Numeral.IsWritable high)
    (countWritable : Numeral.IsWritable count) (widthWritable : Numeral.IsWritable width)
    (parallelismWritable : Numeral.IsWritable parallelism) :
    ∃ text, (Event.rangeDivided low high count width parallelism).text = .ok text := by
  simp only [Event.text, countText, shown_integer lowWritable, shown_integer highWritable,
    shown_integer countWritable, shown_integer widthWritable,
    shown_integer parallelismWritable]
  exact ⟨_, rfl⟩

private theorem rangeDivided_unshown {low high count width : Int}
    (unwritable : ¬ Numeral.IsWritable parallelism) :
    (Event.rangeDivided low high count width parallelism).text =
      .error (.numeral .tooManyToWrite) := by
  apply RefusesOnly.eq_error
  · refine (countText_refuses low).bind fun _ => (countText_refuses high).bind fun _ => ?_
    refine (countText_refuses count).bind fun _ => (countText_refuses width).bind fun _ => ?_
    exact (countText_refuses parallelism).bind fun _ => refusesOnly_ok _ _
  · intro text shown
    simp only [Event.text, bind_ok_iff] at shown
    obtain ⟨_, _, _, _, _, _, _, _, _, found, _⟩ := shown
    exact unwritable (isWritable_of_shown found)

theorem divide_run_of_not_lt {whole : KeyRange} {parallelism : Int} (exchange : Exchange)
    (positive : 1 ≤ parallelism) (short : ¬ whole.low < whole.high) :
    (divide whole parallelism).run exchange =
      (.ok (whole.divided parallelism), exchange) := by
  have notRefused : ¬ parallelism ≤ 0 := by omega
  simp only [divide, if_neg notRefused, if_neg short, Sequence.run_pure]

theorem divide_run_of_isWritable {whole : KeyRange} {parallelism : Int} {exchange : Exchange}
    (sound : exchange.journal.IsSound) (positive : 1 ≤ parallelism)
    (lowWritable : Numeral.IsWritable whole.low)
    (highWritable : Numeral.IsWritable whole.high)
    (spanWritable : Numeral.IsWritable (whole.high - whole.low))
    (parallelismWritable : Numeral.IsWritable parallelism) (long : whole.low < whole.high) :
    ∃ after, (divide whole parallelism).run exchange = (.ok (whole.divided parallelism), after) ∧
      after.journal.IsSound := by
  have notRefused : ¬ parallelism ≤ 0 := by omega
  have spanPositive : 0 < whole.high - whole.low := by omega
  have atMost := KeyRange.length_divided_le whole positive
  have widthPositive := KeyRange.partWidth_pos (whole.high - whole.low) parallelism
  have widthAtMost := KeyRange.partWidth_le spanPositive positive
  -- the message also shows the count and the width, which the given numbers bound
  have countWritable :
      Numeral.IsWritable ((whole.divided parallelism).length : Int) := by
    unfold Numeral.IsWritable at parallelismWritable ⊢
    omega
  have widthWritable :
      Numeral.IsWritable (KeyRange.partWidth (whole.high - whole.low) parallelism) := by
    unfold Numeral.IsWritable at spanWritable ⊢
    omega
  obtain ⟨text, shown⟩ := rangeDivided_text lowWritable highWritable countWritable
    widthWritable parallelismWritable
  obtain ⟨after, told, stays⟩ := tell_run_of_sound sound rfl shown
  refine ⟨after, ?_, stays⟩
  simp only [divide, if_neg notRefused, if_pos long, Sequence.run_bind, told,
    Sequence.run_pure]

private theorem divide_run_of_lt {whole : KeyRange} {parallelism : Int} {exchange : Exchange}
    (sound : exchange.journal.IsSound) (positive : 1 ≤ parallelism)
    (lowShort : Numeral.length whole.low < Numeral.digitLimit)
    (highShort : Numeral.length whole.high < Numeral.digitLimit)
    (parallelismShort : Numeral.length parallelism < Numeral.digitLimit)
    (long : whole.low < whole.high) :
    ∃ after, (divide whole parallelism).run exchange =
      (.ok (whole.divided parallelism), after) := by
  have spanWritable : Numeral.IsWritable (whole.high - whole.low) :=
    Numeral.isWritable_of_natAbs_le lowShort highShort (by omega)
  obtain ⟨after, ran, _⟩ := divide_run_of_isWritable sound positive
    (Numeral.isWritable_of_length_lt lowShort) (Numeral.isWritable_of_length_lt highShort)
    spanWritable (Numeral.isWritable_of_length_lt parallelismShort) long
  exact ⟨after, ran⟩

theorem divide_run_of_within (within : range.Within digits) (few : digits < Numeral.digitLimit)
    (sound : exchange.journal.IsSound) (positive : 1 ≤ parallelism)
    (writable : Numeral.IsWritable parallelism) :
    ∃ after, (divide range parallelism).run exchange = (.ok (range.divided parallelism), after) ∧
      after.journal.IsSound := by
  by_cases long : range.low < range.high
  · exact divide_run_of_isWritable sound positive (within.isWritable_low few)
      (within.isWritable_high few) (within.isWritable_span few) writable long
  · exact ⟨exchange, divide_run_of_not_lt exchange positive long, sound⟩

theorem divide_run_of_unwritable (positive : 1 ≤ parallelism)
    (unwritable : ¬ Numeral.IsWritable parallelism) (long : range.low < range.high) :
    (divide range parallelism).run exchange = (.error .untold, exchange) := by
  have notRefused : ¬ parallelism ≤ 0 := by omega
  have told : (tell (.rangeDivided range.low range.high (range.divided parallelism).length
      (KeyRange.partWidth (range.high - range.low) parallelism) parallelism)).run exchange =
        (.error .untold, exchange) :=
    tell_run_of_unshown rfl (rangeDivided_unshown unwritable) exchange
  simp only [divide, if_neg notRefused, if_pos long, run_bind, told]

theorem divide_run_of_short {whole : KeyRange} {parallelism : Int} {exchange : Exchange}
    (sound : exchange.journal.IsSound) (positive : 1 ≤ parallelism)
    (lowShort : Numeral.length whole.low < Numeral.digitLimit)
    (highShort : Numeral.length whole.high < Numeral.digitLimit)
    (parallelismShort : Numeral.length parallelism < Numeral.digitLimit) :
    ∃ after, (divide whole parallelism).run exchange =
      (.ok (whole.divided parallelism), after) := by
  by_cases long : whole.low < whole.high
  · exact divide_run_of_lt sound positive lowShort highShort parallelismShort long
  · exact ⟨exchange, divide_run_of_not_lt exchange positive long⟩

/-- Dividing a range into at least one part gives parts that tile it, each key in one of
them; a range that ends before it begins stays as it is. -/
theorem divide_partitions (whole : KeyRange) (parallelism : Int) (exchange : Exchange)
    (sound : exchange.journal.IsSound) (positive : 1 ≤ parallelism)
    (lowShort : Numeral.length whole.low < Numeral.digitLimit)
    (highShort : Numeral.length whole.high < Numeral.digitLimit)
    (parallelismShort : Numeral.length parallelism < Numeral.digitLimit) :
    ∃ parts after, (divide whole parallelism).run exchange = (.ok parts, after) ∧
      (whole.low ≤ whole.high →
        1 ≤ parts.length ∧ (parts.length : Int) ≤ parallelism ∧
        (∀ range ∈ parts, range.low ≤ range.high) ∧
        parts.head?.map KeyRange.low = some whole.low ∧
        parts.getLast?.map KeyRange.high = some whole.high ∧
        parts.IsChain (fun range next => next.low = range.high + 1) ∧
        ∀ value : Int,
          parts.countP (fun range => decide (range.low ≤ value ∧ value ≤ range.high)) =
            if whole.low ≤ value ∧ value ≤ whole.high then 1 else 0) ∧
      (whole.high < whole.low → parts = [whole]) := by
  have ran : ∃ after, (divide whole parallelism).run exchange =
      (.ok (whole.divided parallelism), after) := by
    by_cases long : whole.low < whole.high
    · exact divide_run_of_lt sound positive lowShort highShort parallelismShort long
    · exact ⟨exchange, divide_run_of_not_lt exchange positive long⟩
  obtain ⟨after, ran⟩ := ran
  refine ⟨whole.divided parallelism, after, ran, ?_, ?_⟩
  · intro ordered
    have tiling := KeyRange.tiling_divided ordered parallelism
    refine ⟨?_, KeyRange.length_divided_le whole positive, ?_, ?_, ?_, tiling.isChain,
      tiling.countP_mem⟩
    · exact List.length_pos_iff.mpr tiling.ne_nil
    · intro range member
      exact (tiling.bounds_of_mem range member).2.1
    · rw [List.head?_eq_some_head tiling.ne_nil, Option.map_some, tiling.head_low]
    · rw [List.getLast?_eq_some_getLast tiling.ne_nil, Option.map_some, tiling.getLast_high]
  · intro inverted
    exact KeyRange.divided_of_not_lt (by omega) parallelism

theorem divide_partitions_fourteen_keys :
    ∃ parts after,
      (divide ⟨-3, 10⟩ 4).run ⟨⟨10, none, none, []⟩, []⟩ = (.ok parts, after) ∧
        1 ≤ parts.length ∧ (parts.length : Int) ≤ 4 ∧
        parts.countP (fun range => decide (range.low ≤ 5 ∧ 5 ≤ range.high)) = 1 := by
  obtain ⟨parts, after, ran, ordered, _⟩ :=
    divide_partitions ⟨-3, 10⟩ 4 ⟨⟨10, none, none, []⟩, []⟩ (isSound_of_idle rfl rfl)
      (by decide) (by decide) (by decide) (by decide)
  obtain ⟨present, atMost, _, _, _, _, covered⟩ := ordered (by decide)
  exact ⟨parts, after, ran, present, atMost, covered 5⟩

end Planning

end TableExport
