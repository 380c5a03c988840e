import TableExport.Proofs.KeyRange.Balance
import TableExport.Proofs.Plan.Division

/-!
How evenly planning divides a range, and what more parallelism changes. The
statements are about divisions that are known to succeed: their integers leave one
digit to spare for the message about the parts.
-/

set_option autoImplicit false

namespace TableExport.Planning

open TableExport.Text
open TableExport.Log

/-- A range of several keys is divided into parts of one size, up to the last one. There is a
part for each step of a span that is shorter than the parallelism, and otherwise more than half
of the parts that were asked for are there. -/
theorem divide_balances (whole : KeyRange) (parallelism : Int) (exchange : Exchange)
    (sound : exchange.journal.IsSound) (positive : 1 ≤ parallelism)
    (lowShort : Numeral.length whole.low < Numeral.digitLimit)
    (highShort : Numeral.length whole.high < Numeral.digitLimit)
    (parallelismShort : Numeral.length parallelism < Numeral.digitLimit)
    (long : whole.low < whole.high) :
    ∃ parts after, (divide whole parallelism).run exchange = (.ok parts, after) ∧
      KeyRange.IsBalanced ⌈((whole.high - whole.low : Int) : ℚ) / parallelism⌉ parts ∧
      (whole.high - whole.low < parallelism →
        (parts.length : Int) = whole.high - whole.low) ∧
      (parallelism ≤ whole.high - whole.low →
        (parallelism : ℚ) / 2 < parts.length ∧ (parts.length : Int) ≤ parallelism) := by
  have spanPositive : 0 < whole.high - whole.low := by omega
  obtain ⟨after, ran⟩ := divide_run_of_short sound positive lowShort highShort parallelismShort
  have balanced := KeyRange.isBalanced_divided long parallelism
  rw [KeyRange.partWidth_eq_ceil spanPositive positive] at balanced
  refine ⟨whole.divided parallelism, after, ran, balanced, ?_, ?_⟩
  · intro less
    rw [KeyRange.length_divided long]
    exact KeyRange.partCount_of_lt spanPositive less
  · intro reaches
    have half := KeyRange.half_lt_partCount positive reaches
    rw [← KeyRange.length_divided long] at half
    refine ⟨?_, KeyRange.length_divided_le whole positive⟩
    rw [div_lt_iff₀ (by norm_num), mul_comm]
    exact_mod_cast half

theorem divide_balances_eleven_keys :
    ∃ parts after,
      (divide ⟨0, 10⟩ 7).run ⟨⟨10, none, none, []⟩, []⟩ = (.ok parts, after) ∧
        KeyRange.IsBalanced 2 parts ∧ (7 : ℚ) / 2 < parts.length ∧ (parts.length : Int) ≤ 7 := by
  obtain ⟨parts, after, ran, balanced, _, used⟩ :=
    divide_balances ⟨0, 10⟩ 7 ⟨⟨10, none, none, []⟩, []⟩ (isSound_of_idle rfl rfl)
      (by decide) (by decide) (by decide) (by decide) (by decide)
  have bucket : ⌈((10 - 0 : Int) : ℚ) / (7 : Int)⌉ = 2 := by norm_num
  rw [bucket] at balanced
  exact ⟨parts, after, ran, balanced, used (by decide)⟩

/-- More parallelism gives no fewer parts, and none that is wider by more than one key than the
widest part before. -/
theorem divide_refines (whole : KeyRange) (fewer more : Int) (exchange exchangeToo : Exchange)
    (sound : exchange.journal.IsSound) (soundToo : exchangeToo.journal.IsSound)
    (positive : 1 ≤ fewer) (le : fewer ≤ more)
    (lowShort : Numeral.length whole.low < Numeral.digitLimit)
    (highShort : Numeral.length whole.high < Numeral.digitLimit)
    (fewerShort : Numeral.length fewer < Numeral.digitLimit)
    (moreShort : Numeral.length more < Numeral.digitLimit) :
    ∃ parts partsToo after afterToo,
      (divide whole fewer).run exchange = (.ok parts, after) ∧
      (divide whole more).run exchangeToo = (.ok partsToo, afterToo) ∧
      parts.length ≤ partsToo.length ∧
      KeyRange.widest partsToo ≤ KeyRange.widest parts + 1 := by
  obtain ⟨after, ran⟩ := divide_run_of_short sound positive lowShort highShort fewerShort
  obtain ⟨afterToo, ranToo⟩ :=
    divide_run_of_short soundToo (Int.le_trans positive le) lowShort highShort moreShort
  exact ⟨_, _, after, afterToo, ran, ranToo, KeyRange.length_divided_mono whole positive le,
    KeyRange.widest_divided_le whole positive le⟩

theorem divide_refines_five_to_nine :
    ∃ parts partsToo after afterToo,
      (divide ⟨1, 30⟩ 5).run ⟨⟨10, none, none, []⟩, []⟩ = (.ok parts, after) ∧
      (divide ⟨1, 30⟩ 9).run ⟨⟨10, none, none, []⟩, []⟩ = (.ok partsToo, afterToo) ∧
      parts.length ≤ partsToo.length ∧
      KeyRange.widest partsToo ≤ KeyRange.widest parts + 1 :=
  divide_refines ⟨1, 30⟩ 5 9 _ _ (isSound_of_idle rfl rfl) (isSound_of_idle rfl rfl)
    (by decide) (by decide) (by decide) (by decide) (by decide) (by decide)

end TableExport.Planning
