import Mathlib.Algebra.GroupWithZero.Nat
import Mathlib.Data.List.Nodup
import TableExport.Export

/-!
Summaries of outcomes in any order. The rows, the failures and the numbers of
what succeeded are the same for every order in which outcomes are collected, and
so is the failure that is reported, since no two outcomes have one number.
-/

set_option autoImplicit false

namespace TableExport.Export

variable {first second outcomes : List Outcome}

theorem totalRows_eq_sum (outcomes : List Outcome) :
    totalRows outcomes = (outcomes.map Outcome.rowCount).sum := by
  induction outcomes with
  | nil => rfl
  | cons outcome rest inductionHypothesis =>
      rw [totalRows, inductionHypothesis, List.map_cons, List.sum_cons]

theorem totalRows_perm (same : first.Perm second) : totalRows first = totalRows second := by
  rw [totalRows_eq_sum, totalRows_eq_sum]
  exact (same.map Outcome.rowCount).sum_nat

theorem failures_perm (same : first.Perm second) : (failures first).Perm (failures second) :=
  same.filterMap _

theorem failures_length_le (outcomes : List Outcome) :
    (failures outcomes).length ≤ outcomes.length :=
  List.length_filterMap_le _ _

theorem failures_cons (outcome : Outcome) (rest : List Outcome) :
    failures (outcome :: rest) =
      match outcome.rows with
      | .ok _ => failures rest
      | .error failure => (outcome.index, failure.message) :: failures rest := by
  unfold failures
  rw [List.filterMap_cons]
  cases outcome.rows with
  | ok frame => rfl
  | error failure => rfl

theorem failures_indices_nodup (distinct : (outcomes.map Outcome.index).Nodup) :
    ((failures outcomes).map Prod.fst).Nodup := by
  have sublist : ((failures outcomes).map Prod.fst).Sublist (outcomes.map Outcome.index) := by
    induction outcomes with
    | nil => exact List.Sublist.slnil
    | cons outcome rest inductionHypothesis =>
        have shorter := inductionHypothesis (List.nodup_cons.mp distinct).2
        rw [failures_cons, List.map_cons]
        cases outcome.rows with
        | ok frame => exact shorter.cons _
        | error failure => exact shorter.cons_cons _
  exact distinct.sublist sublist

theorem firstFailure?_eq_none {failed : List (Nat × String)}
    (unfound : firstFailure? failed = none) : failed = [] := by
  cases failed with
  | nil => rfl
  | cons failure rest =>
      unfold firstFailure? at unfound
      split at unfound
      · cases unfound
      · split at unfound
        · cases unfound
        · cases unfound

theorem firstFailure?_least {failed : List (Nat × String)} {least : Nat × String}
    (found : firstFailure? failed = some least) :
    least ∈ failed ∧ ∀ other ∈ failed, least.1 ≤ other.1 := by
  induction failed generalizing least with
  | nil => cases found
  | cons failure rest inductionHypothesis =>
      unfold firstFailure? at found
      split at found
      · rename_i unfound
        cases found
        rw [firstFailure?_eq_none unfound]
        exact ⟨List.mem_cons_self, List.forall_mem_singleton.mpr (Nat.le_refl _)⟩
      · rename_i other later
        obtain ⟨member, least⟩ := inductionHypothesis later
        split at found
        · rename_i smaller
          cases found
          refine ⟨List.mem_cons_self, List.forall_mem_cons.mpr ⟨Nat.le_refl _, ?_⟩⟩
          exact fun later inside => Nat.le_trans smaller (least later inside)
        · rename_i greater
          cases found
          refine ⟨List.mem_cons_of_mem _ member, List.forall_mem_cons.mpr ⟨?_, least⟩⟩
          omega

/-- The failure that is reported does not depend on the order of the failures. -/
theorem firstFailure?_perm {failed collected : List (Nat × String)}
    (distinct : (failed.map Prod.fst).Nodup) (same : collected.Perm failed) :
    firstFailure? collected = firstFailure? failed := by
  rcases found : firstFailure? failed with _ | least
  · rw [firstFailure?_eq_none found] at same
    rw [same.eq_nil]
    rfl
  · obtain ⟨member, isLeast⟩ := firstFailure?_least found
    rcases foundToo : firstFailure? collected with _ | other
    · rw [firstFailure?_eq_none foundToo] at same
      rw [← same.nil_eq] at member
      cases member
    · obtain ⟨memberToo, isLeastToo⟩ := firstFailure?_least foundToo
      have inside := same.mem_iff.mp memberToo
      have below := isLeast other inside
      have above := isLeastToo least (same.mem_iff.mpr member)
      have sameIndex : other.1 = least.1 := Nat.le_antisymm above below
      exact congrArg some (List.inj_on_of_nodup_map distinct inside member sameIndex)

private theorem insertSorted_perm (number : Nat) (numbers : List Nat) :
    (insertSorted number numbers).Perm (number :: numbers) := by
  induction numbers with
  | nil => exact .refl _
  | cons head rest inductionHypothesis =>
      rw [insertSorted]
      split
      · exact .refl _
      · exact (inductionHypothesis.cons head).trans (.swap number head rest)

private theorem insertSorted_pairwise (number : Nat) {numbers : List Nat}
    (ascending : numbers.Pairwise (· ≤ ·)) : (insertSorted number numbers).Pairwise (· ≤ ·) := by
  induction numbers with
  | nil => exact List.pairwise_singleton _ _
  | cons head rest inductionHypothesis =>
      obtain ⟨above, ascendingRest⟩ := List.pairwise_cons.mp ascending
      rw [insertSorted]
      split
      · rename_i small
        refine List.pairwise_cons.mpr ⟨List.forall_mem_cons.mpr ⟨small, ?_⟩, ascending⟩
        exact fun other inside => Nat.le_trans small (above other inside)
      · rename_i large
        refine List.pairwise_cons.mpr ⟨fun other inside => ?_, inductionHypothesis ascendingRest⟩
        rcases List.mem_cons.mp ((insertSorted_perm number rest).mem_iff.mp inside) with
          rfl | inRest
        · omega
        · exact above other inRest

theorem sorted_perm (numbers : List Nat) : (sorted numbers).Perm numbers := by
  induction numbers with
  | nil => exact .refl _
  | cons head rest inductionHypothesis =>
      exact (insertSorted_perm head (sorted rest)).trans (inductionHypothesis.cons head)

private theorem sorted_pairwise (numbers : List Nat) : (sorted numbers).Pairwise (· ≤ ·) := by
  induction numbers with
  | nil => exact List.Pairwise.nil
  | cons head rest inductionHypothesis => exact insertSorted_pairwise head inductionHypothesis

private theorem sorted_eq_range {numbers : List Nat} {count : Nat}
    (same : numbers.Perm (List.range count)) : sorted numbers = List.range count :=
  ((sorted_perm numbers).trans same).eq_of_pairwise
    (fun _ _ _ _ below above => Nat.le_antisymm below above)
    (sorted_pairwise numbers) List.pairwise_le_range

theorem succeeded_eq_sorted {collected : List Outcome} (noFailure : failures collected = []) :
    succeeded collected = sorted (collected.map Outcome.index) := by
  unfold succeeded
  refine congrArg sorted ?_
  induction collected with
  | nil => rfl
  | cons outcome rest inductionHypothesis =>
      rw [failures_cons] at noFailure
      cases rows : outcome.rows with
      | ok frame =>
          rw [rows] at noFailure
          rw [List.filterMap_cons, List.map_cons, rows]
          exact congrArg _ (inductionHypothesis noFailure)
      | error failure =>
          rw [rows] at noFailure
          cases noFailure

theorem succeeded_eq_range {collected : List Outcome} {count : Nat}
    (noFailure : failures collected = [])
    (numbered : (collected.map Outcome.index).Perm (List.range count)) :
    succeeded collected = List.range count := by
  rw [succeeded_eq_sorted noFailure]
  exact sorted_eq_range numbered

end TableExport.Export
