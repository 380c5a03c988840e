import Mathlib.Data.List.Nodup
import TableExport.Proofs.Export.Keeping
import TableExport.Proofs.Files.Names
import TableExport.Proofs.Text.Numeral

/-!
The places of part files. Every statement has a file name of its own, so in a
folder on disk no part file takes the place of another one of the same export:
what a statement that succeeded has written is there when the export is over.
-/

set_option autoImplicit false

namespace TableExport.Export

open TableExport.Text
open TableExport.Files

/-! ### Names -/

theorem partFileName_toList (index : Nat) :
    (partFileName index).toList =
      "part-".toList ++ (Numeral.padded 4 index).toList ++ ".parquet".toList := by
  have nonneg : ¬ (index : Int) < 0 := by omega
  rw [partFileName, if_neg nonneg, String.toList_append, String.toList_append,
    Int.natAbs_natCast]

theorem partFileName_injective {first second : Nat}
    (same : partFileName first = partFileName second) : first = second := by
  have texts := congrArg String.toList same
  rw [partFileName_toList, partFileName_toList, List.append_left_inj,
    List.append_right_inj] at texts
  exact Numeral.padded_injective (String.toList_injective texts)

theorem isPlainName_partFileName (index : Nat) : IsPlainName (partFileName index) := by
  have absent {character : Char} (noDigit : character.isDigit = false)
      (front : character ∉ "part-".toList) (back : character ∉ ".parquet".toList) :
      character ∉ (partFileName index).toList := by
    rw [partFileName_toList, List.mem_append, List.mem_append]
    rintro ((inFront | inDigits) | inBack)
    · exact front inFront
    · rw [Numeral.isDigit_of_mem_padded inDigits] at noDigit
      cases noDigit
    · exact back inBack
  exact ⟨absent (by decide) (by decide) (by decide), absent (by decide) (by decide) (by decide),
    'p', _, by rw [partFileName_toList]; rfl, by decide⟩

def partPaths (folder : List String) (count : Nat) : List String :=
  (List.range count).map fun (index : Nat) => childText folder (partFileName index)

theorem partPaths_nodup (folder : List String) (count : Nat) : (partPaths folder count).Nodup := by
  refine List.Nodup.map ?_ List.nodup_range
  intro first second same
  exact partFileName_injective
    (childText_injective (isPlainName_partFileName first) (isPlainName_partFileName second) same)

/-! ### Places -/

/-- The part files of an export stand below its folder on disk: their paths are not spelled as
addresses. -/
def IsOnDisk (setting : Setting) (output : String) : Prop :=
  looksAddressed (expandHome setting.home?
    (childText (normalSteps output) (partFileName 0))) = false

instance (setting : Setting) (output : String) : Decidable (IsOnDisk setting output) :=
  inferInstanceAs (Decidable (looksAddressed _ = false))

section Placing

variable {setting : Setting} {output : String} {files : Files.Tree} {outcome : Outcome}
  {frame : Frame}

theorem outcomeOf_index (behaviour : Database.Behaviour) (config : Connection.Config)
    (number index : Nat) (sql : String) (fetchSize : Given Int) :
    (outcomeOf behaviour config number index sql fetchSize).index = index := by
  unfold outcomeOf
  split
  · rfl
  · rfl
  · rfl
  · rfl

private theorem partPlace_ok {home : Option String} {path : String} {place : Option (List String)}
    (found : partPlace files home path frame = .ok place) :
    files.placeFor home path = .ok place := by
  unfold partPlace at found
  split at found
  · cases found
  · cases found
  · exact (Sequence.mapError_ok_iff _ _ _).mp found

private theorem placed_index (home : Option String) (folder : List String) :
    (outcome.placed files home folder).index = outcome.index := by
  unfold Outcome.placed
  split
  · rfl
  · split
    · rfl
    · rfl

theorem placed_rows_ok {home : Option String} {folder : List String}
    (written : (outcome.placed files home folder).rows = .ok frame) :
    outcome.rows = .ok frame ∧
      files.placeFor home (childText folder (partFileName outcome.index)) =
        .ok (outcome.placed files home folder).place := by
  unfold Outcome.placed at written ⊢
  split at written
  · rename_i failure failed
    rw [failed] at written
    cases written
  · rename_i found rows
    split at written
    · rename_i place stands
      rw [rows] at written
      cases written
      rw [rows]
      exact ⟨rfl, partPlace_ok stands⟩
    · cases written

/-- Below a folder on disk, rows that are written stand under the name of their part file. -/
theorem getLast?_of_placed (onDisk : IsOnDisk setting output)
    (written : (outcome.placed files setting.home? (normalSteps output)).rows = .ok frame) :
    ∃ steps, (outcome.placed files setting.home? (normalSteps output)).place = some steps ∧
      steps.getLast? = some (partFileName outcome.index) := by
  have unaddressed : looksAddressed (expandHome setting.home?
      (childText (normalSteps output) (partFileName outcome.index))) = false :=
    (looksAddressed_childText _ _ (isPlainName_partFileName _)
      (isPlainName_partFileName 0)).trans onDisk
  exact getLast?_of_placeFor (isPlainName_partFileName _) unaddressed (placed_rows_ok written).2

theorem placedOutcomes_indices {trial : Trial}
    (numbered : ∀ number index sql, (trial number index sql).index = index)
    (statements : List String) (opened : Nat) :
    (placedOutcomes trial setting statements output files opened).map Outcome.index =
      List.range statements.length := by
  have numbers : statements.zipIdx.map Prod.snd = List.range statements.length := by
    rw [List.zipIdx_map_snd, List.range_eq_range']
  rw [placedOutcomes, outcomesOf, List.map_map, List.map_map, ← numbers]
  refine List.map_congr_left fun entry _ => ?_
  exact (placed_index _ _).trans (numbered _ _ _)

theorem placedOutcomes_length {trial : Trial}
    (numbered : ∀ number index sql, (trial number index sql).index = index)
    (statements : List String) (opened : Nat) :
    (placedOutcomes trial setting statements output files opened).length =
      statements.length := by
  rw [← List.length_map Outcome.index, placedOutcomes_indices numbered, List.length_range]

theorem placedOutcomes_index_at {trial : Trial}
    (numbered : ∀ number index sql, (trial number index sql).index = index)
    {statements : List String} {opened index : Nat}
    (within : index < (placedOutcomes trial setting statements output files opened).length) :
    (placedOutcomes trial setting statements output files opened)[index].index = index := by
  have listed : ((placedOutcomes trial setting statements output files opened).map
      Outcome.index)[index]? = some index := by
    rw [placedOutcomes_indices numbered,
      List.getElem?_range (placedOutcomes_length numbered statements opened ▸ within)]
  rw [List.getElem?_map, List.getElem?_eq_getElem within, Option.map_some] at listed
  exact Option.some.inj listed

end Placing

/-! ### Part files -/

def HasPart (parts : List Part) (steps : List String) (frame : Frame) : Prop :=
  parts.filter (fun part => part.steps == steps) = [⟨steps, frame⟩]

section Keeping

variable {outcome : Outcome} {outcomes : List Outcome} {frame stored : Frame}
  {steps : List String} {parts : List Part}

private theorem hasPart_keptIn (rows : outcome.rows = .ok frame)
    (place : outcome.place = some steps) :
    HasPart (outcome.keptIn parts) steps frame.stored := by
  have others : (parts.filter fun other => other.steps != steps).filter
      (fun part => part.steps == steps) = [] := by
    rw [List.filter_filter, List.filter_eq_nil_iff]
    intro part _ both
    rw [Bool.and_eq_true] at both
    rw [bne, both.1] at both
    cases both.2
  rw [HasPart, Outcome.keptIn, rows, place]
  dsimp only
  rw [List.filter_append, others, List.nil_append]
  exact List.filter_cons_of_pos (beq_self_eq_true steps)

theorem HasPart.keptIn (has : HasPart parts steps stored)
    (elsewhere : (∃ frame, outcome.rows = .ok frame) → outcome.place ≠ some steps) :
    HasPart (outcome.keptIn parts) steps stored := by
  unfold Outcome.keptIn
  split
  · rename_i frame other rows place
    have different : other ≠ steps := by
      rintro rfl
      exact elsewhere ⟨frame, rows⟩ place
    have kept : (parts.filter fun part => part.steps != other).filter
        (fun part => part.steps == steps) = parts.filter fun part => part.steps == steps := by
      rw [List.filter_filter]
      refine List.filter_congr fun part _ => ?_
      cases same : part.steps == steps with
      | false => rfl
      | true =>
          rw [beq_iff_eq] at same
          rw [same, Bool.true_and]
          exact bne_iff_ne.mpr different.symm
    rw [HasPart, List.filter_append, kept, has]
    rw [List.filter_cons_of_neg (by rw [beq_iff_eq]; exact different), List.filter_nil,
      List.append_nil]
  · exact has

theorem HasPart.partsKept (has : HasPart parts steps stored)
    (elsewhere : ∀ other ∈ outcomes, (∃ frame, other.rows = .ok frame) → other.place ≠ some steps) :
    HasPart (partsKept outcomes parts) steps stored := by
  induction outcomes generalizing parts with
  | nil => exact has
  | cons other rest inductionHypothesis =>
      obtain ⟨first, later⟩ := List.forall_mem_cons.mp elsewhere
      exact inductionHypothesis (has.keptIn first) later

/-- Rows that are written under a name of their own are there when all are kept. -/
theorem hasPart_partsKept (distinct : (outcomes.map Outcome.index).Nodup)
    (named : ∀ other ∈ outcomes, ∀ steps, (∃ frame, other.rows = .ok frame) →
      other.place = some steps → steps.getLast? = some (partFileName other.index))
    (member : outcome ∈ outcomes) (rows : outcome.rows = .ok frame)
    (place : outcome.place = some steps) :
    HasPart (partsKept outcomes parts) steps frame.stored := by
  induction outcomes generalizing parts with
  | nil => cases member
  | cons first rest inductionHypothesis =>
      obtain ⟨fresh, distinctRest⟩ := List.nodup_cons.mp distinct
      obtain ⟨namedFirst, namedRest⟩ := List.forall_mem_cons.mp named
      rcases List.mem_cons.mp member with rfl | inRest
      · -- a later file in its place would have its name, and so its number
        refine (hasPart_keptIn rows place).partsKept ?_
        intro other inside written samePlace
        have ours := namedFirst steps ⟨frame, rows⟩ place
        have theirs := namedRest other inside steps written samePlace
        have same := partFileName_injective (Option.some.inj (ours.symm.trans theirs))
        exact fresh (same ▸ List.mem_map_of_mem inside)
      · exact inductionHypothesis distinctRest namedRest inRest

end Keeping

/-! ### Part files of an export -/

section Writing

variable {trial : Trial} {setting : Setting} {statements : List String} {output : String}
  {files : Files.Tree} {opened : Nat} {outcome : Outcome} {frame : Frame}

theorem placedOutcomes_written
    (member : outcome ∈ placedOutcomes trial setting statements output files opened)
    (rows : outcome.rows = .ok frame) :
    files.placeFor setting.home? (childText (normalSteps output) (partFileName outcome.index)) =
        .ok outcome.place ∧
      (IsOnDisk setting output → ∃ steps, outcome.place = some steps ∧
        steps.getLast? = some (partFileName outcome.index)) := by
  obtain ⟨tried, _, rfl⟩ := List.mem_map.mp member
  rw [placed_index]
  exact ⟨(placed_rows_ok rows).2, fun onDisk => getLast?_of_placed onDisk rows⟩

theorem placedOutcomes_hasPart
    (numbered : ∀ number index sql, (trial number index sql).index = index)
    (onDisk : IsOnDisk setting output) (parts : List Part)
    (member : outcome ∈ placedOutcomes trial setting statements output files opened)
    (rows : outcome.rows = .ok frame) :
    ∃ steps, outcome.place = some steps ∧
      HasPart (partsKept (placedOutcomes trial setting statements output files opened) parts)
        steps frame.stored := by
  have distinct : ((placedOutcomes trial setting statements output files opened).map
      Outcome.index).Nodup := by
    rw [placedOutcomes_indices numbered]
    exact List.nodup_range
  obtain ⟨steps, place, _⟩ := (placedOutcomes_written member rows).2 onDisk
  refine ⟨steps, place, hasPart_partsKept distinct ?_ member rows place⟩
  rintro other inside there ⟨written, otherRows⟩ otherPlace
  obtain ⟨found, same, last⟩ := (placedOutcomes_written inside otherRows).2 onDisk
  rw [otherPlace] at same
  cases same
  exact last

end Writing

end TableExport.Export
