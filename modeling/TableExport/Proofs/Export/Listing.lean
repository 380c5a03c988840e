import TableExport.Proofs.Export.Rows
import TableExport.Proofs.Text.Order

/-!
Part files as a folder lists them. The number in a name has four digits, or as
many as it needs, so names of one length stand in the order of their numbers. A
longer name does not come behind the shorter ones, but among them: behind those
whose number is at most what its own first digits say. So a listing keeps the
order of the statements exactly as long as no name needs a fifth digit.
-/

set_option autoImplicit false

namespace TableExport.Export

open TableExport.Text
open TableExport.Connection
open TableExport.Database
open TableExport.Files
open TableExport.Sequence

def nameDigits (index : Nat) : Nat :=
  Numeral.paddedLength 4 index

/-- The least number whose name has more than four digits. -/
def firstLongName : Nat :=
  Nat.pow 10 4

private theorem nameDigits_of_short {index : Nat} (short : index < firstLongName) :
    nameDigits index = 4 := by
  rw [nameDigits, ← Numeral.length_padded_eq]
  exact Numeral.length_padded (by decide) short

private theorem partFileName_lt_iff {first second : Nat} (less : first < second) :
    partFileName first < partFileName second ↔
      first ≤ second / Nat.pow 10 (nameDigits second - nameDigits first) := by
  have ending : ".parquet".toList = '.' :: "parquet".toList := rfl
  change (partFileName first).toList < (partFileName second).toList ↔ _
  rw [partFileName_toList, partFileName_toList, List.append_assoc, List.append_assoc,
    append_lt_append_iff rfl, ending]
  simp only [List.lt_irrefl, true_and, false_or]
  exact Numeral.padded_append_lt_iff less (by decide) _ _

private theorem partFileName_lt_of_short {first second : Nat} (less : first < second)
    (short : second < firstLongName) : partFileName first < partFileName second := by
  apply (partFileName_lt_iff less).mpr
  rw [nameDigits_of_short short, nameDigits_of_short (Nat.lt_trans less short), Nat.sub_self]
  change first ≤ second / 1
  rw [Nat.div_one]
  exact Nat.le_of_lt less

private theorem not_partFileName_lt_firstLongName :
    ¬ partFileName ((firstLongName - 1 : Nat) : Int) < partFileName (firstLongName : Int) := by
  intro before
  have below := (partFileName_lt_iff (by decide)).mp before
  exact absurd below (by decide)

private theorem writtenPartFileName_of_isWritable {index : Nat}
    (writable : Numeral.IsWritable index) :
    writtenPartFileName index = .ok (partFileName index) := by
  rw [writtenPartFileName, Numeral.write_of_isWritable writable]
  rfl

private theorem writtenPartFileName_of_not_isWritable {index : Nat}
    (unwritable : ¬ Numeral.IsWritable index) :
    writtenPartFileName index = .error .tooManyToWrite := by
  rw [writtenPartFileName, Numeral.write_of_not_isWritable unwritable]
  rfl

/-- Files in the order in which a folder lists them, which is that of their texts. -/
def listed (files : List String) : List String :=
  files.mergeSort

private theorem listed_eq_iff {files : List String} :
    listed files = files ↔ files.Pairwise (· ≤ ·) := by
  constructor
  · intro same
    have ascending : (listed files).Pairwise fun first second =>
        decide (first ≤ second) = true := by
      apply List.pairwise_mergeSort
      · intro first second third below above
        rw [decide_eq_true_eq] at below above ⊢
        exact String.le_trans below above
      · intro first second
        rw [Bool.or_eq_true, decide_eq_true_eq, decide_eq_true_eq]
        exact String.le_total first second
    rw [same] at ascending
    apply ascending.imp
    intro first second below
    exact of_decide_eq_true below
  · intro ascending
    apply List.mergeSort_of_pairwise
    apply ascending.imp
    intro first second below
    exact decide_eq_true below

private theorem childText_partFileName_lt_iff (folder : List String) (first second : Nat) :
    childText folder (partFileName first) < childText folder (partFileName second) ↔
      partFileName first < partFileName second := by
  obtain ⟨front, _, shown⟩ := childText_front folder
  change (childText folder (partFileName first)).toList <
      (childText folder (partFileName second)).toList ↔
    (partFileName first).toList < (partFileName second).toList
  rw [shown _ (isPlainName_partFileName first).noSlash,
    shown _ (isPlainName_partFileName second).noSlash, append_lt_append_iff rfl]
  simp only [List.lt_irrefl, true_and, false_or]

private theorem childText_partFileName_le_iff (folder : List String) {first second : Nat}
    (less : first < second) :
    childText folder (partFileName first) ≤ childText folder (partFileName second) ↔
      partFileName first < partFileName second := by
  rw [← String.not_lt, childText_partFileName_lt_iff, String.not_lt]
  constructor
  · intro atMost
    apply Classical.byContradiction
    intro notBefore
    have same := partFileName_injective (String.le_antisymm atMost (String.not_lt.mp notBefore))
    omega
  · intro before
    exact String.not_lt.mp (String.lt_asymm before)

/-- The first part files of a folder are listed in their order as long as no name is long. -/
theorem pairwise_partPaths_iff (folder : List String) (count : Nat) :
    (partPaths folder count).Pairwise (· ≤ ·) ↔ count ≤ firstLongName := by
  unfold partPaths
  rw [List.pairwise_map]
  constructor
  · intro ascending
    apply Classical.byContradiction
    intro more
    have inside : firstLongName < (List.range count).length := by
      rw [List.length_range]
      exact Nat.not_le.mp more
    -- the last short name and the first long one would stand in their order
    have less : firstLongName - 1 < firstLongName := by decide
    have before := List.pairwise_iff_getElem.mp ascending _ _ (Nat.lt_trans less inside) inside
      less
    rw [List.getElem_range, List.getElem_range, childText_partFileName_le_iff folder less]
      at before
    exact not_partFileName_lt_firstLongName before
  · intro short
    apply List.pairwise_lt_range.imp_of_mem
    intro first second _ member less
    have within := List.mem_range.mp member
    apply (childText_partFileName_le_iff folder less).mpr
    exact partFileName_lt_of_short less (Nat.lt_of_lt_of_le within short)

section Exporting

variable {trial : Trial} {setting : Setting} {statements : List String} {output : String}
  {maxWorkers : Option (Given Int)} {name : Cell} {completion : Completion}
  {session after : Session} {summary : Summary}

private theorem settle_files {folder : List String} {outcomes : List Outcome}
    (same : (completion outcomes).Perm outcomes)
    (numbered : outcomes.map Outcome.index = List.range outcomes.length)
    (ran : (settle setting folder outcomes completion).run session = (.ok summary, after)) :
    summary.files = partPaths folder outcomes.length := by
  simp only [settle, run_bind_ok_iff] at ran
  obtain ⟨_, _, _, _, _, _, concluding⟩ := ran
  obtain ⟨noFailure, _, files⟩ := conclude_ok concluding
  have indices := same.map Outcome.index
  rw [numbered] at indices
  rw [files, succeeded_eq_range noFailure indices]
  rfl

/-- An export that succeeds names the part files of all its statements, in their order. -/
theorem performBy_files (same : ∀ outcomes, (completion outcomes).Perm outcomes)
    (numbered : ∀ number index sql, (trial number index sql).index = index)
    (ran : (performBy trial setting statements output maxWorkers name completion).run session =
      (.ok summary, after)) :
    summary.files = partPaths (normalSteps output) statements.length := by
  obtain ⟨files, _, _, _, _, _, settled, _⟩ := performBy_settled ran
  have count : (placedOutcomes trial setting statements output files
      session.openings.length).length = statements.length :=
    placedOutcomes_length numbered statements session.openings.length
  have indices : (placedOutcomes trial setting statements output files
      session.openings.length).map Outcome.index = List.range statements.length :=
    placedOutcomes_indices numbered statements session.openings.length
  rw [← count] at indices ⊢
  exact settle_files (same _) indices settled

end Exporting

/-- The name of a part file comes before that of a greater number exactly when the number is at
most what the first digits of the other one say, as many as its own name has; and the files of
an export are listed in the order of the statements exactly when there are no more of them than
names with four digits. -/
theorem partFiles_in_order_iff {first second : Nat} (less : first < second) :
    (Numeral.IsWritable second →
      ∃ name other : String, writtenPartFileName first = .ok name ∧
        writtenPartFileName second = .ok other ∧
        (name < other ↔
          first ≤ second / Nat.pow 10 (nameDigits second - nameDigits first))) ∧
    (¬ Numeral.IsWritable second → writtenPartFileName second = .error .tooManyToWrite) ∧
    ∀ (setting : Setting) (config : Config) (statements : List String) (output : String)
        (maxWorkers : Option (Given Int)) (fetchSize : Given Int) (name : Cell)
        (completion : Completion) (session after : Session) (summary : Summary),
      (∀ outcomes, (completion outcomes).Perm outcomes) →
      (perform setting config statements output maxWorkers fetchSize name completion).run
        session = (.ok summary, after) →
      (listed summary.files = summary.files ↔ statements.length ≤ firstLongName) := by
  refine ⟨?_, writtenPartFileName_of_not_isWritable, ?_⟩
  · intro writable
    have firstWritable : Numeral.IsWritable first := by
      unfold Numeral.IsWritable at *
      omega
    exact ⟨_, _, writtenPartFileName_of_isWritable firstWritable,
      writtenPartFileName_of_isWritable writable, partFileName_lt_iff less⟩
  · intro setting config statements output maxWorkers fetchSize name completion session after
      summary same ran
    have numbered (number index : Nat) (sql : String) :=
      outcomeOf_index setting.database config number index sql fetchSize
    rw [performBy_files same numbered ran, listed_eq_iff, pairwise_partPaths_iff]

theorem partFiles_in_order_iff_two_statements :
    ∃ after,
      1000 < 10000 ∧ 1000 ≤ 10000 / Nat.pow 10 (nameDigits 10000 - nameDigits 1000) ∧
      "part-1000.parquet" < "part-10000.parquet" ∧
      (perform
        (.timeless { Behaviour.silent with
          defaultReply := some (.table ⟨["x"], [[.integer 6]]⟩) })
        ⟨"sqlite", none, none, none, none, some "db", none⟩ ["SELECT 1", "SELECT 2"] "out"
        (some (.value 2)) (.value 10) (.text "t") List.reverse).run .empty =
          (.ok ⟨2, 2, ["out/part-0000.parquet", "out/part-0001.parquet"], .zero⟩, after) ∧
      listed ["out/part-0000.parquet", "out/part-0001.parquet"] =
        ["out/part-0000.parquet", "out/part-0001.parquet"] := by
  have less : 1000 < 10000 := by decide
  obtain ⟨written, _, exports⟩ := partFiles_in_order_iff less
  obtain ⟨name, other, named, otherNamed, order⟩ :=
    written (Numeral.isWritable_of_small (by decide))
  have first : writtenPartFileName (1000 : Nat) = .ok "part-1000.parquet" :=
    ok_of_toOption (by decide +kernel)
  have second : writtenPartFileName (10000 : Nat) = .ok "part-10000.parquet" :=
    ok_of_toOption (by decide +kernel)
  cases named.symm.trans first
  cases otherNamed.symm.trans second
  have ran : (perform
      (.timeless { Behaviour.silent with
        defaultReply := some (.table ⟨["x"], [[.integer 6]]⟩) })
      ⟨"sqlite", none, none, none, none, some "db", none⟩ ["SELECT 1", "SELECT 2"] "out"
      (some (.value 2)) (.value 10) (.text "t") List.reverse).run .empty =
        (.ok ⟨2, 2, ["out/part-0000.parquet", "out/part-0001.parquet"], .zero⟩, _) :=
    run_of_outcome (by decide +kernel)
  have inOrder := exports _ _ _ _ _ _ _ _ _ _ _ (fun _ => List.reverse_perm _) ran
  have within : 1000 ≤ 10000 / Nat.pow 10 (nameDigits 10000 - nameDigits 1000) := by decide
  exact ⟨_, less, within, order.mpr within, ran, inOrder.mpr (by decide)⟩

/-- The number with a fifth digit comes before the one it follows. -/
theorem part_10000_before_part_9999 :
    9999 < 10000 ∧ writtenPartFileName 9999 = .ok "part-9999.parquet" ∧
      writtenPartFileName 10000 = .ok "part-10000.parquet" ∧
      ¬ "part-9999.parquet" < "part-10000.parquet" :=
  ⟨by decide, ok_of_toOption (by decide +kernel), ok_of_toOption (by decide +kernel), by decide⟩

end TableExport.Export
