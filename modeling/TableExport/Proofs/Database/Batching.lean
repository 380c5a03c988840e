import Mathlib.Algebra.Order.Floor.Div
import Mathlib.Data.List.TakeWhile
import TableExport.Proofs.Database.Fetching
import TableExport.Proofs.Frame.Faults

/-!
Fetching with any size of batches against one batch of all rows. The cursor is
asked once for each batch and once more. Columns, their kinds and the order of the
rows do not depend on the size, but cells can: a truth value that a batch counts
among integers shows its count where a text in another batch makes a text of the
column, and shows its name where the batch holds the text as well.
-/

set_option autoImplicit false

namespace TableExport.Database.Dialogue

variable {columns : List String} {rows : List (List Cell)} {size : Int}

section Batches

variable {Item : Type}

private theorem length_batches {size : Nat} (positive : 0 < size) (items : List Item) :
    (batches size items).length = items.length ⌈/⌉ size := by
  rw [Nat.ceilDiv_eq_add_pred_div]
  fun_induction batches size items with
  | case1 => omega
  | case2 => exact (Nat.div_eq_of_lt (by rw [List.length_nil]; omega)).symm
  | case3 different first rest inductionHypothesis =>
      rw [List.length_cons, inductionHypothesis, List.length_drop]
      by_cases short : (first :: rest).length ≤ size
      · -- nothing is left for another batch
        rw [Nat.div_eq_of_lt (by omega), Nat.div_eq_sub_div positive, Nat.div_eq_of_lt]
        all_goals rw [List.length_cons] at short ⊢; omega
      · rw [Nat.div_eq_sub_div positive (a := (first :: rest).length + size - 1) (by omega)]
        congr 2
        omega

private theorem batches_ne_nil {size : Nat} (positive : 0 < size) {items : List Item}
    (filled : items ≠ []) : batches size items ≠ [] := by
  intro empty
  apply filled
  rw [← flatten_batches positive items, empty, List.flatten_nil]

end Batches

private theorem equalWidths_of_even {width : Nat} {batches : List (List (List Cell))}
    (even : ∀ batch ∈ batches, Frame.batchWidth batch = width) :
    Frame.equalWidths batches = true := by
  cases batches with
  | nil => rfl
  | cons batch rest =>
      obtain ⟨first, later⟩ := List.forall_mem_cons.mp even
      rw [Frame.equalWidths, List.all_eq_true]
      intro other member
      rw [first, later other member, beq_self_eq_true]

def fetching (size : Int) (count : Nat) : List Call :=
  List.replicate count (.fetchMany (.value size))

theorem run_fetchBatches_of_sound
    (sound : ∀ batch ∈ batches size.toNat rows, Frame.fault? columns batch = none)
    (equal : Frame.equalWidths (batches size.toNat rows) = true) (calls : List Call) :
    (fetchBatches columns size rows).run calls =
      (.ok (Frame.ofBatches columns (batches size.toNat rows)),
        calls ++ fetching size ((batches size.toNat rows).length + 1)) := by
  have all : (batches size.toNat rows).takeWhile
      (fun batch => (Frame.fault? columns batch).isNone) = batches size.toNat rows := by
    rw [List.takeWhile_eq_self_iff]
    intro batch member
    rw [sound batch member]
    rfl
  unfold fetchBatches
  simp only [all, List.drop_length, List.head?_nil, Option.bind_none, equal, if_true]
  rfl

theorem run_fetchBatches_of_fault {first : List (List Cell)} {rest : List (List (List Cell))}
    {fault : Frame.Fault} (found : batches size.toNat rows = first :: rest)
    (faulty : Frame.fault? columns first = some fault) (calls : List Call) :
    (fetchBatches columns size rows).run calls =
      (.error (.shape fault), calls ++ fetching size 1) := by
  have undelivered :
      (first :: rest).takeWhile (fun batch => (Frame.fault? columns batch).isNone) = [] := by
    rw [List.takeWhile_cons_of_neg]
    rw [faulty]
    exact Bool.false_ne_true
  unfold fetchBatches
  simp only [found, undelivered, List.length_nil, List.drop_zero, List.head?_cons, Option.bind_some,
    faulty]
  rfl

/-- Any size of batches fetches a regular result with distinct names as one batch would, but for
truth values that a batch counts in a column where another batch holds a text. -/
theorem fetchBatches_eq_single_iff (regular : Frame.IsRegular columns rows) (filled : rows ≠ [])
    (positive : 0 < size) (calls : List Call) :
    ((Frame.namesOver columns columns.length).Nodup → ∃ frame,
      (fetchBatches columns size rows).run calls =
        (.ok frame, calls ++ fetching size (rows.length ⌈/⌉ size.toNat + 1)) ∧
      frame.columns = (Frame.ofBatches columns [rows]).columns ∧
      frame.kinds = (Frame.ofBatches columns [rows]).kinds ∧
      frame.Holds rows ∧
      (frame.rows = (Frame.ofBatches columns [rows]).rows ↔
        ∀ batch ∈ batches size.toNat rows, ∀ column < columns.length,
          Frame.HoldsText rows column → ¬ Frame.CountsTruths batch column)) ∧
    (¬ (Frame.namesOver columns columns.length).Nodup → ∃ name,
      List.Duplicate name (Frame.namesOver columns columns.length) ∧
      (fetchBatches columns size rows).run calls =
        (.error (.shape (.repeatedName name)), calls ++ fetching size 1)) := by
  have positive : 0 < size.toNat := by omega
  have whole := flatten_batches positive rows
  have nonempty : ∀ batch ∈ batches size.toNat rows, batch ≠ [] :=
    fun batch member => ne_nil_of_mem_batches member
  have inside : ∀ batch ∈ batches size.toNat rows, Frame.IsRegular columns batch := by
    intro batch member
    refine regular.subset fun row memberToo => ?_
    rw [← whole]
    exact List.mem_flatten_of_mem member memberToo
  have fault : ∀ batch ∈ batches size.toNat rows, Frame.fault? columns batch =
      (Frame.repeatedName? (Frame.namesOver columns columns.length)).map .repeatedName :=
    fun batch member => Frame.fault?_of_isRegular (inside batch member) (nonempty batch member)
  have present := batches_ne_nil positive filled
  constructor
  · intro distinct
    rw [Frame.repeatedName?_eq_none_iff.mpr distinct] at fault
    have equal : Frame.equalWidths (batches size.toNat rows) = true :=
      equalWidths_of_even fun batch member =>
        (inside batch member).batchWidth (nonempty batch member)
    have ran := run_fetchBatches_of_sound fault equal calls
    rw [length_batches positive] at ran
    have joined := Frame.ofBatches_regular (whole.symm ▸ regular) nonempty present
    have kept := Frame.rows_ofBatches_eq_iff (whole.symm ▸ regular) nonempty present
    rw [whole] at joined kept
    refine ⟨_, ran, ?_, ?_, ?_, kept⟩
    · rw [joined, Frame.ofBatches_single regular filled]
    · rw [joined, Frame.ofBatches_single regular filled]
    · have holds := Frame.ofBatches_holds fault equal nonempty
      rwa [whole] at holds
  · intro repeated
    rw [← Frame.repeatedName?_eq_none_iff] at repeated
    obtain ⟨name, twice⟩ := Option.ne_none_iff_exists'.mp repeated
    obtain ⟨first, rest, split⟩ := List.exists_cons_of_ne_nil present
    have faulty := fault first (split ▸ List.mem_cons_self)
    rw [twice] at faulty
    exact ⟨name, Frame.duplicate_of_repeatedName? twice,
      run_fetchBatches_of_fault split faulty calls⟩

def mixed : List (List Cell) :=
  [[.boolean true], [.integer 1], [.text "x"], [.boolean false]]

private theorem mixed_isRegular : Frame.IsRegular ["a"] mixed where
  even := by decide
  stored := by
    intro row member cell inside
    simp only [mixed, List.mem_cons, List.not_mem_nil, or_false] at member
    rcases member with rfl | rfl | rfl | rfl <;> cases List.mem_singleton.mp inside
    · trivial
    · exact (show Frame.isWithin Frame.wordBound 1 = true by decide)
    · trivial
    · trivial
  unmixed := by
    intro column row member other _ value text number
    simp only [mixed, List.mem_cons, List.not_mem_nil, or_false] at member
    rcases member with rfl | rfl | rfl | rfl <;> cases column <;> cases number

theorem mixed_differs_from_single : ∃ frame,
    (fetchBatches ["a"] 2 mixed).run [] = (.ok frame, fetching 2 3) ∧ frame.Holds mixed ∧
      frame.rows ≠ (Frame.ofBatches ["a"] [mixed]).rows := by
  obtain ⟨frame, ran, _, _, holds, kept⟩ :=
    (fetchBatches_eq_single_iff mixed_isRegular (List.cons_ne_nil _ _) (by decide : (0 : Int) < 2)
      []).1 (by decide)
  refine ⟨frame, ran, holds, fun same => ?_⟩
  have truths : [[.boolean true], [.integer 1]] ∈ batches (2 : Int).toNat mixed := by
    decide +kernel
  refine kept.mp same _ truths 0 (by decide) ?_ ⟨?_, ?_, ?_⟩
  · exact ⟨[.text "x"], by decide, "x", rfl⟩
  · exact ⟨[.boolean true], by decide, true, rfl⟩
  · exact ⟨[.integer 1], by decide, 1, rfl⟩
  · rintro ⟨row, member, text, found⟩
    simp only [List.mem_cons, List.not_mem_nil, or_false] at member
    rcases member with rfl | rfl <;> cases found

/-- In batches of two a truth value is shown as its count, in batches of four as its name. -/
theorem mixed_shows_count_by_two :
    (fetchBatches ["a"] 2 mixed).run [] =
        (.ok ⟨["a"], [.text], [[.text "1"], [.text "1"], [.text "x"], [.text "false"]]⟩,
          fetching 2 3) ∧
      (fetchBatches ["a"] 4 mixed).run [] =
        (.ok ⟨["a"], [.text], [[.text "true"], [.text "1"], [.text "x"], [.text "false"]]⟩,
          fetching 4 2) :=
  ⟨Sequence.run_of_toOption (by decide +kernel), Sequence.run_of_toOption (by decide +kernel)⟩

end TableExport.Database.Dialogue
