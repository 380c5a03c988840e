import Mathlib.Data.List.Forall2
import TableExport.Frame

/-!
Frames hold the rows they are made of. The kind of a column is at least as wide
as that of every batch, and the kind of a batch as that of every cell in it, so a
cell is only ever converted to wider kinds. No row is lost between the batches:
they all have the width of the first row.
-/

set_option autoImplicit false

namespace TableExport.Frame

/-! ### Joining kinds -/

private theorem width_le_join_left (first second : Kind) :
    first.width ≤ (first.join second).width := by
  unfold Kind.join
  split
  · omega
  · exact Nat.le_refl _

private theorem width_le_join_right (first second : Kind) :
    second.width ≤ (first.join second).width := by
  unfold Kind.join
  split
  · exact Nat.le_refl _
  · omega

private theorem width_le_foldl_join_start {Item : Type} (kindAt : Item → Kind) (start : Kind)
    (items : List Item) :
    start.width ≤ (items.foldl (fun kind item => kind.join (kindAt item)) start).width := by
  induction items generalizing start with
  | nil => exact Nat.le_refl _
  | cons item rest inductionHypothesis =>
      have joined := width_le_join_left start (kindAt item)
      exact Nat.le_trans joined (inductionHypothesis _)

theorem width_le_foldl_join {Item : Type} (kindAt : Item → Kind) {start : Kind}
    {items : List Item} {item : Item} (member : item ∈ items) :
    (kindAt item).width ≤
      (items.foldl (fun kind item => kind.join (kindAt item)) start).width := by
  induction items generalizing start with
  | nil => cases member
  | cons first rest inductionHypothesis =>
      rcases List.mem_cons.mp member with rfl | inRest
      · have joined := width_le_join_right start (kindAt item)
        exact Nat.le_trans joined (width_le_foldl_join_start kindAt _ rest)
      · exact inductionHypothesis inRest

/-! ### The kinds of columns -/

private theorem getD_map_range {width column : Nat} (kindAt : Nat → Kind)
    (inside : column < width) :
    ((List.range width).map kindAt).getD column .null = kindAt column := by
  rw [List.getD_eq_getElem?_getD, List.getElem?_map, List.getElem?_range inside]
  rfl

theorem getD_kindsOf {width column : Nat} (rows : List (List Cell)) (inside : column < width) :
    (kindsOf width rows).getD column .null = columnKind rows column :=
  getD_map_range (columnKind rows) inside

private theorem getD_joinKinds {width column : Nat} (batches : List (List Kind))
    (inside : column < width) :
    (joinKinds width batches).getD column .null =
      batches.foldl (fun kind kinds => kind.join (kinds.getD column .null)) .null :=
  getD_map_range _ inside

private theorem length_joinKinds (width : Nat) (batches : List (List Kind)) :
    (joinKinds width batches).length = width := by
  rw [joinKinds, List.length_map, List.length_range]

theorem length_kindsOf (width : Nat) (rows : List (List Cell)) :
    (kindsOf width rows).length = width := by
  rw [kindsOf, List.length_map, List.length_range]

/-! ### Converting rows -/

theorem length_convertRow (kinds : List Kind) (row : List Cell) :
    (convertRow kinds row).length = kinds.length := by
  rw [convertRow, List.length_map, List.length_zipIdx]

theorem cellAt_convertRow {kinds : List Kind} {column : Nat} (row : List Cell)
    (inside : column < kinds.length) :
    cellAt (convertRow kinds row) column =
      convert (kinds.getD column .null) (cellAt row column) := by
  rw [cellAt, convertRow, List.getD_eq_getElem?_getD, List.getElem?_map, List.getElem?_zipIdx,
    List.getElem?_eq_getElem inside, List.getD_eq_getElem?_getD,
    List.getElem?_eq_getElem inside]
  simp only [Option.map_some, Option.getD_some, Nat.zero_add]

/-! ### Wider forms of cells -/

/-- The forms of a cell in wider columns: a truth value is counted as nothing or one, an integer
is brought to the nearest double, and any cell is shown as its text. -/
inductive Widens : Cell → Cell → Prop
  | same (cell : Cell) : Widens cell cell
  | counted (value : Bool) : Widens (.boolean value) (.integer (truthNumber value))
  | measured (value : Bool) :
      Widens (.boolean value) (.real (Number.Binary64.ofNat (truthNumber value)))
  | nearest (value : Int) :
      Widens (.integer value) (.real (Number.Binary64.ofRatio (value < 0) value.natAbs 1))
  | shown (cell : Cell) : Widens cell (textOf cell)

/-- A column of a kind has room for a cell as it is; for nothing, every column has. -/
def Kind.Fits : Kind → Cell → Prop
  | _, .null => True
  | .boolean, .boolean _ => True
  | .integer, .integer value => isWithin wordBound value = true
  | .wideInteger, .integer _ => True
  | .real, .real _ => True
  | .text, .text _ => True
  | _, _ => False

private theorem widens_convert (kind : Kind) (cell : Cell) : Widens cell (convert kind cell) := by
  unfold convert
  split
  · exact .counted _
  · exact .counted _
  · exact .measured _
  · exact .nearest _
  · exact .shown _
  · exact .same _

private theorem isWithin_truthNumber (value : Bool) :
    isWithin wordBound (truthNumber value) = true := by
  cases value <;> decide

private theorem width_kindOf_integer (value : Int) :
    (kindOf (.integer value)).width = if isWithin wordBound value then 2 else 3 := by
  rw [kindOf]
  split <;> rfl

private theorem fits_convert_integer {kind : Kind} {value : Int}
    (wide : (kindOf (.integer value)).width ≤ kind.width) :
    kind.Fits (convert kind (.integer value)) := by
  rw [width_kindOf_integer] at wide
  cases kind with
  | null | boolean => exact absurd wide (by split <;> decide)
  | integer =>
      change isWithin wordBound value = true
      by_contra outside
      rw [if_neg outside] at wide
      exact absurd wide (by decide)
  | wideInteger | real | text => trivial

theorem fits_convert {kind : Kind} {cell : Cell} (wide : (kindOf cell).width ≤ kind.width) :
    kind.Fits (convert kind cell) := by
  cases cell with
  | null => cases kind <;> trivial
  | boolean value =>
      cases kind with
      | null => exact absurd wide (show ¬1 ≤ 0 by decide)
      | integer => exact isWithin_truthNumber value
      | boolean | wideInteger | real | text => trivial
  | integer value => exact fits_convert_integer wide
  | real value =>
      cases kind with
      | real | text => trivial
      | null | boolean | integer | wideInteger => exact absurd wide (show ¬4 ≤ _ by decide)
  | decimal value | text value | bytes value | date value =>
      cases kind with
      | text => trivial
      | null | boolean | integer | wideInteger | real =>
          exact absurd wide (show ¬5 ≤ _ by decide)

private theorem width_le_of_fits {kind : Kind} {cell : Cell} (fits : kind.Fits cell) :
    (kindOf cell).width ≤ kind.width := by
  cases cell with
  | null => exact Nat.zero_le _
  | integer value =>
      rw [width_kindOf_integer]
      cases kind with
      | integer => exact Nat.le_of_eq (if_pos fits)
      | wideInteger => split <;> decide
      | null | boolean | real | text => cases fits
  | boolean value | real value | decimal value | text value | bytes value | date value =>
      cases kind <;> first | exact Nat.le_refl _ | cases fits

/-- A cell as it is stored in a column of a kind. It is brought to its form there in two steps,
by way of the column of its batch. -/
structure Widened (kind : Kind) (cell stored : Cell) : Prop where
  fits : kind.Fits stored
  widens : ∃ between, Widens cell between ∧ Widens between stored

structure HoldsRow (kinds : List Kind) (row stored : List Cell) : Prop where
  width : kinds.length = row.length
  length : stored.length = row.length
  cells : ∀ column, column < row.length →
    Widened (kinds.getD column .null) (cellAt row column) (cellAt stored column)

structure Holds (frame : Frame) (rows : List (List Cell)) : Prop where
  aligned : frame.kinds.length = frame.columns.length
  rows : List.Forall₂ (HoldsRow frame.kinds) rows frame.rows

theorem Holds.length_eq {frame : Frame} {rows : List (List Cell)} (holds : frame.Holds rows) :
    frame.rows.length = rows.length :=
  holds.rows.length_eq.symm

/-- A file without columns keeps no rows, but then no row had a cell. -/
theorem Holds.stored {frame : Frame} {rows : List (List Cell)} (holds : frame.Holds rows)
    (filled : ∀ row ∈ rows, row ≠ []) : frame.stored.Holds rows := by
  unfold Frame.stored
  split
  · rename_i bare
    refine ⟨holds.aligned, ?_⟩
    cases rows with
    | nil => exact .nil
    | cons row rest =>
        obtain ⟨_, _, first, _⟩ := List.forall₂_cons_left_iff.mp holds.rows
        have kindless : frame.kinds.length = 0 := by
          rw [holds.aligned, List.isEmpty_iff.mp bare, List.length_nil]
        have empty : row = [] := List.eq_nil_of_length_eq_zero (first.width ▸ kindless)
        exact absurd empty (filled row List.mem_cons_self)
  · exact holds

/-! ### Widths of rows -/

private theorem length_of_ragged? {expected index : Nat} {rows : List (List Cell)}
    (even : ragged? expected index rows = none) : ∀ row ∈ rows, row.length = expected := by
  induction rows generalizing index with
  | nil => exact List.forall_mem_nil _
  | cons row rest inductionHypothesis =>
      unfold ragged? at even
      split at even
      · rename_i same
        exact List.forall_mem_cons.mpr ⟨same, inductionHypothesis even⟩
      · cases even

/-- The rows of a batch without a fault are equally long, and as long as there are columns. -/
theorem length_of_fault? {columns : List String} {batch : List (List Cell)}
    (sound : fault? columns batch = none) :
    (∀ row ∈ batch, row.length = batchWidth batch) ∧
      (batch ≠ [] → (namesOver columns (batchWidth batch)).length = batchWidth batch) := by
  cases batch with
  | nil => exact ⟨List.forall_mem_nil _, fun impossible => absurd rfl impossible⟩
  | cons first rest =>
      rw [fault?] at sound
      split at sound
      · cases sound
      · rename_i fits
        simp only [Option.or_eq_none_iff] at sound
        obtain ⟨_, even, _⟩ := sound
        refine ⟨List.forall_mem_cons.mpr ⟨rfl, length_of_ragged? even⟩, fun _ => ?_⟩
        change (namesOver columns first.length).length = first.length
        unfold namesOver
        split
        · rw [List.length_map, List.length_range]
        · rename_i named
          rw [List.length_map, List.length_zipIdx]
          simp only [named, Bool.not_false, Bool.true_and, bne_iff_ne] at fits
          omega

private theorem batchWidth_of_equalWidths {first batch : List (List Cell)}
    {rest : List (List (List Cell))} (equal : equalWidths (first :: rest) = true)
    (member : batch ∈ first :: rest) : batchWidth batch = batchWidth first := by
  rcases List.mem_cons.mp member with rfl | inRest
  · rfl
  · exact beq_iff_eq.mp (List.all_eq_true.mp equal batch inRest)

/-! ### Frames of batches -/

private theorem holdsRow_convertRow {kinds : List Kind} {width : Nat} {batch : List (List Cell)}
    {row : List Cell} (member : row ∈ batch) (even : row.length = width)
    (aligned : kinds.length = width)
    (wider : ∀ column, column < width →
      (columnKind batch column).width ≤ (kinds.getD column .null).width) :
    HoldsRow kinds row (convertRow kinds (convertRow (kindsOf width batch) row)) := by
  refine ⟨aligned.trans even.symm, ?_, fun column inside => ?_⟩
  · rw [length_convertRow, aligned, even]
  · rw [even] at inside
    have cells : (kindOf (cellAt row column)).width ≤ (columnKind batch column).width :=
      width_le_foldl_join (fun row => kindOf (cellAt row column)) member
    have wide := Nat.le_trans (width_le_of_fits (fits_convert cells)) (wider column inside)
    rw [cellAt_convertRow _ (by omega),
      cellAt_convertRow _ (by rw [length_kindsOf]; exact inside), getD_kindsOf batch inside]
    exact ⟨fits_convert wide, _, widens_convert _ _, widens_convert _ _⟩

private theorem forall₂_unify {kinds : List Kind} {width : Nat} {batches : List (List (List Cell))}
    (each : ∀ batch ∈ batches, ∀ row ∈ batch,
      HoldsRow kinds row (convertRow kinds (convertRow (kindsOf width batch) row))) :
    List.Forall₂ (HoldsRow kinds) batches.flatten
      (((batches.map (unify width)).flatMap Prod.snd).map (convertRow kinds)) := by
  induction batches with
  | nil => exact .nil
  | cons batch rest inductionHypothesis =>
      obtain ⟨first, later⟩ := List.forall_mem_cons.mp each
      rw [List.flatten_cons, List.map_cons, List.flatMap_cons, List.map_append]
      refine List.rel_append ?_ (inductionHypothesis later)
      rw [unify, List.map_map, List.forall₂_map_right_iff, List.forall₂_same]
      exact first

theorem ofBatches_holds {columns : List String} {batches : List (List (List Cell))}
    (sound : ∀ batch ∈ batches, fault? columns batch = none)
    (equal : equalWidths batches = true) (filled : ∀ batch ∈ batches, batch ≠ []) :
    (ofBatches columns batches).Holds batches.flatten := by
  refine ⟨length_joinKinds _ _, ?_⟩
  cases batches with
  | nil => exact .nil
  | cons batch others =>
      obtain ⟨soundFirst, _⟩ := List.forall_mem_cons.mp sound
      cases batch with
      | nil => exact absurd rfl (filled [] List.mem_cons_self)
      | cons first rest =>
          -- the first row of the first batch gives the count of columns for all batches
          have named := (length_of_fault? soundFirst).2 (filled _ List.mem_cons_self)
          have kinds : (ofBatches columns ((first :: rest) :: others)).kinds =
              joinKinds (namesOver columns first.length).length
                ((((first :: rest) :: others).map
                  (unify (namesOver columns first.length).length)).map Prod.fst) := rfl
          refine forall₂_unify fun other inside row member => ?_
          have even : row.length = batchWidth (first :: rest) :=
            ((length_of_fault? (sound other inside)).1 row member).trans
              (batchWidth_of_equalWidths equal inside)
          refine holdsRow_convertRow member (even.trans named.symm) (length_joinKinds _ _) ?_
          intro column within
          rw [kinds, getD_joinKinds _ within, ← getD_kindsOf other within]
          have listed : kindsOf (namesOver columns first.length).length other ∈
              (((first :: rest) :: others).map
                (unify (namesOver columns first.length).length)).map Prod.fst :=
            List.mem_map.mpr ⟨_, List.mem_map_of_mem inside, rfl⟩
          exact width_le_foldl_join (fun kinds => kinds.getD column Kind.null) listed

end TableExport.Frame
