import Mathlib.Order.Lattice
import TableExport.Proofs.Frame.Widening

/-!
Frames of rows that came in batches, against the frame of the same rows in one
batch. Columns and kinds are the same, since kinds are joined in any grouping.
A cell takes its kind in two steps, first within its batch, and the steps come to
one conversion unless a truth value is counted in the first and shown as a text
in the second.
-/

set_option autoImplicit false

namespace TableExport.Frame

/-! ### Kinds over several batches -/

section Kinds

private theorem width_injective {first second : Kind} (same : first.width = second.width) :
    first = second := by
  cases first <;> cases second <;> first | rfl | cases same

private theorem width_join (first second : Kind) :
    (first.join second).width = max first.width second.width := by
  unfold Kind.join
  split
  · omega
  · omega

private theorem join_assoc (first second third : Kind) :
    (first.join second).join third = first.join (second.join third) := by
  apply width_injective
  simp only [width_join, max_assoc]

private theorem null_join (kind : Kind) : Kind.null.join kind = kind := by
  apply width_injective
  rw [width_join]
  exact max_eq_right (Nat.zero_le _)

variable {Item : Type} (kindAt : Item → Kind)

private theorem foldl_join_start (start : Kind) (items : List Item) :
    items.foldl (fun kind item => kind.join (kindAt item)) start =
      start.join (items.foldl (fun kind item => kind.join (kindAt item)) Kind.null) := by
  induction items generalizing start with
  | nil =>
      apply width_injective
      rw [width_join]
      exact (max_eq_left (Nat.zero_le _)).symm
  | cons item rest inductionHypothesis =>
      rw [List.foldl_cons, List.foldl_cons, inductionHypothesis (start.join (kindAt item)),
        inductionHypothesis (Kind.null.join (kindAt item)), null_join, join_assoc]

private theorem foldl_join_flatten (groups : List (List Item)) :
    groups.foldl (fun (kind : Kind) group =>
        kind.join (group.foldl (fun kind item => kind.join (kindAt item)) Kind.null)) Kind.null =
      groups.flatten.foldl (fun kind item => kind.join (kindAt item)) Kind.null := by
  induction groups with
  | nil => rfl
  | cons group rest inductionHypothesis =>
      rw [List.foldl_cons, foldl_join_start _ (Kind.null.join _), inductionHypothesis, null_join,
        List.flatten_cons, List.foldl_append, ← foldl_join_start]

/-- A join of kinds is one of them, unless there is none that is wider than nothing. -/
theorem foldl_join_attained (items : List Item) :
    items.foldl (fun kind item => kind.join (kindAt item)) Kind.null = .null ∨
      ∃ item ∈ items, kindAt item =
        items.foldl (fun kind item => kind.join (kindAt item)) Kind.null := by
  induction items with
  | nil => exact .inl rfl
  | cons item rest inductionHypothesis =>
      rw [List.foldl_cons, null_join, foldl_join_start]
      by_cases wider : (kindAt item).width <
          (rest.foldl (fun kind item => kind.join (kindAt item)) Kind.null).width
      · rw [Kind.join, if_pos wider]
        refine inductionHypothesis.imp_right ?_
        rintro ⟨other, member, same⟩
        exact ⟨other, .tail _ member, same⟩
      · rw [Kind.join, if_neg wider]
        exact .inr ⟨item, .head _, rfl⟩

private theorem joinKinds_unify (width : Nat) (batches : List (List (List Cell))) :
    joinKinds width ((batches.map (unify width)).map Prod.fst) = kindsOf width batches.flatten := by
  rw [joinKinds, kindsOf]
  refine List.map_congr_left fun column member => ?_
  have inside := List.mem_range.mp member
  rw [List.foldl_map, List.foldl_map]
  have each : ∀ batch : List (List Cell),
      (unify width batch).fst.getD column .null = columnKind batch column :=
    fun batch => getD_kindsOf batch inside
  simp only [each]
  exact foldl_join_flatten (fun row => kindOf (cellAt row column)) batches

end Kinds

/-! ### Cells of a result -/

/-- A cell as results of a database hold it, with integers of one word. -/
def IsStored : Cell → Prop
  | .null => True
  | .boolean _ => True
  | .integer value => isWithin wordBound value = true
  | .real _ => True
  | .text _ => True
  | _ => False

/-- Rows of a result: as long as there are columns, of cells that results hold, and without
numbers in columns of texts other than integers. -/
structure IsRegular (columns : List String) (rows : List (List Cell)) : Prop where
  even : ∀ row ∈ rows, row.length = columns.length
  stored : ∀ row ∈ rows, ∀ cell ∈ row, IsStored cell
  unmixed : ∀ column, ∀ row ∈ rows, ∀ other ∈ rows, ∀ value text,
    cellAt row column = .real value → cellAt other column ≠ .text text

def HoldsText (rows : List (List Cell)) (column : Nat) : Prop :=
  ∃ row ∈ rows, ∃ text, cellAt row column = .text text

structure CountsTruths (rows : List (List Cell)) (column : Nat) : Prop where
  truth : ∃ row ∈ rows, ∃ value, cellAt row column = .boolean value
  integer : ∃ row ∈ rows, ∃ value, cellAt row column = .integer value
  textless : ¬ HoldsText rows column

section Cells

variable {columns : List String} {rows batch : List (List Cell)} {row : List Cell} {column : Nat}

theorem IsRegular.cellAt (regular : IsRegular columns rows) (member : row ∈ rows) (column : Nat) :
    IsStored (cellAt row column) := by
  rw [Frame.cellAt, List.getD_eq_getElem?_getD]
  cases found : row[column]? with
  | none => trivial
  | some cell => exact regular.stored row member cell (List.mem_of_getElem? found)

theorem IsRegular.subset (regular : IsRegular columns rows) (inside : ∀ row ∈ batch, row ∈ rows) :
    IsRegular columns batch where
  even row member := regular.even row (inside row member)
  stored row member := regular.stored row (inside row member)
  unmixed column row member other memberToo :=
    regular.unmixed column row (inside row member) other (inside other memberToo)

theorem IsRegular.batchWidth (regular : IsRegular columns rows) (filled : rows ≠ []) :
    batchWidth rows = columns.length := by
  obtain ⟨first, rest, rfl⟩ := List.exists_cons_of_ne_nil filled
  exact regular.even first (.head _)

private theorem kindOf_integer {value : Int} (stored : IsStored (.integer value)) :
    kindOf (.integer value) = .integer :=
  if_pos stored

private theorem kindOf_eq_text_iff {cell : Cell} (stored : IsStored cell) :
    kindOf cell = .text ↔ ∃ text, cell = .text text := by
  cases cell with
  | text text => exact iff_of_true rfl ⟨text, rfl⟩
  | integer value =>
      rw [kindOf_integer stored]
      exact iff_of_false nofun nofun
  | null | boolean _ | real _ => exact iff_of_false nofun nofun
  | decimal _ | bytes _ | date _ => cases stored

private theorem kindOf_eq_integer_iff {cell : Cell} (stored : IsStored cell) :
    kindOf cell = .integer ↔ ∃ value, cell = .integer value := by
  cases cell with
  | integer value => exact iff_of_true (kindOf_integer stored) ⟨value, rfl⟩
  | null | boolean _ | real _ | text _ => exact iff_of_false nofun nofun
  | decimal _ | bytes _ | date _ => cases stored

/-- A cell that is no double is at most as wide as an integer, unless it is a text. -/
theorem width_kindOf_le_iff {cell : Cell} (stored : IsStored cell)
    (realless : ∀ value, cell ≠ .real value) :
    (kindOf cell).width ≤ Kind.integer.width ↔ ∀ text, cell ≠ .text text := by
  cases cell with
  | text text => exact iff_of_false (show ¬5 ≤ 2 by decide) fun textless => textless text rfl
  | integer value =>
      rw [kindOf_integer stored]
      exact iff_of_true (Nat.le_refl _) nofun
  | null => exact iff_of_true (show 0 ≤ 2 by decide) nofun
  | boolean _ => exact iff_of_true (show 1 ≤ 2 by decide) nofun
  | real value => exact absurd rfl (realless value)
  | decimal _ | bytes _ | date _ => cases stored

private theorem width_kindOf_le (member : row ∈ rows) (column : Nat) :
    (kindOf (cellAt row column)).width ≤ (columnKind rows column).width :=
  width_le_foldl_join (fun row => kindOf (cellAt row column)) member

private theorem columnKind_attained (rows : List (List Cell)) (column : Nat) :
    columnKind rows column = .null ∨
      ∃ row ∈ rows, kindOf (cellAt row column) = columnKind rows column :=
  foldl_join_attained (fun row => kindOf (cellAt row column)) rows

private theorem columnKind_mono (inside : ∀ row ∈ batch, row ∈ rows) (column : Nat) :
    (columnKind batch column).width ≤ (columnKind rows column).width := by
  rcases columnKind_attained batch column with null | ⟨row, member, same⟩
  · rw [null]
    exact Nat.zero_le _
  · rw [← same]
    exact width_kindOf_le (inside row member) column

/-- A column is of the kind of one of its cells, which is as wide as that of every other. -/
theorem columnKind_eq_iff (kind : Kind) (wider : kind ≠ .null) :
    columnKind rows column = kind ↔ (∃ row ∈ rows, kindOf (cellAt row column) = kind) ∧
      ∀ row ∈ rows, (kindOf (cellAt row column)).width ≤ kind.width := by
  constructor
  · rintro rfl
    exact ⟨(columnKind_attained rows column).resolve_left wider,
      fun row member => width_kindOf_le member column⟩
  · rintro ⟨⟨row, member, rfl⟩, below⟩
    apply width_injective
    refine Nat.le_antisymm ?_ (width_kindOf_le member column)
    rcases columnKind_attained rows column with null | ⟨other, memberToo, same⟩
    · rw [null]
      exact Nat.zero_le _
    · rw [← same]
      exact below other memberToo

private theorem columnKind_eq_text_iff (regular : IsRegular columns rows) :
    columnKind rows column = .text ↔ HoldsText rows column := by
  have all : ∀ row ∈ rows, (kindOf (cellAt row column)).width ≤ Kind.text.width := by
    intro row _
    generalize kindOf (cellAt row column) = kind
    cases kind <;> decide
  rw [columnKind_eq_iff .text nofun, and_iff_left all]
  exact exists_congr fun row => and_congr_right fun member =>
    kindOf_eq_text_iff (regular.cellAt member column)

/-- Where no doubles stand, a column is one of integers exactly when it holds an integer and no
text. -/
theorem columnKind_eq_integer_iff (regular : IsRegular columns rows)
    (realless : ∀ row ∈ rows, ∀ value, cellAt row column ≠ .real value) :
    columnKind rows column = .integer ↔
      (∃ row ∈ rows, ∃ value, cellAt row column = .integer value) ∧ ¬ HoldsText rows column := by
  have textless : ¬ HoldsText rows column ↔
      ∀ row ∈ rows, ∀ text, cellAt row column ≠ .text text := by
    simp only [HoldsText, not_exists, not_and, ne_eq]
  rw [columnKind_eq_iff .integer nofun, textless]
  refine and_congr (exists_congr fun row => and_congr_right fun member =>
    kindOf_eq_integer_iff (regular.cellAt member column)) ?_
  exact forall₂_congr fun row member =>
    width_kindOf_le_iff (regular.cellAt member column) (realless row member)

theorem columnKind_ne_wideInteger (regular : IsRegular columns rows) :
    columnKind rows column ≠ .wideInteger := by
  intro wide
  obtain ⟨⟨row, member, same⟩, _⟩ := (columnKind_eq_iff .wideInteger nofun).mp wide
  have stored := regular.cellAt member column
  cases found : cellAt row column with
  | integer value =>
      rw [found] at same stored
      cases same.symm.trans (kindOf_integer stored)
  | null | boolean _ | real _ | text _ | decimal _ | bytes _ | date _ =>
      rw [found] at same
      cases same

private theorem real_of_columnKind (regular : IsRegular columns rows)
    (found : columnKind rows column = .real) :
    ∃ row ∈ rows, ∃ value, cellAt row column = .real value := by
  obtain ⟨⟨row, member, same⟩, _⟩ := (columnKind_eq_iff .real nofun).mp found
  refine ⟨row, member, ?_⟩
  have stored := regular.cellAt member column
  cases cell : cellAt row column with
  | real value => exact ⟨value, rfl⟩
  | integer value =>
      rw [cell] at same stored
      cases same.symm.trans (kindOf_integer stored)
  | null | boolean _ | text _ | decimal _ | bytes _ | date _ =>
      rw [cell] at same
      cases same

end Cells

/-! ### Conversion in two steps -/

section Converting

private theorem measured_truth (value : Bool) :
    convert .real (.integer (truthNumber value)) =
      .real (Number.Binary64.ofNat (truthNumber value)) := by
  cases value with
  | false => decide +kernel
  | true => decide +kernel

private theorem shown_count_ne_truth (value : Bool) :
    textOf (.integer (truthNumber value)) ≠ textOf (.boolean value) := by
  cases value with
  | false => decide +kernel
  | true => decide +kernel

private theorem convert_idempotent (kind : Kind) (cell : Cell) :
    convert kind (convert kind cell) = convert kind cell := by
  cases kind <;> cases cell <;> rfl

/-- What becomes of a cell by way of integers: only a truth value that ends as text shows it. -/
theorem convert_counted_iff {kind : Kind} {cell : Cell} (wider : 2 ≤ kind.width) :
    convert kind (convert .integer cell) = convert kind cell ↔
      (kind = .text → ∀ value, cell ≠ .boolean value) := by
  cases cell with
  | boolean value =>
      cases kind with
      | null => exact absurd wider (by decide)
      | boolean => exact absurd wider (by decide)
      | integer => exact iff_of_true rfl nofun
      | wideInteger => exact iff_of_true rfl nofun
      | real => exact iff_of_true (measured_truth value) nofun
      | text =>
          refine iff_of_false (shown_count_ne_truth value) fun truthless => ?_
          exact truthless rfl value rfl
  | null | integer _ | real _ | decimal _ | text _ | bytes _ | date _ =>
      exact iff_of_true rfl fun _ _ => nofun

/-- By way of a narrower kind a cell becomes what it becomes at once, but for a truth value
that is counted and then shown. -/
theorem convert_convert_iff {narrow kind : Kind} {cell : Cell}
    (wider : narrow.width ≤ kind.width) (small : narrow ≠ .wideInteger)
    (unmixed : narrow = .real → kind ≠ .text) :
    convert kind (convert narrow cell) = convert kind cell ↔
      (narrow = .integer → kind = .text → ∀ value, cell ≠ .boolean value) := by
  cases narrow with
  | null => exact iff_of_true rfl nofun
  | boolean => exact iff_of_true rfl nofun
  | integer => rw [convert_counted_iff wider, forall_prop_of_true rfl]
  | wideInteger => exact absurd rfl small
  | real =>
      cases kind with
      | real => exact iff_of_true (convert_idempotent _ cell) nofun
      | text => exact absurd rfl (unmixed rfl)
      | null | boolean | integer | wideInteger => exact absurd wider (by decide)
  | text =>
      cases kind with
      | text => exact iff_of_true (convert_idempotent _ cell) nofun
      | null | boolean | integer | wideInteger | real => exact absurd wider (by decide)

private theorem convertRow_eq_iff {kinds : List Kind} {first second : List Cell} :
    convertRow kinds first = convertRow kinds second ↔ ∀ column < kinds.length,
      convert (kinds.getD column .null) (cellAt first column) =
        convert (kinds.getD column .null) (cellAt second column) := by
  constructor
  · intro same column inside
    rw [← cellAt_convertRow first inside, same, cellAt_convertRow second inside]
  · intro same
    refine List.ext_getElem ?_ fun column inside insideToo => ?_
    · rw [length_convertRow, length_convertRow]
    · have within : column < kinds.length := by rwa [length_convertRow] at inside
      have cells := same column within
      rw [← cellAt_convertRow first within, ← cellAt_convertRow second within, cellAt, cellAt,
        List.getD_eq_getElem?_getD, List.getD_eq_getElem?_getD, List.getElem?_eq_getElem inside,
        List.getElem?_eq_getElem insideToo] at cells
      exact cells

private theorem flatMap_map_eq_iff {Item Other : Type} {groups : List (List Item)}
    {change : List Item → Item → Other} {plain : Item → Other} :
    groups.flatMap (fun group => group.map (change group)) = groups.flatten.map plain ↔
      ∀ group ∈ groups, ∀ item ∈ group, change group item = plain item := by
  induction groups with
  | nil => exact iff_of_true rfl (List.forall_mem_nil _)
  | cons group rest inductionHypothesis =>
      rw [List.flatMap_cons, List.flatten_cons, List.map_append, List.forall_mem_cons,
        ← inductionHypothesis, ← List.map_inj_left]
      constructor
      · intro same
        exact List.append_inj same (by rw [List.length_map, List.length_map])
      · rintro ⟨first, later⟩
        rw [first, later]

end Converting

/-! ### Frames -/

section Frames

variable {columns : List String} {rows batch : List (List Cell)} {batches : List (List (List Cell))}

private theorem length_namesOver {columns : List String} :
    (namesOver columns columns.length).length =
    columns.length := by
  unfold namesOver
  split
  · rw [List.length_map, List.length_range]
  · rw [List.length_map, List.length_zipIdx]

/-- The frame of batches of a regular result. Only the rows depend on the batches. -/
theorem ofBatches_regular (regular : IsRegular columns batches.flatten)
    (filled : ∀ batch ∈ batches, batch ≠ []) (found : batches ≠ []) :
    ofBatches columns batches =
      { columns := namesOver columns columns.length
        kinds := kindsOf columns.length batches.flatten
        rows := batches.flatMap fun batch => batch.map fun row =>
          convertRow (kindsOf columns.length batches.flatten)
            (convertRow (kindsOf columns.length batch) row) } := by
  cases batches with
  | nil => exact absurd rfl found
  | cons batch rest =>
      cases batch with
      | nil => exact absurd rfl (filled [] (.head _))
      | cons first others =>
          have width : first.length = columns.length := regular.even first (.head _)
          unfold ofBatches
          dsimp only
          rw [width, length_namesOver, joinKinds_unify, List.flatMap_map, List.map_flatMap]
          simp only [unify, List.map_map, Function.comp_def]

theorem ofBatches_single (regular : IsRegular columns rows) (filled : rows ≠ []) :
    ofBatches columns [rows] =
      { columns := namesOver columns columns.length
        kinds := kindsOf columns.length rows
        rows := rows.map fun row => convertRow (kindsOf columns.length rows)
          (convertRow (kindsOf columns.length rows) row) } := by
  have single : [rows].flatten = rows := List.flatten_singleton
  have nonempty : ∀ batch ∈ [rows], batch ≠ [] := List.forall_mem_singleton.mpr filled
  rw [ofBatches_regular (single.symm ▸ regular) nonempty (List.cons_ne_nil _ _), single,
    List.flatMap_singleton]

private theorem flatten_ne_nil {Item : Type} {groups : List (List Item)}
    (filled : ∀ group ∈ groups, group ≠ []) (found : groups ≠ []) : groups.flatten ≠ [] := by
  intro empty
  obtain ⟨first, rest, rfl⟩ := List.exists_cons_of_ne_nil found
  exact filled first (.head _) (List.flatten_eq_nil_iff.mp empty first (.head _))

/-- A batch keeps the cells of a column as they are over all rows, unless it counts truth values
in a column that holds a text elsewhere. -/
theorem column_kept_iff (regular : IsRegular columns rows) (inside : ∀ row ∈ batch, row ∈ rows)
    (column : Nat) :
    (∀ row ∈ batch, convert (columnKind rows column)
        (convert (columnKind batch column) (cellAt row column)) =
      convert (columnKind rows column) (cellAt row column)) ↔
      (HoldsText rows column → ¬ CountsTruths batch column) := by
  have text : columnKind rows column = .text ↔ HoldsText rows column :=
    columnKind_eq_text_iff regular
  have unmixed : columnKind batch column = .real → columnKind rows column ≠ .text := by
    intro real shown
    obtain ⟨row, member, value, number⟩ := real_of_columnKind (regular.subset inside) real
    obtain ⟨other, memberToo, written, found⟩ := text.mp shown
    exact regular.unmixed column row (inside row member) other memberToo value written number found
  have each (row : List Cell) :
      convert (columnKind rows column) (convert (columnKind batch column) (cellAt row column)) =
          convert (columnKind rows column) (cellAt row column) ↔
        (columnKind batch column = .integer → columnKind rows column = .text →
          ∀ value, cellAt row column ≠ .boolean value) :=
    convert_convert_iff (columnKind_mono inside column)
      (columnKind_ne_wideInteger (regular.subset inside)) unmixed
  simp only [each, text]
  by_cases holds : HoldsText rows column
  · -- beside a text there is no double, so a batch of integers is one that has them and no text
    have realless : ∀ row ∈ batch, ∀ value, cellAt row column ≠ .real value := by
      obtain ⟨other, memberToo, written, found⟩ := holds
      intro row member value number
      exact regular.unmixed column row (inside row member) other memberToo value written number
        found
    rw [columnKind_eq_integer_iff (regular.subset inside) realless, forall_prop_of_true holds]
    constructor
    · rintro kept ⟨⟨row, member, value, truth⟩, counted, textless⟩
      exact kept row member ⟨counted, textless⟩ holds value truth
    · rintro uncounted row member ⟨counted, textless⟩ _ value truth
      exact uncounted ⟨⟨row, member, value, truth⟩, counted, textless⟩
  · exact iff_of_true (fun _ _ _ shown => absurd shown holds) fun shown => absurd shown holds

private theorem batch_kept_iff (regular : IsRegular columns rows)
    (inside : ∀ row ∈ batch, row ∈ rows) :
    (∀ row ∈ batch, convertRow (kindsOf columns.length rows)
        (convertRow (kindsOf columns.length batch) row) =
      convertRow (kindsOf columns.length rows) (convertRow (kindsOf columns.length rows) row)) ↔
      ∀ column < columns.length, HoldsText rows column → ¬ CountsTruths batch column := by
  have kept : ∀ column < columns.length, ∀ row,
      (convert ((kindsOf columns.length rows).getD column .null)
          (cellAt (convertRow (kindsOf columns.length batch) row) column) =
        convert ((kindsOf columns.length rows).getD column .null)
          (cellAt (convertRow (kindsOf columns.length rows) row) column) ↔
      convert (columnKind rows column) (convert (columnKind batch column) (cellAt row column)) =
        convert (columnKind rows column) (cellAt row column)) := by
    intro column within row
    rw [cellAt_convertRow _ (by rwa [length_kindsOf]),
      cellAt_convertRow _ (by rwa [length_kindsOf]), getD_kindsOf _ within, getD_kindsOf _ within,
      convert_idempotent]
  simp only [convertRow_eq_iff, length_kindsOf]
  constructor
  · intro same column within
    rw [← column_kept_iff regular inside]
    intro row member
    exact (kept column within row).mp (same row member column within)
  · intro same row member column within
    have cells := (column_kept_iff regular inside column).mpr (same column within)
    exact (kept column within row).mpr (cells row member)

/-- The rows of a regular result are those of one batch, unless a batch counts truth values in a
column that holds a text elsewhere. -/
theorem rows_ofBatches_eq_iff (regular : IsRegular columns batches.flatten)
    (filled : ∀ batch ∈ batches, batch ≠ []) (found : batches ≠ []) :
    (ofBatches columns batches).rows = (ofBatches columns [batches.flatten]).rows ↔
      ∀ batch ∈ batches, ∀ column < columns.length,
        HoldsText batches.flatten column → ¬ CountsTruths batch column := by
  rw [ofBatches_regular regular filled found,
    ofBatches_single regular (flatten_ne_nil filled found)]
  dsimp only
  rw [flatMap_map_eq_iff]
  refine forall₂_congr fun batch member => ?_
  have inside : ∀ row ∈ batch, row ∈ batches.flatten :=
    fun row memberToo => List.mem_flatten_of_mem member memberToo
  exact batch_kept_iff regular inside

end Frames

end TableExport.Frame
