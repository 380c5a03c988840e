import Mathlib.Data.List.Duplicate
import TableExport.Proofs.Frame.Batching

/-!
What can still be wrong with a batch of a regular result: nothing but the names of
the columns. They are the same in every batch, so either every batch is sound or
none is.
-/

set_option autoImplicit false

namespace TableExport.Frame

private theorem nodup_of_firstTwin? {names : List String} (fresh : firstTwin? names = none) :
    names.Nodup := by
  induction names with
  | nil => exact List.nodup_nil
  | cons name rest inductionHypothesis =>
      rw [firstTwin?] at fresh
      split at fresh
      · cases fresh
      · rename_i single
        rw [List.contains_iff_mem] at single
        exact List.nodup_cons.mpr ⟨single, inductionHypothesis fresh⟩

private theorem duplicate_of_firstTwin? {names : List String} {name : String}
    (found : firstTwin? names = some name) : List.Duplicate name names := by
  induction names with
  | nil => cases found
  | cons first rest inductionHypothesis =>
      rw [firstTwin?] at found
      split at found
      · rename_i twin
        cases found
        exact .cons_mem (List.contains_iff_mem.mp twin)
      · exact .cons_duplicate (inductionHypothesis found)

/-- Names that do not return differ among themselves and from those that were seen. -/
theorem nodup_of_firstReturn? {seen names : List String}
    (fresh : firstReturn? seen names = none) :
    names.Nodup ∧ ∀ name ∈ names, name ∉ seen := by
  induction names generalizing seen with
  | nil => exact ⟨List.nodup_nil, List.forall_mem_nil _⟩
  | cons name rest inductionHypothesis =>
      rw [firstReturn?] at fresh
      split at fresh
      · cases fresh
      · rename_i unseen
        rw [List.contains_iff_mem] at unseen
        obtain ⟨distinct, new⟩ := inductionHypothesis fresh
        refine ⟨List.nodup_cons.mpr ⟨fun member => ?_, distinct⟩,
          List.forall_mem_cons.mpr ⟨unseen, fun other member old => ?_⟩⟩
        · exact new name member (.head _)
        · exact new other member (.tail _ old)

private theorem duplicate_of_firstReturn? {seen names : List String} {name : String}
    (found : firstReturn? seen names = some name) :
    List.Duplicate name names ∨ name ∈ names ∧ name ∈ seen := by
  induction names generalizing seen with
  | nil => cases found
  | cons first rest inductionHypothesis =>
      rw [firstReturn?] at found
      split at found
      · rename_i old
        cases found
        exact .inr ⟨.head _, List.contains_iff_mem.mp old⟩
      · rcases inductionHypothesis found with twice | ⟨member, old⟩
        · exact .inl (.cons_duplicate twice)
        · rcases List.mem_cons.mp old with rfl | older
          · exact .inl (.cons_mem member)
          · exact .inr ⟨.tail _ member, older⟩

theorem duplicate_of_repeatedName? {names : List String} {name : String}
    (found : repeatedName? names = some name) : List.Duplicate name names := by
  unfold repeatedName? at found
  split at found
  · exact duplicate_of_firstTwin? found
  · exact (duplicate_of_firstReturn? found).resolve_right fun ⟨_, old⟩ => nomatch old

theorem repeatedName?_eq_none_iff {names : List String} :
    repeatedName? names = none ↔ names.Nodup := by
  constructor
  · intro fresh
    unfold repeatedName? at fresh
    split at fresh
    · exact nodup_of_firstTwin? fresh
    · exact (nodup_of_firstReturn? fresh).left
  · intro distinct
    rw [Option.eq_none_iff_forall_ne_some]
    intro name found
    exact (duplicate_of_repeatedName? found).not_nodup distinct

section Faults

variable {columns : List String} {batch : List (List Cell)} {cell : Cell}

private theorem isWithin_twoWordBound {value : Int} (within : isWithin wordBound value = true) :
    isWithin twoWordBound value = true := by
  rw [isWithin, Bool.and_eq_true, decide_eq_true_iff, decide_eq_true_iff] at within ⊢
  rw [twoWordBound]
  rw [wordBound] at within ⊢
  omega

private theorem tooLarge?_of_isStored (stored : IsStored cell) : tooLarge? cell = none := by
  cases cell with
  | integer value => exact if_pos (isWithin_twoWordBound stored)
  | null | boolean _ | real _ | decimal _ | text _ | bytes _ | date _ => rfl

private theorem unshowable?_of_isStored (kind : Kind) (stored : IsStored cell) :
    unshowable? kind cell = none := by
  cases cell with
  | integer value =>
      cases kind with
      | text => exact if_pos stored
      | null | boolean | integer | wideInteger | real => rfl
  | null | boolean _ | real _ | decimal _ | text _ | bytes _ | date _ => cases kind <;> rfl

private theorem ragged?_of_even {expected index : Nat} {rows : List (List Cell)}
    (even : ∀ row ∈ rows, row.length = expected) : ragged? expected index rows = none := by
  induction rows generalizing index with
  | nil => rfl
  | cons row rest inductionHypothesis =>
      obtain ⟨first, later⟩ := List.forall_mem_cons.mp even
      rw [ragged?, if_pos first, inductionHypothesis later]

theorem fault?_of_isRegular (regular : IsRegular columns batch) (filled : batch ≠ []) :
    fault? columns batch =
      (repeatedName? (namesOver columns columns.length)).map .repeatedName := by
  cases batch with
  | nil => exact absurd rfl filled
  | cons first rest =>
      obtain ⟨width, even⟩ := List.forall_mem_cons.mp regular.even
      have small : (first :: rest).flatten.findSome? tooLarge? = none := by
        rw [List.findSome?_eq_none_iff]
        intro cell member
        obtain ⟨row, listed, inside⟩ := List.mem_flatten.mp member
        exact tooLarge?_of_isStored (regular.stored row listed cell inside)
      have showable : (first :: rest).findSome?
          (unshowableIn? (kindsOf first.length (first :: rest))) = none := by
        rw [List.findSome?_eq_none_iff]
        intro row listed
        rw [unshowableIn?, List.findSome?_eq_none_iff]
        rintro ⟨kind, cell⟩ member
        exact unshowable?_of_isStored kind
          (regular.stored row listed cell (List.of_mem_zip member).2)
      have fits : (!columns.isEmpty && first.length != columns.length) = false := by
        rw [width, bne_self_eq_false, Bool.and_false]
      rw [fault?, if_neg (Bool.eq_false_iff.mp fits), small, showable, width,
        ragged?_of_even even]
      rfl

end Faults

end TableExport.Frame
