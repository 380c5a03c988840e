import TableExport.Proofs.Database.Dialogue
import TableExport.Proofs.Frame.Widening

/-!
Rows that are fetched in batches. Batches of a positive size make up all rows,
and none of them is empty, so no empty batch ends the fetching early. A size
that is not positive makes no batch at all: then no row is fetched, and nothing
is refused.
-/

set_option autoImplicit false

namespace TableExport.Database.Dialogue

section Batches

variable {Item : Type}

theorem flatten_batches {size : Nat} (positive : 0 < size) (items : List Item) :
    (batches size items).flatten = items := by
  fun_induction batches size items with
  | case1 => omega
  | case2 => rfl
  | case3 different first rest inductionHypothesis =>
      rw [List.flatten_cons, inductionHypothesis, List.take_append_drop]

private theorem batches_zero (items : List Item) : batches 0 items = [] := by
  rw [batches.eq_def, if_pos rfl]

theorem ne_nil_of_mem_batches {size : Nat} {items batch : List Item}
    (member : batch ∈ batches size items) : batch ≠ [] := by
  fun_induction batches size items with
  | case1 => cases member
  | case2 => cases member
  | case3 different first rest inductionHypothesis =>
      rcases List.mem_cons.mp member with rfl | later
      · intro empty
        rcases List.take_eq_nil_iff.mp empty with zero | impossible
        · exact different zero
        · cases impossible
      · exact inductionHypothesis later

/-- Where the first item with a fault is looked for and none is found, no item has one. -/
theorem forall_none_of_head? {Fault : Type} {fault? : Item → Option Fault} {items : List Item}
    (found : (items.drop (items.takeWhile fun item => (fault? item).isNone).length).head?.bind
      fault? = none) : ∀ item ∈ items, fault? item = none := by
  induction items with
  | nil => exact List.forall_mem_nil _
  | cons item rest inductionHypothesis =>
      cases sound : fault? item with
      | none =>
          rw [List.takeWhile_cons_of_pos (by rw [sound]; rfl)] at found
          exact List.forall_mem_cons.mpr ⟨sound, inductionHypothesis found⟩
      | some fault =>
          rw [List.takeWhile_cons_of_neg (by rw [sound]; exact Bool.false_ne_true)] at found
          exact absurd (sound.symm.trans found) (Option.some_ne_none fault)

end Batches

/-- The rows that are fetched in batches of a size: all of them, or none when the size is not
positive. -/
def fetched (size : Given Int) (rows : List (List Cell)) : List (List Cell) :=
  match size with
  | .value size => if 0 < size then rows else []
  | .struck => []

private theorem flatten_batches_toNat (size : Int) (rows : List (List Cell)) :
    (batches size.toNat rows).flatten = fetched (.value size) rows := by
  unfold fetched
  dsimp only
  split
  · rename_i positive
    exact flatten_batches (by omega) rows
  · rename_i negative
    have zero : size.toNat = 0 := by omega
    rw [zero, batches_zero]
    rfl

theorem fetchBatches_ok {columns : List String} {size : Int} {rows : List (List Cell)}
    {calls after : List Call} {frame : Frame}
    (ran : (fetchBatches columns size rows).run calls = (.ok frame, after)) :
    frame.Holds (fetched (.value size) rows) := by
  unfold fetchBatches at ran
  dsimp only at ran
  rw [Sequence.run_bind_ok_iff] at ran
  obtain ⟨_, middle, _, answered⟩ := ran
  split at answered
  · cases answered
  · rename_i unfaulted
    split at answered
    · rename_i equal
      cases answered
      -- the batches are looked at up to the first fault, and there is none
      have sound := forall_none_of_head? unfaulted
      rw [← flatten_batches_toNat]
      exact Frame.ofBatches_holds sound equal fun batch member => ne_nil_of_mem_batches member
    · cases answered

private theorem execute_reply {behaviour : Behaviour} {sql : String} {table : Table}
    {calls after : List Call}
    (ran : (execute behaviour sql).run calls = (.ok (some table), after)) :
    behaviour.reply sql = .ok table := by
  simp only [execute, Sequence.run_bind_ok_iff] at ran
  obtain ⟨_, _, _, _, _, _, answered⟩ := ran
  by_cases asks : asksBounds sql
  · rw [if_pos asks] at answered
    cases answered
  · rw [if_neg asks] at answered
    cases reply : behaviour.reply sql with
    | ok found =>
        rw [reply] at answered
        cases answered
        rfl
    | error text =>
        rw [reply] at answered
        cases answered

theorem askRows_ok {behaviour : Behaviour} {sql : String} {size : Given Int} {frame : Frame}
    {calls after : List Call}
    (ran : (askRows behaviour sql size).run calls = (.ok frame, after)) :
    ∃ table, behaviour.reply sql = .ok table ∧ frame.Holds (fetched size table.rows) := by
  obtain ⟨_, _, worked, asked, _⟩ := withCursor_ok ran
  rw [Sequence.run_bind_ok_iff] at asked
  obtain ⟨answer, executed, execution, fetching⟩ := asked
  cases answer with
  | none => cases fetching
  | some table =>
      refine ⟨table, execute_reply execution, ?_⟩
      cases size with
      | value size => exact fetchBatches_ok fetching
      | struck =>
          dsimp only [fetchAll] at fetching
          rw [Sequence.run_bind_ok_iff] at fetching
          obtain ⟨_, _, _, impossible⟩ := fetching
          cases impossible

end TableExport.Database.Dialogue
