import TableExport.Proofs.Database.Dialogue
import TableExport.Proofs.Plan.Steps

/-!
The probe for the bounds of a column. When it succeeds, one statement was
executed, one row was fetched and the cursor was closed, in this order; the range
comes from the first two cells of that row.
-/

set_option autoImplicit false

namespace TableExport

open TableExport.Text
open TableExport.Database
open TableExport.Log

namespace Planning

private theorem rangeOfAnswer_ok {column sql : String} {row : Option (List Cell)} {range : KeyRange}
    (read : rangeOfAnswer column sql (.ok row) = .ok range) :
    ∃ low high rest, row = some (low :: high :: rest) ∧
      rangeBetween column low high = .ok range := by
  cases row with
  | none => cases read
  | some cells =>
      cases cells with
      | nil => cases read
      | cons low more =>
          cases more with
          | nil => cases read
          | cons high rest => exact ⟨low, high, rest, rfl, read⟩

theorem probe_ok {behaviour : Behaviour} {filtered column : String} {duration : Cell}
    {range : KeyRange} {exchange after : Exchange}
    (ran : (probe behaviour filtered column duration).run exchange = (.ok range, after)) :
    ∃ low high rest, behaviour.row = some (low :: high :: rest) ∧
      rangeBetween column low high = .ok range ∧
      after.calls =
        exchange.calls ++ Dialogue.boundsCalls (boundsStatement filtered column) := by
  simp only [probe, Sequence.run_bind_ok_iff, Sequence.run_ofExcept_ok_iff] at ran
  obtain ⟨answer, asked, conversation, found, read, ⟨ranged, stays⟩, _, told, telling,
    finished⟩ := ran
  rw [converse_run] at conversation
  obtain ⟨sameAnswer, sameExchange⟩ := Prod.mk.inj conversation
  have sameFound := Prod.mk.inj finished
  cases Except.ok.inj sameFound.1
  cases answer with
  | error refusal => cases ranged
  | ok row =>
      have dialogue : (Dialogue.askBounds behaviour (boundsStatement filtered column)).run
          exchange.calls = (.ok row, asked.calls) := by
        rw [← sameExchange]
        exact Prod.ext (Except.ok.inj sameAnswer) rfl
      obtain ⟨_, sameRow, calls⟩ := Dialogue.askBounds_ok dialogue
      obtain ⟨low, high, rest, cells, between⟩ := rangeOfAnswer_ok ranged
      refine ⟨low, high, rest, sameRow.symm.trans cells, between, ?_⟩
      rw [← sameFound.2, calls_of_tell telling, stays, calls]

end Planning

end TableExport
