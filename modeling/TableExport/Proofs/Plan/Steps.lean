import TableExport.Plan
import TableExport.Proofs.Log.Soundness

/-!
What the steps of planning do to the exchange. Telling the journal leaves the
calls as they are, and a dialogue leaves the journal as it is; so the calls of a
plan are those of its dialogues, whatever the journal makes of the messages.
-/

set_option autoImplicit false

namespace TableExport.Planning

open TableExport.Text
open TableExport.Database
open TableExport.Log

theorem tell_run (event : Event) (exchange : Exchange) :
    (tell event).run exchange =
      ((exchange.journal.tell event).1.mapError Failure.cell,
        { exchange with journal := (exchange.journal.tell event).2 }) := by
  simp only [tell, Sequence.run_bind, Sequence.run_get, Sequence.run_set,
    Sequence.run_ofExcept]

theorem calls_of_tell {event : Event} {exchange after : Exchange}
    (told : (tell event).run exchange = (.ok (), after)) :
    after.calls = exchange.calls := by
  rw [tell_run] at told
  rw [← (Prod.mk.inj told).2]

theorem converse_run {α : Type} (dialogue : Dialogue α) (exchange : Exchange) :
    (converse dialogue).run exchange =
      (.ok (dialogue.run exchange.calls).1,
        { exchange with calls := (dialogue.run exchange.calls).2 }) := by
  simp only [converse, Sequence.run_bind, Sequence.run_get]
  rfl

theorem tell_run_of_sound {event : Event} {level : Level} {text : String}
    {exchange : Exchange} (sound : exchange.journal.IsSound)
    (noted : event.entry = noteFormatted level event.text)
    (shown : event.text = .ok text) :
    ∃ after, (tell event).run exchange = (.ok (), after) ∧ after.journal.IsSound := by
  obtain ⟨told, telling, stays⟩ := Log.tell_isOk sound noted shown
  refine ⟨{ exchange with journal := told }, ?_, stays⟩
  rw [tell_run, telling]
  rfl

/-- A message without a text is lost with its fault. -/
theorem tell_run_of_unshown {event : Event} {level : Level} {fault : Cell.Fault}
    (noted : event.entry = noteFormatted level event.text)
    (unshown : event.text = .error fault) (exchange : Exchange) :
    (tell event).run exchange = (.error (.cell fault), exchange) := by
  have told : exchange.journal.tell event = (.error fault, exchange.journal) := by
    unfold Journal.tell
    rw [noted, unshown]
    rfl
  rw [tell_run, told]
  rfl

end TableExport.Planning
