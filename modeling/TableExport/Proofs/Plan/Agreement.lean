import TableExport.Proofs.Plan.Steps
import TableExport.Proofs.Sequence.Agreement

/-!
Plans of two runs whose journals are related. All that a plan tells its journal
are messages, so as long as telling those keeps the journals related, the plans
come to the same statements or the same failure, after the same calls.
-/

set_option autoImplicit false

namespace TableExport

open TableExport.Query
open TableExport.Database
open TableExport.Log
open TableExport.Sequence

def Log.Event.IsPlain (event : Event) : Prop :=
  ∃ level, event.entry = noteFormatted level event.text

/-- Telling both of two related journals of a plain event has the same outcome, and leaves them
related. -/
def Log.KeepsTelling (journals : Journal → Journal → Prop) : Prop :=
  ∀ event : Event, event.IsPlain → ∀ left right, journals left right →
    (left.tell event).1 = (right.tell event).1 ∧
      journals (left.tell event).2 (right.tell event).2

structure Exchange.Related (journals : Journal → Journal → Prop) (left right : Exchange) :
    Prop where
  journal : journals left.journal right.journal
  calls : left.calls = right.calls

namespace Planning

variable {journals : Journal → Journal → Prop}

theorem agree_tell (keeps : KeepsTelling journals) {event : Event} (plain : event.IsPlain) :
    Agree (Exchange.Related journals) Eq (tell event) (tell event) := by
  intro left right related
  obtain ⟨told, kept⟩ := keeps event plain _ _ related.journal
  rw [tell_run, tell_run, told]
  exact ⟨alikeOutcomes_refl (fun _ => rfl) _, kept, related.calls⟩

private theorem agree_converse {Value : Type} (dialogue : Dialogue Value) :
    Agree (Exchange.Related journals) Eq (converse dialogue) (converse dialogue) := by
  intro left right related
  rw [converse_run, converse_run, related.calls]
  exact ⟨.ok rfl, related.journal, rfl⟩

variable (keeps : KeepsTelling journals)
include keeps

private theorem agree_probe (behaviour : Behaviour) (filtered column : String) (duration : Cell) :
    Agree (Exchange.Related journals) Eq (probe behaviour filtered column duration)
      (probe behaviour filtered column duration) := by
  refine (agree_converse _).bind_same fun answer => ?_
  refine (agree_ofExcept_same _).bind_same fun range => ?_
  exact (agree_tell keeps ⟨.info, rfl⟩).bind_same fun _ => agree_pure rfl

private theorem agree_divide (whole : KeyRange) (parallelism : Int) :
    Agree (Exchange.Related journals) Eq (divide whole parallelism)
      (divide whole parallelism) := by
  unfold divide
  by_cases refused : parallelism ≤ 0
  · simp only [if_pos refused]
    exact (agree_ofExcept_same _).bind_same fun shown =>
      agree_throw (Failure.partsNotPositive shown)
  · simp only [if_neg refused]
    by_cases several : whole.low < whole.high
    · simp only [if_pos several]
      exact (agree_tell keeps ⟨.debug, rfl⟩).bind_same fun _ => agree_pure rfl
    · simp only [if_neg several]
      exact agree_pure rfl

private theorem agree_splitRanges (connection : Option Behaviour) (request : Request)
    (duration : Cell) :
    Agree (Exchange.Related journals) Eq (splitRanges connection request duration)
      (splitRanges connection request duration) := by
  cases connection with
  | none => exact agree_throw _
  | some behaviour =>
      refine (agree_ofExcept_same _).bind_same fun filtered => ?_
      refine (agree_probe keeps behaviour filtered _ duration).bind_same fun range => ?_
      cases request.parallelism with
      | none => exact agree_throw _
      | some parallelism => exact agree_divide keeps range parallelism

theorem agree_statements (connection : Option Behaviour) (request : Request)
    (duration : Cell) :
    Agree (Exchange.Related journals) Eq (statements connection request duration)
      (statements connection request duration) := by
  have counted (built : List String) : Agree (Exchange.Related journals) Eq
      (do
        tell (.queriesBuilt (.integer built.length)
          (request.parallelism.elim .null Cell.integer))
        pure built)
      (do
        tell (.queriesBuilt (.integer built.length)
          (request.parallelism.elim .null Cell.integer))
        pure built : Planning (List String)) :=
    (agree_tell keeps ⟨.info, rfl⟩).bind_same fun _ => agree_pure rfl
  refine (agree_ofExcept_same _).bind_same fun filtered => ?_
  refine (agree_ofExcept_same _).bind_same fun limit => ?_
  by_cases split : request.isSplit = true
  · simp only [if_pos split]
    refine (agree_splitRanges keeps connection request duration).bind_same fun ranges => ?_
    exact (agree_ofExcept_same _).bind_same counted
  · simp only [if_neg split]
    exact counted [filtered ++ limit]

end Planning

end TableExport
