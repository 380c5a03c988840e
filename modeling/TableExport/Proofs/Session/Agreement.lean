import Mathlib.Data.List.Forall2
import TableExport.Proofs.Plan.Agreement
import TableExport.Proofs.Session.Steps

/-!
Sessions of two runs. They are related when their journals are, when targets
that are alike were opened and called in the same way, and when all else is the
same. As long as related journals can be told of the same messages, every step
of a session keeps sessions related and comes to the same on both sides.
-/

set_option autoImplicit false

namespace TableExport

open TableExport.Connection
open TableExport.Database
open TableExport.Log
open TableExport.Sequence

section Alike

variable (targets : Target → Target → Prop)

/-- Openings with the same calls, of targets that are alike. -/
def Database.Opening.Alike (one other : Opening) : Prop :=
  targets one.target other.target ∧ one.calls = other.calls

inductive Database.Attempt.Alike : Attempt → Attempt → Prop
  | unsupported (failure : Failure) : Alike (.unsupported failure) (.unsupported failure)
  | refused {left right : Target} (alike : targets left right) (failure : Failure) :
      Alike (.refused left failure) (.refused right failure)
  | absent (kind : DatabaseKind) {left right : Target} (alike : targets left right) :
      Alike (.absent kind left) (.absent kind right)
  | ready (kind : DatabaseKind) {left right : Target} (alike : targets left right) :
      Alike (.ready kind left) (.ready kind right)

structure Connection.Config.Alike (one other : Config) : Prop where
  database : one.database = other.database
  attempts : ∀ behaviour number,
    (attempt behaviour one number).Alike targets (attempt behaviour other number)

end Alike

theorem Connection.Config.alike_refl (config : Config) : config.Alike Eq config := by
  refine ⟨rfl, fun behaviour number => ?_⟩
  cases attempt behaviour config number with
  | unsupported failure => exact .unsupported failure
  | refused target failure => exact .refused rfl failure
  | absent kind target => exact .absent kind rfl
  | ready kind target => exact .ready kind rfl

structure Session.Related (journals : Journal → Journal → Prop)
    (targets : Target → Target → Prop) (left right : Session) : Prop where
  journal : journals left.journal right.journal
  files : left.files = right.files
  openings : List.Forall₂ (Opening.Alike targets) left.openings right.openings
  parts : left.parts = right.parts
  printed : left.printed = right.printed

section Stepping

variable {journals : Journal → Journal → Prop} {targets : Target → Target → Prop}

theorem Session.Related.opened {left right : Session}
    (related : Session.Related journals targets left right) :
    left.openings.length = right.openings.length :=
  related.openings.length_eq

namespace Work

theorem agree_tell (keeps : KeepsTelling journals) {event : Event} (plain : event.IsPlain) :
    Agree (Session.Related journals targets) Eq (tell event) (tell event) := by
  intro left right related
  obtain ⟨told, kept⟩ := keeps event plain _ _ related.journal
  rw [tell_run, tell_run, told]
  exact ⟨alikeOutcomes_refl (fun _ => rfl) _, { related with journal := kept }⟩

theorem agree_print (text : String) :
    Agree (Session.Related journals targets) Eq (print text) (print text) :=
  agree_modify fun _ _ related =>
    { related with printed := congrArg (· ++ text) related.printed }

theorem agree_keepOpening {one other : Target} (alike : targets one other)
    (calls : List Call) :
    Agree (Session.Related journals targets) Eq (keepOpening ⟨one, calls⟩)
      (keepOpening ⟨other, calls⟩) :=
  agree_modify fun _ _ related =>
    { related with openings := List.rel_append related.openings (.cons ⟨alike, rfl⟩ .nil) }

variable (keeps : KeepsTelling journals)
include keeps

private theorem agree_tellOpened {one other : Target} (alike : targets one other) {event : Event}
    (plain : event.IsPlain) :
    Agree (Session.Related journals targets) Eq (tellOpened one event)
      (tellOpened other event) := by
  refine Agree.bind (agree_tell keeps plain).attempt fun outcome outcomeToo told => ?_
  cases told with
  | ok _ => exact agree_pure rfl
  | error failure =>
      exact (agree_keepOpening alike []).bind_same fun _ => agree_throw failure

theorem agree_connect (setting : Setting) {first second : Config}
    (alike : first.Alike targets second) :
    Agree (Session.Related journals targets) (Option.Rel targets) (connect setting first)
      (connect setting second) := by
  refine agree_get.bind fun left right related => ?_
  have attempts := alike.attempts setting.database right.openings.length
  rw [related.opened, alike.database]
  generalize attempt setting.database first right.openings.length = attempted at attempts
  generalize attempt setting.database second right.openings.length = attemptedToo at attempts
  cases attempts with
  | unsupported failure => exact agree_throw failure
  | refused same failure =>
      exact (agree_keepOpening same []).bind_same fun _ => agree_throw failure
  | absent kind same =>
      refine (agree_keepOpening same []).bind_same fun _ => ?_
      exact (agree_tell keeps ⟨.debug, rfl⟩).bind_same fun _ => agree_pure .none
  | ready kind same =>
      exact (agree_tellOpened keeps same ⟨.debug, rfl⟩).bind_same fun _ =>
        agree_pure (.some same)

theorem agree_planAlone (connection : Option Behaviour) (request : Query.Request)
    (duration : Cell) :
    Agree (Session.Related journals targets) Eq
      (planAlone (Planning.statements connection request duration))
      (planAlone (Planning.statements connection request duration)) := by
  intro left right related
  obtain ⟨same, kept⟩ := Planning.agree_statements keeps connection request duration
    ⟨left.journal, []⟩ ⟨right.journal, []⟩ ⟨related.journal, rfl⟩
  rw [planAlone_run, planAlone_run]
  exact ⟨same, { related with journal := kept.journal }⟩

theorem agree_planOver {one other : Target} (alike : targets one other)
    (connection : Option Behaviour) (request : Query.Request) (duration : Cell) :
    Agree (Session.Related journals targets) Eq
      (planOver one (Planning.statements connection request duration))
      (planOver other (Planning.statements connection request duration)) := by
  intro left right related
  obtain ⟨same, kept⟩ := Planning.agree_statements keeps connection request duration
    ⟨left.journal, []⟩ ⟨right.journal, []⟩ ⟨related.journal, rfl⟩
  rw [planOver_run, planOver_run, kept.calls]
  exact ⟨same, { related with
    journal := kept.journal
    openings := List.rel_append related.openings (.cons ⟨alike, rfl⟩ .nil) }⟩

end Work

end Stepping

end TableExport
