import TableExport.Proofs.Run.Handover
import TableExport.Proofs.Session.Agreement

/-!
Two runs, side by side. When their options are admitted alike and configure what
cannot be told apart, the runs come to the same in related sessions, provided
that their exports do.
-/

set_option autoImplicit false

namespace TableExport.Run

open TableExport.Connection
open TableExport.Database
open TableExport.Log
open TableExport.Sequence

variable {journals : Journal → Journal → Prop} {targets : Target → Target → Prop}

private theorem agree_printStatements (statements : List String) :
    Agree (Session.Related journals targets) Eq (printStatements statements)
      (printStatements statements) := by
  induction statements with
  | nil => exact agree_pure rfl
  | cons statement rest inductionHypothesis =>
      exact (Work.agree_print _).bind_same fun _ => inductionHypothesis

section Running

variable (keeps : KeepsTelling journals) (setting : Setting)
include keeps

theorem agree_accept (options : Options) :
    Agree (Session.Related journals targets) Eq (accept setting options)
      (accept setting options) := by
  refine agree_get.bind fun left right related => ?_
  rw [related.files]
  refine (agree_ofExcept_same _).bind_same fun request => ?_
  cases made : admissionEvent request with
  | error failure => exact agree_throw failure
  | ok event =>
      have plain : event.IsPlain := ⟨.info, admissionEvent_entry made⟩
      exact (Work.agree_tell keeps plain).bind_same fun _ => agree_pure rfl

theorem agree_plan {config other : Config} (alike : config.Alike targets other)
    (request : Query.Request) :
    Agree (Session.Related journals targets) Eq (plan setting config request)
      (plan setting other request) := by
  unfold plan
  by_cases split : request.isSplit = true
  · simp only [if_pos split]
    refine (Work.agree_connect keeps setting alike).bind fun target targetToo same => ?_
    cases same with
    | none => exact Work.agree_planAlone keeps none request _
    | some same => exact Work.agree_planOver keeps same _ request _
  · simp only [if_neg split]
    exact Work.agree_planAlone keeps none request _

structure Handover.Alike (targets : Target → Target → Prop) (one other : Handover) : Prop where
  request : one.request = other.request
  config : one.config.Alike targets other.config
  statements : one.statements = other.statements
  output : one.output = other.output

theorem agree_performWith {options other : Options}
    (admission : admissionPart options = admissionPart other)
    (dryRun : options.dryRun = other.dryRun) (output : options.output = other.output)
    (configures : Agree (Session.Related journals targets) (Config.Alike targets)
      (configure setting options) (configure setting other))
    {exporting exportingToo : Handover → Work Unit}
    (exports : ∀ one two : Handover, one.Alike targets two →
      Agree (Session.Related journals targets) Eq (exporting one) (exportingToo two)) :
    Agree (Session.Related journals targets) Eq (performWith setting options exporting)
      (performWith setting other exportingToo) := by
  unfold performWith
  rw [accept_congr setting admission, dryRun, output]
  refine (agree_accept keeps setting other).bind_same fun request => ?_
  by_cases alone : (other.dryRun && !request.isSplit) = true
  · simp only [if_pos alone]
    exact (Work.agree_planAlone keeps none request _).bind_same fun statements =>
      agree_printStatements statements
  · simp only [if_neg alone]
    refine configures.bind fun config configToo alike => ?_
    by_cases missing : (!other.dryRun && (other.output.bind Given.filled?).isNone) = true
    · simp only [if_pos missing]
      exact agree_throw (Failure.configuration .outputMissing)
    · simp only [if_neg missing]
      refine (agree_plan keeps setting alike request).bind_same fun statements => ?_
      by_cases dry : other.dryRun = true
      · simp only [if_pos dry]
        exact agree_printStatements statements
      · simp only [if_neg dry]
        exact exports _ _ ⟨rfl, alike, rfl, rfl⟩

private theorem agree_concluded (code : Nat) (text : String) :
    Agree (Session.Related journals targets) Eq (concluded code text) (concluded code text) :=
  (Work.agree_tell keeps ⟨.error, rfl⟩).bind_same fun _ => agree_pure rfl

theorem agree_codeFor (failure : Failure) :
    Agree (Session.Related journals targets) Eq (codeFor failure) (codeFor failure) := by
  unfold codeFor
  split
  · exact agree_concluded keeps _ _
  · exact agree_concluded keeps _ _
  · exact agree_concluded keeps _ _
  · exact agree_concluded keeps _ _
  · exact agree_throw _

theorem lead_performCoded {before : Session → Session → Prop} {options other : Options}
    {completion : Export.Completion}
    (performs : Lead before (Session.Related journals targets) Eq
      (perform setting options completion) (perform setting other completion)) :
    Lead before (Session.Related journals targets) Eq (performCoded setting options completion)
      (performCoded setting other completion) := by
  refine performs.attempt.bind (fun _ _ related => related) fun outcome outcomeToo same => ?_
  cases same with
  | ok _ => exact agree_pure rfl
  | error failure => exact agree_codeFor keeps failure

end Running

end TableExport.Run
