import TableExport.Proofs.Database.Password
import TableExport.Proofs.Export.Agreement
import TableExport.Proofs.Run.Agreement

/-!
Runs of options that differ in the password they give. Nothing that a run comes
to depends on it: not how it ends, what it prints and tells, which files it
writes, or what it asks of the database; the password is handed over when a
connection is opened, and that is all.
-/

set_option autoImplicit false

namespace TableExport

open TableExport.Connection
open TableExport.Database
open TableExport.Log
open TableExport.Sequence

abbrev Session.SameButPasswords : Session → Session → Prop :=
  Session.Related Eq Target.SameButPassword

theorem Session.SameButPasswords.refl (session : Session) : SameButPasswords session session :=
  ⟨rfl, rfl, List.forall₂_same.mpr fun _ _ => ⟨rfl, rfl⟩, rfl, rfl⟩

private theorem keepsTelling_eq : KeepsTelling Eq := by
  intro event _ left right same
  cases same
  exact ⟨rfl, rfl⟩

private theorem agree_tell_same (event : Event) :
    Agree Session.SameButPasswords Eq (Work.tell event) (Work.tell event) := by
  intro left right same
  rw [Work.tell_run, Work.tell_run, same.journal]
  exact ⟨alikeOutcomes_refl (fun _ => rfl) _, { same with journal := rfl }⟩

namespace Export

/-- Workers complete in an order that no password has a part in. -/
def IgnoresPasswords (completion : Completion) : Prop :=
  ∀ left right, AlikeOutcomeLists Target.SameButPassword left right →
    AlikeOutcomeLists Target.SameButPassword (completion left) (completion right)

private theorem ignoresPasswords_of_positions (positions : List Nat) :
    IgnoresPasswords fun outcomes => positions.filterMap fun position => outcomes[position]? := by
  intro left right alike
  have placed (position : Nat) :
      Option.Rel (Outcome.Alike Target.SameButPassword) left[position]? right[position]? := by
    induction alike generalizing position with
    | nil => exact .none
    | cons same _ inductionHypothesis =>
        cases position with
        | zero => exact .some same
        | succ before => exact inductionHypothesis before
  induction positions with
  | nil => exact .nil
  | cons position rest inductionHypothesis =>
      have here := placed position
      dsimp only
      rw [List.filterMap_cons, List.filterMap_cons]
      generalize left[position]? = one at here
      generalize right[position]? = other at here
      cases here with
      | none => exact inductionHypothesis
      | some same => exact .cons same inductionHypothesis

private theorem agree_showProgress_same (progress : Option Progress) :
    Agree Session.SameButPasswords Eq (showProgress progress) (showProgress progress) :=
  agree_modify fun _ _ same =>
    { same with
      journal := congrArg (fun journal => { journal with progress := progress }) same.journal }

private theorem agree_tellConnected_same (connected : Option (String × Option String)) :
    Agree Session.SameButPasswords Eq (tellConnected connected) (tellConnected connected) := by
  cases connected with
  | none => exact agree_pure rfl
  | some named =>
      refine agree_get.bind fun left right same => ?_
      refine (agree_showProgress_same none).bind_same fun _ => ?_
      refine (agree_tell_same _).bind_same fun _ => ?_
      rw [same.journal]
      exact agree_showProgress_same _

private theorem agree_collect_same (duration : Number.Binary64) (outcomes : List Outcome) :
    Agree Session.SameButPasswords Eq (collect duration outcomes)
      (collect duration outcomes) := by
  induction outcomes with
  | nil => exact agree_pure rfl
  | cons outcome rest inductionHypothesis =>
      exact (agree_tell_same _).bind_same fun _ => inductionHypothesis

private theorem agree_settle_password {left right : List Outcome} {completion : Completion}
    (ignores : IgnoresPasswords completion)
    (alike : AlikeOutcomeLists Target.SameButPassword left right) (setting : Setting)
    (folder : List String) :
    Agree Session.SameButPasswords Eq (settle setting folder left completion)
      (settle setting folder right completion) := by
  have completed := ignores left right alike
  refine (agree_forM_keepOutcome agree_tellConnected_same alike).bind_same fun _ => ?_
  dsimp only
  rw [collect_alike completed, conclude_alike completed]
  exact (agree_collect_same _ _).bind_same fun _ => agree_conclude keepsTelling_eq _ _ _

private theorem agree_perform_password {first second : Config} {completion : Completion}
    (ignores : IgnoresPasswords completion) (alike : first.Alike Target.SameButPassword second)
    (setting : Setting) (statements : List String) (output : String)
    (maxWorkers : Option (Given Int)) (fetchSize : Given Int) (name : Cell) :
    Agree Session.SameButPasswords Eq
      (perform setting first statements output maxWorkers fetchSize name completion)
      (perform setting second statements output maxWorkers fetchSize name completion) := by
  refine agree_get.bind fun left right same => ?_
  rw [same.files, same.opened]
  refine (agree_ofExcept_same _).bind_same fun files => ?_
  refine (agree_set { same with files := rfl }).bind_same fun _ => ?_
  refine (agree_ofExcept_same _).bind_same fun limit => ?_
  refine (agree_tell_same _).bind_same fun _ => ?_
  have settled := agree_settle_password ignores (outcomes_alike
    (fun number index sql => outcomeOf_alike alike setting.database number index sql fetchSize)
    files setting.home? (Files.normalSteps output) right.openings.length statements) setting
    (Files.normalSteps output)
  refine Agree.bind settled.attempt fun outcome outcomeToo alikeToo => ?_
  exact (agree_tell_same _).bind_same fun _ => agree_ofExcept alikeToo

end Export

namespace Run

section Running

variable {setting : Setting} {completion : Export.Completion}

private theorem agree_configure_password (options : Options) (first second : Given String) :
    Agree Session.SameButPasswords (Config.Alike Target.SameButPassword)
      (configure setting { options with password := some first })
      (configure setting { options with password := some second }) := by
  refine agree_get.bind fun left right same => ?_
  have resolved : AlikeOutcomes
      (fun one other => one = some first ∧ other = some second)
      ({ options with password := some first }.resolvedPassword setting.environment left.files)
      ({ options with password := some second }.resolvedPassword setting.environment
        right.files) := .ok ⟨rfl, rfl⟩
  refine (agree_ofExcept resolved).bind fun one other given => ?_
  obtain ⟨rfl, rfl⟩ := given
  exact agree_ofExcept
    (((Config.ofUrl_password options.connectionUrl options.username first second).imp
      fun _ _ same => same.alike).mapError _)

private theorem agree_exportHanded_password (ignores : Export.IgnoresPasswords completion)
    (options : Options) (first second : Given String) {one other : Handover}
    (alike : one.Alike Target.SameButPassword other) :
    Agree Session.SameButPasswords Eq
      (exportHanded setting { options with password := some first } completion one)
      (exportHanded setting { options with password := some second } completion other) := by
  unfold exportHanded
  rw [alike.request, alike.statements, alike.output]
  exact (Export.agree_perform_password ignores alike.config setting other.statements other.output
    _ _ _).bind_same fun summary => Work.agree_print _

private theorem agree_perform_password (ignores : Export.IgnoresPasswords completion)
    (options : Options) (first second : Given String) :
    Agree Session.SameButPasswords Eq
      (perform setting { options with password := some first } completion)
      (perform setting { options with password := some second } completion) := by
  have admission : admissionPart { options with password := some first } =
      admissionPart { options with password := some second } := rfl
  rw [perform_eq, perform_eq]
  refine agree_performWith keepsTelling_eq setting admission rfl rfl ?_ fun _ _ alike => ?_
  · exact agree_configure_password options first second
  · exact agree_exportHanded_password ignores options first second alike

/-- Runs that come to the same, in sessions that differ in the passwords of their openings at
most. -/
def EndAlike {Value : Type} (first second : Except Failure Value × Session) : Prop :=
  first.1 = second.1 ∧ first.2.SameButPasswords second.2

private theorem endAlike_of_agree {Value : Type} {first second : Work Value}
    (agree : Agree Session.SameButPasswords Eq first second) (session : Session) :
    EndAlike (first.run session) (second.run session) := by
  obtain ⟨same, kept⟩ := agree session session (.refl session)
  exact ⟨same.eq, kept⟩

/-- A run does not depend on the password that its options give: with another one it comes to
the same, and nothing differs but the password that is handed over to the database. -/
theorem run_ignores_password (setting : Setting) (options : Options) (session : Session)
    (first second : Given String) (completion : Export.Completion)
    (ignores : Export.IgnoresPasswords completion) :
    EndAlike ((perform setting { options with password := some first } completion).run session)
        ((perform setting { options with password := some second } completion).run session) ∧
      EndAlike
        ((performCoded setting { options with password := some first } completion).run session)
        ((performCoded setting { options with password := some second } completion).run
          session) := by
  have performs : Agree Session.SameButPasswords Eq
      (perform setting { options with password := some first } completion)
      (perform setting { options with password := some second } completion) :=
    agree_perform_password ignores options first second
  exact ⟨endAlike_of_agree performs session,
    endAlike_of_agree (lead_performCoded keepsTelling_eq setting performs) session⟩

theorem run_ignores_password_reversed :
    ∃ (setting : Setting) (options : Options) (completion : Export.Completion)
      (first second : Except Failure Nat × Session),
      (performCoded setting { options with password := some (.value "one") }
          completion).run .empty = first ∧
        (performCoded setting { options with password := some (.value "two") }
          completion).run .empty = second ∧
        EndAlike first second ∧ first.2.openings ≠ second.2.openings := by
  let setting : Setting := .timeless { Behaviour.silent with
    row := some [.integer 1, .integer 10]
    defaultReply := some (.table ⟨["x"], [[.integer 6]]⟩) }
  have alike := (run_ignores_password setting (splitOptions "postgresql://user@host/db") .empty
    (.value "one") (.value "two") _ (Export.ignoresPasswords_of_positions [1, 0])).2
  exact ⟨setting, _, _, _, _, rfl, rfl, alike, by decide +kernel⟩

end Running

end Run

end TableExport
