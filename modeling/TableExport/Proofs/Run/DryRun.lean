import TableExport.Proofs.Run.Handover
import TableExport.Proofs.Run.Openings

/-!
A dry run and the run it stands for. The statements that a run hands over to its
export are the ones that the dry run prints, in the same order and in the very
session in which the export gets them; so the worker with a number asks the
statement on the line with that number.
-/

set_option autoImplicit false

namespace TableExport.Run

open TableExport.Connection
open TableExport.Database
open TableExport.Sequence

private theorem printStatements_run (statements : List String) (session : Session) :
    (printStatements statements).run session =
      (.ok (), { session with
        printed := session.printed ++ String.join (statements.map (· ++ "\n")) }) := by
  induction statements generalizing session with
  | nil => rw [List.map_nil, String.join_nil, String.append_empty]; rfl
  | cons statement rest inductionHypothesis =>
      rw [printStatements, run_bind, Work.print_run]
      dsimp only
      rw [inductionHypothesis, List.map_cons, String.join_cons, String.append_assoc]

section Agreeing

variable {setting : Setting} {options : Options} {session middle : Session}
  {handover : Handover}

/-- The dry run prints in the session in which the export would get the statements. -/
theorem Reaches.dryRun
    (reaches : Reaches setting { options with dryRun := false } session handover middle)
    (completion : Export.Completion) :
    (perform setting { options with dryRun := true } completion).run session =
      (printStatements handover.statements).run middle := by
  obtain ⟨admitted, accepted, configured, planned⟩ := reaches.built
  have accepting : accept setting { options with dryRun := true } =
      accept setting { options with dryRun := false } := accept_congr setting rfl
  have configuredDry : (configure setting { options with dryRun := true }).run admitted =
      (.ok handover.config, admitted) := configured
  by_cases split : handover.request.isSplit = true
  · simp only [perform, run_bind, accepting, accepted, split, Bool.not_true, Bool.and_false,
      Bool.false_eq_true, if_false, configuredDry, Bool.false_and, planned, if_true]
  · simp only [plan, if_neg split] at planned
    simp only [perform, run_bind, accepting, accepted, eq_false_of_ne_true split, Bool.not_false,
      Bool.and_self, if_true, planned]

/-- The statements that a run hands over are printed by the dry run, a line each and in order,
and they are asked by the workers of the export, one each and in the same order. -/
theorem dryRun_prints_handedOver
    (handsOver : HandsOver setting { options with dryRun := false } session handover middle)
    (completion : Export.Completion) :
    (perform setting { options with dryRun := true } completion).run session =
        (printStatements handover.statements).run middle ∧
      (printStatements handover.statements).run middle =
        (.ok (), { middle with
          printed := session.printed ++
            String.join (handover.statements.map (· ++ "\n")) }) ∧
      (perform setting { options with dryRun := false } completion).run session =
        (exportHanded setting { options with dryRun := false } completion handover).run
          middle ∧
      ∃ workers,
        ((perform setting { options with dryRun := false } completion).run session).2.openings =
            middle.openings ++ workers ∧
          ∀ files, middle.files.ensureFolder handover.output = .ok files →
            Employed setting.database middle.openings.length handover.statements
              options.maxWorkers workers := by
  have reaches := handsOver.reaches
  obtain ⟨admitted, accepted, configured, planned⟩ := reaches.built
  have printed : middle.printed = session.printed :=
    view_of_planned (fun _ _ => rfl) (fun _ _ => rfl) accepted planned
  have exported := handsOver (exportHanded setting { options with dryRun := false } completion)
  obtain ⟨workers, opened, _, employed⟩ : ∃ workers,
      ((exportHanded setting { options with dryRun := false } completion handover).run
          middle).2.openings = middle.openings ++ workers ∧
        (workers ≠ [] → ∃ files, middle.files.ensureFolder handover.output = .ok files) ∧
        ∀ files, middle.files.ensureFolder handover.output = .ok files →
          Employed setting.database middle.openings.length handover.statements
            options.maxWorkers workers :=
    exportRows_openings (configure_ok configured).2 (showsMemory_of_planned accepted planned)
      (isWritable_of_plan planned)
  refine ⟨reaches.dryRun completion, ?_, exported, workers, ?_, employed⟩
  · rw [printStatements_run, printed]
  · rw [perform_eq, exported]
    exact opened

theorem dryRun_prints_handedOver_split :
    ∃ (setting : Setting) (options : Options) (handover : Handover) (middle : Session),
      HandsOver setting { options with dryRun := false } .empty handover middle ∧
      handover.statements =
        ["SELECT * FROM t WHERE 1=1 AND x >= 1 AND x <= 5",
          "SELECT * FROM t WHERE 1=1 AND x >= 6 AND x <= 10"] ∧
      (perform setting { options with dryRun := true } id).run .empty =
        (.ok (), { middle with
          printed := "SELECT * FROM t WHERE 1=1 AND x >= 1 AND x <= 5\n" ++
            "SELECT * FROM t WHERE 1=1 AND x >= 6 AND x <= 10\n" }) := by
  let setting : Setting := .timeless { Behaviour.silent with
    row := some [.integer 1, .integer 10] }
  let middle : Session :=
    { Session.empty with
      openings := [⟨.file (some "/db"),
        Dialogue.boundsCalls "SELECT MIN(x), MAX(x) FROM (SELECT * FROM t WHERE 1=1)" ++
          [.closeConnection]⟩] }
  have reaches : Reaches setting { splitOptions "sqlite:///db" with dryRun := false } .empty
      splitHandover middle :=
    ⟨rfl, by decide, .empty, run_of_toOption (by decide +kernel),
      run_of_toOption (by decide +kernel), run_of_toOption (by decide +kernel)⟩
  obtain ⟨dry, printed, _⟩ := dryRun_prints_handedOver reaches.handsOver id
  exact ⟨setting, _, _, middle, reaches.handsOver, rfl, dry.trans printed⟩

end Agreeing

end TableExport.Run
