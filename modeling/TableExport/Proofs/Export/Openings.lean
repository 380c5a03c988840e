import Mathlib.Data.List.Forall2
import TableExport.Proofs.Export.Keeping

/-!
The openings of an export. Each statement has one of its own, numbered after
those before the export, and asks nothing over it but that statement.
-/

set_option autoImplicit false

namespace TableExport.Export

open TableExport.Text
open TableExport.Connection
open TableExport.Database
open TableExport.Log
open TableExport.Sequence

/-- Openings that serve statements, one each and in their order, from a first number on. -/
def EachServed (behaviour : Behaviour) (first : Nat) (statements : List String)
    (workers : List Opening) : Prop :=
  List.Forall₂ (fun entry worker => Served behaviour (first + entry.2) (some entry.1) worker.calls)
    statements.zipIdx workers

private theorem overConnection_calls (behaviour : Behaviour) (index : Nat) (sql : String)
    (fetchSize : Given Int) :
    (overConnection behaviour index sql fetchSize).2 =
      (Dialogue.askRows behaviour sql fetchSize).outcome.2 ++ [.closeConnection] := by
  unfold overConnection
  rcases (Dialogue.askRows behaviour sql fetchSize).outcome with ⟨answer, calls⟩
  rfl

/-- On a database of a known kind every statement has an opening, which serves it. -/
theorem outcomeOf_opening {behaviour : Behaviour} {config : Config}
    (known : DatabaseKind.ofName? config.databaseType ≠ none) (number index : Nat)
    (sql : String) (fetchSize : Given Int) :
    ∃ opening, (outcomeOf behaviour config number index sql fetchSize).opening = some opening ∧
      Served behaviour number (some sql) opening.calls := by
  unfold outcomeOf
  cases attempted : attempt behaviour config number with
  | unsupported failure => exact absurd (attempt_unsupported attempted) known
  | refused target failure => exact ⟨_, rfl, .unconnected (attempt_refused attempted)⟩
  | absent kind target => exact ⟨_, rfl, .unconnected (attempt_absent attempted)⟩
  | ready kind target =>
      refine ⟨_, rfl, ?_⟩
      dsimp only
      rw [overConnection_calls]
      exact .closed (attempt_ready attempted) (Dialogue.asked_askRows behaviour sql fetchSize)

private theorem placed_opening (files : Files.Tree) (home : Option String) (folder : List String)
    (outcome : Outcome) : (outcome.placed files home folder).opening = outcome.opening := by
  unfold Outcome.placed
  split
  · rfl
  · split
    · rfl
    · rfl

section Serving

variable {behaviour : Behaviour} {trial : Trial}

private theorem eachServed_zipIdx {opened : Nat}
    (serves : ∀ number index sql, ∃ opening, (trial number index sql).opening = some opening ∧
      Served behaviour number (some sql) opening.calls)
    (place : Outcome → Outcome) (keeps : ∀ outcome, (place outcome).opening = outcome.opening)
    (statements : List String) (start : Nat) :
    List.Forall₂
      (fun entry worker => Served behaviour (opened + entry.2) (some entry.1) worker.calls)
      (statements.zipIdx start)
      ((((statements.zipIdx start).map fun (sql, index) =>
        trial (opened + index) index sql).map place).flatMap
          fun outcome => outcome.opening.toList) := by
  induction statements generalizing start with
  | nil => exact .nil
  | cons sql rest inductionHypothesis =>
      obtain ⟨opening, found, served⟩ := serves (opened + start) start sql
      have opens : (place (trial (opened + start) start sql)).opening = some opening :=
        (keeps _).trans found
      rw [List.zipIdx_cons, List.map_cons, List.map_cons, List.flatMap_cons, opens]
      exact .cons served (inductionHypothesis (start + 1))

theorem eachServed_placedOutcomes
    (serves : ∀ number index sql, ∃ opening, (trial number index sql).opening = some opening ∧
      Served behaviour number (some sql) opening.calls)
    (setting : Setting) (statements : List String) (output : String) (files : Files.Tree)
    (opened : Nat) :
    EachServed behaviour opened statements
      ((placedOutcomes trial setting statements output files opened).flatMap
        fun outcome => outcome.opening.toList) :=
  eachServed_zipIdx serves _ (placed_opening files setting.home? (Files.normalSteps output))
    statements 0

end Serving

private theorem clearingProgress_view {View Value : Type} {view : Session → View}
    (blind : Work.IsBlindToJournal view) (work : Work Value) (session : Session) :
    view ((clearingProgress work).run session).2 = view (work.run session).2 := by
  rcases ran : work.run session with ⟨result, before⟩
  rw [clearingProgress_run ran]
  exact blind before _

private theorem settle_openings (setting : Setting) (folder : List String) (outcomes : List Outcome)
    (completion : Completion) (session : Session) (shows : session.journal.ShowsMemory) :
    ((settle setting folder outcomes completion).run session).2.openings =
      session.openings ++ outcomes.flatMap fun outcome => outcome.opening.toList := by
  have blind : Work.IsBlindToJournal Session.openings := fun _ _ => rfl
  obtain ⟨journal, kept, _, _⟩ := forM_keepOutcome_run outcomes session shows
  have collected : Keeps Session.openings (do
      collect setting.queryTime (completion outcomes)
      conclude folder setting.totalTime (completion outcomes) : Work Summary) :=
    (keeps_collect blind _ _).bind fun _ => keeps_conclude blind _ _ _
  exact (view_bind (fun _ => collected) _ session).trans (congrArg (fun ran => ran.2.openings) kept)

/-- The count of workers is at most that of the statements, or it is one. -/
theorem isWritable_workerCount (limit : Int) {statements : Nat}
    (writable : Numeral.IsWritable statements) :
    Numeral.IsWritable (workerCount limit statements) := by
  have one : Numeral.IsWritable 1 := Numeral.isWritable_of_small (by decide)
  unfold Numeral.IsWritable workerCount at *
  omega

theorem performBy_openings {trial : Trial} {setting : Setting} {statements : List String}
    {output : String} {maxWorkers : Option (Given Int)} {name : String}
    {completion : Completion} {session : Session} {files : Files.Tree} {limit : Int}
    (shows : session.journal.ShowsMemory)
    (made : session.files.ensureFolder output = .ok files)
    (limited : workerLimit maxWorkers = .ok limit)
    (writable : Numeral.IsWritable statements.length) :
    ((performBy trial setting statements output maxWorkers (.text name) completion).run
        session).2.openings =
      session.openings ++
        (placedOutcomes trial setting statements output files session.openings.length).flatMap
          fun outcome => outcome.opening.toList := by
  have blind : Work.IsBlindToJournal Session.openings := fun _ _ => rfl
  obtain ⟨journal, told, setup, _⟩ := tell_exportStarted shows name writable
    (isWritable_workerCount limit writable)
  rw [performBy_run made limited, run_bind, Work.tell_run]
  simp only [startEvent, told, mapError_ok]
  rw [clearingProgress_view blind, settle_openings _ _ _ _ _ (shows.of_setup setup)]

end TableExport.Export
