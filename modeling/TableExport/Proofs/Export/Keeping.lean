import TableExport.Proofs.Database.Opening
import TableExport.Proofs.Export.Steps
import TableExport.Proofs.Log.Legibility

/-!
What is kept of the outcomes of an export. While the journal shows its memory
reading, nothing stands in the way of keeping: every outcome leaves its opening
and its part file behind, in the order of the statements, before the first of
them is collected.
-/

set_option autoImplicit false

namespace TableExport.Export

open TableExport.Connection
open TableExport.Database
open TableExport.Log
open TableExport.Sequence

def Outcome.keptIn (outcome : Outcome) (parts : List Part) : List Part :=
  match outcome.rows, outcome.place with
  | .ok frame, some steps =>
      parts.filter (fun other => other.steps != steps) ++ [⟨steps, frame.stored⟩]
  | _, _ => parts

def partsKept (outcomes : List Outcome) (parts : List Part) : List Part :=
  outcomes.foldl (fun kept outcome => outcome.keptIn kept) parts

def sessionKeeping (outcomes : List Outcome) (session : Session) (journal : Journal) : Session :=
  { session with
    journal := journal
    openings := session.openings ++ outcomes.flatMap fun outcome => outcome.opening.toList
    parts := partsKept outcomes session.parts }

private theorem showProgress_run (progress : Option Progress) (session : Session) :
    (showProgress progress).run session =
      (.ok (), { session with journal := { session.journal with progress := progress } }) := rfl

theorem tellConnected_run_told {kind : String} {database : Option String} {session : Session}
    (told : (Journal.tell { session.journal with progress := none }
      (.connected kind database)).1 = .ok ()) :
    (tellConnected (some (kind, database))).run session =
      (.ok (), { session with
        journal := { (Journal.tell { session.journal with progress := none }
          (.connected kind database)).2 with progress := session.journal.progress } }) := by
  simp only [tellConnected, run_bind, run_get, showProgress_run, Work.tell_run, told,
    mapError_ok]

private theorem tellConnected_run (session : Session) (shows : session.journal.ShowsMemory)
    (connected : Option (String × Option String)) :
    ∃ journal, (tellConnected connected).run session =
        (.ok (), { session with journal := journal }) ∧
      journal.setup = session.journal.setup ∧
      journal.progress = session.journal.progress := by
  cases connected with
  | none => exact ⟨session.journal, rfl, rfl, rfl⟩
  | some named =>
      obtain ⟨kind, database⟩ := named
      have alone : ({ session.journal with progress := none } : Journal).ShowsMemory := shows
      have idle : ({ session.journal with progress := none } : Journal).IsLegible := by
        refine alone.isLegible ?_
        intro progress impossible
        cases impossible
      exact ⟨_, tellConnected_run_told (tell_connected_ok kind database idle), tell_setup _ _,
        rfl⟩

private theorem keepAttempt_run (opening : Option Opening) (session : Session) :
    (keepAttempt opening).run session =
      (.ok (), { session with openings := session.openings ++ opening.toList }) := by
  cases opening with
  | none => rw [Option.toList_none, List.append_nil]; rfl
  | some opening => rfl

private theorem keepRows_run (outcome : Outcome) (session : Session) :
    (keepRows outcome).run session =
      (.ok (), { session with parts := outcome.keptIn session.parts }) := by
  unfold keepRows Outcome.keptIn
  cases outcome.rows with
  | error failure => rfl
  | ok frame =>
      cases outcome.place with
      | none => rfl
      | some steps => rfl

private theorem keepOutcome_run (outcome : Outcome) (session : Session)
    (shows : session.journal.ShowsMemory) :
    ∃ journal, (keepOutcome outcome).run session =
        (.ok (), { session with
          journal := journal
          openings := session.openings ++ outcome.opening.toList
          parts := outcome.keptIn session.parts }) ∧
      journal.setup = session.journal.setup ∧
      journal.progress = session.journal.progress := by
  obtain ⟨journal, told, setup, progress⟩ := tellConnected_run
    { session with openings := session.openings ++ outcome.opening.toList } shows
    outcome.connected
  refine ⟨journal, ?_, setup, progress⟩
  simp only [keepOutcome, run_bind, keepAttempt_run, told, keepRows_run]

theorem forM_keepOutcome_run (outcomes : List Outcome) (session : Session)
    (shows : session.journal.ShowsMemory) :
    ∃ journal, (outcomes.forM keepOutcome).run session =
        (.ok (), sessionKeeping outcomes session journal) ∧
      journal.setup = session.journal.setup ∧
      journal.progress = session.journal.progress := by
  induction outcomes generalizing session with
  | nil =>
      refine ⟨session.journal, ?_, rfl, rfl⟩
      rw [sessionKeeping, List.flatMap_nil, List.append_nil]
      rfl
  | cons outcome rest inductionHypothesis =>
      obtain ⟨first, kept, setup, progress⟩ := keepOutcome_run outcome session shows
      obtain ⟨journal, keptRest, setupRest, progressRest⟩ := inductionHypothesis
        { session with
          journal := first
          openings := session.openings ++ outcome.opening.toList
          parts := outcome.keptIn session.parts } (shows.of_setup setup)
      refine ⟨journal, ?_, setupRest.trans setup, progressRest.trans progress⟩
      simp only [List.forM, run_bind, kept]
      refine keptRest.trans ?_
      rw [sessionKeeping, sessionKeeping, List.flatMap_cons, ← List.append_assoc]
      rfl

end TableExport.Export
