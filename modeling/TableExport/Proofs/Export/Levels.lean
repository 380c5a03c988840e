import TableExport.Proofs.Export.Agreement
import TableExport.Proofs.Export.Settling
import TableExport.Proofs.Log.Levels

/-!
One export under two journals. The progress that messages show is the same in
both of them at every step, and it stays within what can be shown; so the export
comes to the same, and the records differ as the journals do.
-/

set_option autoImplicit false

namespace TableExport.Export

open TableExport.Text
open TableExport.Connection
open TableExport.Database
open TableExport.Log
open TableExport.Number
open TableExport.Sequence

variable {keeping : Keeping}

abbrev SameButJournals (keeping : Keeping) (progress : Option Progress) :
    Session → Session → Prop :=
  Session.Related (Journal.Parallel keeping progress) Eq

/-- Sessions that are the same but for journals that are kept in two ways and show the same
progress, whatever it is. -/
abbrev SameUnderway (keeping : Keeping) : Session → Session → Prop :=
  Session.Related
    (fun left right => ∃ progress, IsShown progress ∧
      Journal.Parallel keeping progress left right) Eq

private theorem keepsTelling_underway : KeepsTelling fun left right =>
    ∃ progress, IsShown progress ∧ Journal.Parallel keeping progress left right := by
  rintro event plain left right ⟨progress, shown, parallel⟩
  obtain ⟨told, kept⟩ := keepsTelling_parallel shown event plain left right parallel
  exact ⟨told, progress, shown, kept⟩

private theorem underway_of_related {progress : Option Progress} {left right : Session}
    (shown : IsShown progress) (related : SameButJournals keeping progress left right) :
    SameUnderway keeping left right :=
  { related with journal := ⟨progress, shown, related.journal⟩ }

private theorem agree_tellConnected_parallel {progress : Option Progress}
    (connected : Option (String × Option String)) :
    Agree (SameButJournals keeping progress) Eq (tellConnected connected)
      (tellConnected connected) := by
  cases connected with
  | none => exact agree_pure rfl
  | some named =>
      obtain ⟨kind, database⟩ := named
      intro left right related
      obtain ⟨leftTold, rightTold, kept⟩ := noteFormatted_parallel isShown_none
        (related.journal.withProgress none) .debug (Event.text (.connected kind database))
      rw [tellConnected_run_told leftTold, tellConnected_run_told rightTold]
      refine ⟨.ok rfl, { related with journal := ?_ }⟩
      rw [related.journal.leftProgress, related.journal.rightProgress]
      exact kept.withProgress progress

section Collecting

variable {name : String} {total completed failed rows : Nat} (named : IsMeasure name)
  (writable : Numeral.IsWritable total)
include named writable

private theorem isShown_counted (within : completed ≤ total) (held : rows < Binary64.firstUnheld) :
    IsShown (some (.counted name total completed failed rows)) := by
  refine isShown_of_sound (counted_isSound name failed writable within held) ?_
  intro other same
  rwa [← Cell.text.inj same]

theorem tell_outcome_parallel {left right : Journal} (outcome : Outcome) (duration : Binary64)
    (parallel : Journal.Parallel keeping (some (.counted name total completed failed rows))
      left right)
    (within : completed < total) (held : rows + outcome.rowCount < Binary64.firstUnheld) :
    (left.tell (outcome.event duration)).1 = (right.tell (outcome.event duration)).1 ∧
      ∃ completedNow failedNow, completedNow ≤ completed + 1 ∧
        Journal.Parallel keeping
          (some (.counted name total completedNow failedNow (rows + outcome.rowCount)))
          (left.tell (outcome.event duration)).2 (right.tell (outcome.event duration)).2 := by
  cases fetched : outcome.rows with
  | ok frame =>
      rw [Outcome.rowCount, fetched] at held
      rw [Outcome.event, Outcome.rowCount, fetched]
      have shown : IsShown (some (.counted name total (completed + 1) failed
          (rows + frame.rows.length))) := isShown_counted named writable within held
      have entered (journal : Journal)
          (shows : journal.progress = some (.counted name total completed failed rows)) :=
        queryCompleted_run (.integer outcome.index) (.real duration) frame.rows.length shows rfl
      obtain ⟨leftTold, rightTold, kept⟩ := tell_parallel parallel shown entered
      exact ⟨leftTold.trans rightTold.symm, completed + 1, failed, Nat.le_refl _, kept⟩
  | error failure =>
      rw [Outcome.rowCount, fetched] at held
      rw [Outcome.event, Outcome.rowCount, fetched]
      have shown : IsShown (some (.counted name total completed (failed + 1) rows)) :=
        isShown_counted named writable (Nat.le_of_lt within) held
      have entered (journal : Journal)
          (shows : journal.progress = some (.counted name total completed failed rows)) :=
        queryFailed_run (.integer outcome.index) (.text failure.message) shows
      obtain ⟨leftTold, rightTold, kept⟩ := tell_parallel parallel shown entered
      exact ⟨leftTold.trans rightTold.symm, completed, failed + 1, Nat.le_succ _, kept⟩

private theorem lead_collect (duration : Binary64) {outcomes : List Outcome}
    (within : completed + outcomes.length ≤ total)
    (held : rows + totalRows outcomes < Binary64.firstUnheld) :
    Lead (SameButJournals keeping (some (.counted name total completed failed rows)))
      (SameUnderway keeping) Eq (collect duration outcomes) (collect duration outcomes) := by
  -- what is counted so far and what is still to come stay within what can be shown
  induction outcomes generalizing completed failed rows with
  | nil =>
      intro left right related
      exact ⟨.ok rfl, underway_of_related (isShown_counted named writable within held) related⟩
  | cons outcome rest inductionHypothesis =>
      intro left right related
      rw [List.length_cons] at within
      rw [totalRows] at held
      obtain ⟨told, completedNow, failedNow, atMost, kept⟩ := tell_outcome_parallel named
        writable outcome duration related.journal (by omega) (by omega)
      rw [collect, run_bind, run_bind, Work.tell_run, Work.tell_run, told]
      cases (right.journal.tell (outcome.event duration)).1 with
      | error fault =>
          -- the message has no text; both journals have counted the outcome all the same
          refine ⟨.error _, underway_of_related ?_ { related with journal := kept }⟩
          exact isShown_counted named writable (by omega) (by omega)
      | ok _ =>
          exact inductionHypothesis (by omega) (by omega) _ _ { related with journal := kept }

end Collecting

theorem Outcome.alike_refl (outcome : Outcome) : outcome.Alike Eq outcome := by
  refine ⟨rfl, ?_, rfl, rfl, rfl⟩
  cases outcome.opening with
  | none => exact .none
  | some opening => exact .some ⟨rfl, rfl⟩

section Performing

variable {name : String} {completion : Completion}

/-- What settles an export settles it alike, from the progress of its start on. -/
theorem lead_settle {outcomes : List Outcome} (named : IsMeasure name)
    (writable : Numeral.IsWritable outcomes.length)
    (same : (completion outcomes).Perm outcomes)
    (held : totalRows outcomes < Binary64.firstUnheld) (setting : Setting)
    (folder : List String) :
    Lead (SameButJournals keeping (some (.counted name outcomes.length 0 0 0)))
      (SameUnderway keeping) Eq (settle setting folder outcomes completion)
      (settle setting folder outcomes completion) := by
  have keep : Agree (SameButJournals keeping (some (.counted name outcomes.length 0 0 0))) Eq
      (outcomes.forM keepOutcome) (outcomes.forM keepOutcome) :=
    agree_forM_keepOutcome agree_tellConnected_parallel
      (List.forall₂_same.mpr fun outcome _ => outcome.alike_refl)
  have within : 0 + (completion outcomes).length ≤ outcomes.length := by
    rw [same.length_eq, Nat.zero_add]
  have heldToo : 0 + totalRows (completion outcomes) < Binary64.firstUnheld := by
    rwa [totalRows_perm same, Nat.zero_add]
  have shown : IsShown (some (.counted name outcomes.length 0 0 0)) :=
    isShown_counted named writable (Nat.zero_le _) Binary64.firstUnheld_pos
  refine Lead.bind keep (fun _ _ => underway_of_related shown) fun _ _ _ => ?_
  refine Lead.bind (lead_collect named writable setting.queryTime within heldToo)
    (fun _ _ underway => underway) fun _ _ _ => ?_
  exact agree_conclude keepsTelling_underway folder setting.totalTime (completion outcomes)

private theorem tell_start_parallel {statements : List String} (named : IsMeasure name)
    (writable : Numeral.IsWritable statements.length) (limit : Int) {left right : Session}
    (related : SameButJournals keeping none left right) :
    ∃ leftTold rightTold,
      (Work.tell (startEvent (.text name) statements limit)).run left = (.ok (), leftTold) ∧
      (Work.tell (startEvent (.text name) statements limit)).run right = (.ok (), rightTold) ∧
      SameButJournals keeping (some (.counted name statements.length 0 0 0)) leftTold
        rightTold := by
  have shown : IsShown (some (.counted name statements.length 0 0 0)) :=
    isShown_counted named writable (Nat.zero_le _) Binary64.firstUnheld_pos
  have text : (startEvent (.text name) statements limit).text = .ok _ :=
    text_exportStarted (.text name) writable (isWritable_workerCount limit writable)
  have entered (journal : Journal) (_ : journal.progress = none) :
      (startEvent (.text name) statements limit).entry.run journal =
        (noteFormatted .info (startEvent (.text name) statements limit).text).run
          { journal with progress := some (.counted name statements.length 0 0 0) } :=
    tell_exportStarted_run (.text name) (.integer statements.length)
      (.integer (workerCount limit statements.length)) journal
  generalize startEvent (.text name) statements limit = event at text entered ⊢
  obtain ⟨leftTold, rightTold, kept⟩ := tell_parallel related.journal shown entered
  rw [text] at leftTold rightTold
  refine ⟨{ left with journal := (left.journal.tell event).2 },
    { right with journal := (right.journal.tell event).2 }, ?_, ?_,
    { related with journal := kept }⟩
  · rw [Work.tell_run, leftTold]
    rfl
  · rw [Work.tell_run, rightTold]
    rfl

/-- An export whose rows can be counted comes to the same under both journals. -/
theorem agree_performBy_parallel {trial : Trial} {setting : Setting} {statements : List String}
    {output : String} (named : IsMeasure name) (writable : Numeral.IsWritable statements.length)
    (numbered : ∀ number index sql, (trial number index sql).index = index)
    (same : ∀ outcomes, (completion outcomes).Perm outcomes)
    (held : ∀ files opened,
      totalRows (placedOutcomes trial setting statements output files opened) <
        Binary64.firstUnheld)
    (maxWorkers : Option (Given Int)) :
    Agree (SameButJournals keeping none) Eq
      (performBy trial setting statements output maxWorkers (.text name) completion)
      (performBy trial setting statements output maxWorkers (.text name) completion) := by
  intro left right related
  rcases made : left.files.ensureFolder output with fault | files
  · have madeToo := related.files ▸ made
    rw [performBy_run_unmade made, performBy_run_unmade madeToo]
    exact ⟨.error _, related⟩
  have madeToo := related.files ▸ made
  rcases limited : workerLimit maxWorkers with failure | limit
  · rw [performBy_run_unlimited made limited, performBy_run_unlimited madeToo limited]
    exact ⟨.error _, { related with files := rfl }⟩
  rw [performBy_run made limited, performBy_run madeToo limited, related.opened]
  obtain ⟨outcomes, tried⟩ : ∃ outcomes,
    placedOutcomes trial setting statements output files right.openings.length = outcomes :=
    ⟨_, rfl⟩
  have heldHere := held files right.openings.length
  have count : outcomes.length = statements.length := by
    rw [← tried, placedOutcomes_length numbered]
  rw [tried] at heldHere ⊢
  have placed : SameButJournals keeping none { left with files := files }
      { right with files := files } := { related with files := rfl }
  obtain ⟨leftStarted, rightStarted, leftTold, rightTold, started⟩ :=
    tell_start_parallel named writable limit placed
  rw [← count] at started writable
  obtain ⟨alike, ended⟩ := lead_settle named writable (same outcomes) heldHere setting
    (Files.normalSteps output) leftStarted rightStarted started
  rw [run_bind, run_bind, leftTold, rightTold]
  dsimp only
  rw [clearingProgress_run (Prod.eta _).symm, clearingProgress_run (Prod.eta _).symm]
  obtain ⟨progress, _, journal⟩ := ended.journal
  exact ⟨alike, { ended with journal := journal.withProgress none }⟩

end Performing

end TableExport.Export
