import TableExport.Proofs.Database.Fetching
import TableExport.Proofs.Export.Order
import TableExport.Proofs.Export.Places

/-!
The rows of an export that succeeds. No statement has failed then, so each has a
table, its part file holds the rows that were fetched of it, and the summary
counts the rows of all of them.
-/

set_option autoImplicit false

namespace TableExport.Export

open TableExport.Connection
open TableExport.Database
open TableExport.Database.Dialogue
open TableExport.Files
open TableExport.Log
open TableExport.Number
open TableExport.Sequence

/-! ### One statement -/

private theorem overConnection_ok {behaviour : Behaviour} {index : Nat} {sql : String}
    {fetchSize : Given Int} {frame : Frame}
    (fetched : (overConnection behaviour index sql fetchSize).1 = .ok frame) :
    ∃ calls, (askRows behaviour sql fetchSize).run [] = (.ok frame, calls) := by
  unfold overConnection outcome at fetched
  rcases ran : (askRows behaviour sql fetchSize).run [] with ⟨refusal | found, calls⟩
  · rw [ran] at fetched
    cases fetched
  · rw [ran] at fetched
    cases fetched
    exact ⟨calls, rfl⟩

theorem outcomeOf_rows_ok {behaviour : Behaviour} {config : Config} {number index : Nat}
    {sql : String} {fetchSize : Given Int} {frame : Frame}
    (succeeded : (outcomeOf behaviour config number index sql fetchSize).rows = .ok frame) :
    ∃ table, behaviour.reply sql = .ok table ∧ frame.Holds (fetched fetchSize table.rows) := by
  unfold outcomeOf at succeeded
  split at succeeded
  · cases succeeded
  · cases succeeded
  · cases succeeded
  · obtain ⟨calls, ran⟩ := overConnection_ok succeeded
    exact askRows_ok ran

/-! ### All statements -/

def Outcome.Exports (fetchSize : Given Int) (outcome : Outcome) (table : Table) : Prop :=
  ∃ frame, outcome.rows = .ok frame ∧ frame.Holds (fetched fetchSize table.rows)

section Exporting

variable {behaviour : Behaviour} {trial : Trial} {fetchSize : Given Int} {setting : Setting}
  {output : String} {files : Files.Tree} {opened : Nat}

theorem tables_of_zipIdx
    (answers : ∀ number index sql frame, (trial number index sql).rows = .ok frame →
      ∃ table, behaviour.reply sql = .ok table ∧ frame.Holds (fetched fetchSize table.rows))
    (place : Outcome → Outcome)
    (keeps : ∀ outcome frame, (place outcome).rows = .ok frame → outcome.rows = .ok frame)
    (statements : List String) (start : Nat)
    (noFailure : failures (((statements.zipIdx start).map fun (sql, index) =>
      trial (opened + index) index sql).map place) = []) :
    ∃ tables, List.Forall₂ (fun sql table => behaviour.reply sql = .ok table) statements tables ∧
      List.Forall₂ (Outcome.Exports fetchSize)
        (((statements.zipIdx start).map fun (sql, index) =>
          trial (opened + index) index sql).map place) tables := by
  induction statements generalizing start with
  | nil => exact ⟨[], .nil, .nil⟩
  | cons sql rest inductionHypothesis =>
      rw [List.zipIdx_cons, List.map_cons, List.map_cons] at noFailure ⊢
      rw [failures_cons] at noFailure
      cases rows : (place (trial (opened + start) start sql)).rows with
      | error failure =>
          rw [rows] at noFailure
          cases noFailure
      | ok frame =>
          rw [rows] at noFailure
          obtain ⟨tables, replies, exported⟩ := inductionHypothesis (start + 1) noFailure
          obtain ⟨table, reply, holds⟩ := answers _ _ _ _ (keeps _ _ rows)
          exact ⟨table :: tables, .cons reply replies, .cons ⟨frame, rows, holds⟩ exported⟩

private theorem tables_of_placedOutcomes
    (answers : ∀ number index sql frame, (trial number index sql).rows = .ok frame →
      ∃ table, behaviour.reply sql = .ok table ∧ frame.Holds (fetched fetchSize table.rows))
    {statements : List String}
    (noFailure : failures (placedOutcomes trial setting statements output files opened) = []) :
    ∃ tables, List.Forall₂ (fun sql table => behaviour.reply sql = .ok table) statements tables ∧
      List.Forall₂ (Outcome.Exports fetchSize)
        (placedOutcomes trial setting statements output files opened) tables :=
  tables_of_zipIdx answers _ (fun _ _ placed => (placed_rows_ok placed).1) statements 0 noFailure

private theorem totalRows_of_exports {outcomes : List Outcome} {tables : List Table}
    (exported : List.Forall₂ (Outcome.Exports fetchSize) outcomes tables) :
    totalRows outcomes =
      (tables.map fun table => (fetched fetchSize table.rows).length).sum := by
  induction exported with
  | nil => rfl
  | cons first _ inductionHypothesis =>
      obtain ⟨frame, rows, holds⟩ := first
      rw [totalRows, Outcome.rowCount, rows, List.map_cons, List.sum_cons, inductionHypothesis]
      dsimp only
      rw [holds.length_eq]

end Exporting

/-! ### No more rows than there are -/

def rowsOf (behaviour : Behaviour) (sql : String) : Nat :=
  match behaviour.reply sql with
  | .ok table => table.rows.length
  | .error _ => 0

private theorem fetched_length_le (fetchSize : Given Int) (rows : List (List Cell)) :
    (fetched fetchSize rows).length ≤ rows.length := by
  unfold fetched
  split
  · split
    · exact Nat.le_refl _
    · exact Nat.zero_le _
  · exact Nat.zero_le _

private theorem rowCount_placed_le (behaviour : Behaviour) (config : Config) (number index : Nat)
    (sql : String) (fetchSize : Given Int) (files : Files.Tree) (home : Option String)
    (folder : List String) :
    ((outcomeOf behaviour config number index sql fetchSize).placed files home folder).rowCount ≤
      rowsOf behaviour sql := by
  unfold Outcome.rowCount
  split
  · rename_i frame written
    obtain ⟨table, reply, holds⟩ := outcomeOf_rows_ok (placed_rows_ok written).1
    rw [rowsOf, reply, holds.length_eq]
    exact fetched_length_le fetchSize table.rows
  · exact Nat.zero_le _

theorem totalRows_placedOutcomes_le (setting : Setting) (config : Config)
    (statements : List String) (output : String) (fetchSize : Given Int) (files : Files.Tree)
    (opened : Nat) :
    totalRows (placedOutcomes
      (fun number index sql => outcomeOf setting.database config number index sql fetchSize)
      setting statements output files opened) ≤
        (statements.map (rowsOf setting.database)).sum := by
  unfold placedOutcomes outcomesOf
  generalize 0 = start
  induction statements generalizing start with
  | nil => exact Nat.le_refl _
  | cons sql rest inductionHypothesis =>
      rw [List.zipIdx_cons, List.map_cons, List.map_cons, List.map_cons, List.sum_cons, totalRows]
      exact Nat.add_le_add (rowCount_placed_le setting.database config _ _ sql fetchSize _ _ _)
        (inductionHypothesis (start + 1))

/-! ### Exports that succeed -/

section Succeeding

variable {setting : Setting} {folder : List String} {outcomes collected : List Outcome}
  {session after : Session} {summary : Summary} {duration : Binary64}

theorem conclude_ok
    (ran : (conclude folder duration collected).run session = (.ok summary, after)) :
    failures collected = [] ∧ summary.rows = totalRows collected ∧
      summary.files = (succeeded collected).map fun (index : Nat) =>
        childText folder (partFileName index) := by
  unfold conclude at ran
  dsimp only at ran
  split at ran
  · rw [run_bind_ok_iff] at ran
    obtain ⟨_, _, _, impossible⟩ := ran
    cases impossible
  · rename_i unfound
    rw [run_bind_ok_iff] at ran
    obtain ⟨_, _, _, summed⟩ := ran
    cases summed
    exact ⟨firstFailure?_eq_none unfound, rfl, rfl⟩

private theorem succeeded_length (noFailure : failures collected = []) :
    (succeeded collected).length = collected.length := by
  rw [succeeded_eq_sorted noFailure, (sorted_perm _).length_eq, List.length_map]

private theorem settle_ok {completion : Completion} (same : (completion outcomes).Perm outcomes)
    (shows : session.journal.ShowsMemory)
    (ran : (settle setting folder outcomes completion).run session = (.ok summary, after)) :
    failures outcomes = [] ∧ summary.rows = totalRows outcomes ∧
      summary.files.length = outcomes.length ∧
      after.parts = partsKept outcomes session.parts := by
  have blind : Work.IsBlindToJournal Session.parts := fun _ _ => rfl
  obtain ⟨journal, kept, _, _⟩ := forM_keepOutcome_run outcomes session shows
  simp only [settle, run_bind_ok_iff, kept] at ran
  obtain ⟨_, keptSession, keeping, _, collectedSession, collecting, concluding⟩ := ran
  have partsConcluded := (keeps_conclude blind _ _ _).of_run concluding
  have partsCollected := (keeps_collect blind _ _).of_run collecting
  obtain ⟨noFailure, rows, files⟩ := conclude_ok concluding
  cases keeping
  refine ⟨?_, rows.trans (totalRows_perm same), ?_, partsConcluded.trans partsCollected⟩
  · have sameFailures := failures_perm same
    rw [noFailure] at sameFailures
    exact sameFailures.nil_eq.symm
  · rw [files, List.length_map, succeeded_length noFailure, same.length_eq]

end Succeeding

section Performing

variable {behaviour : Behaviour} {trial : Trial} {fetchSize : Given Int} {setting : Setting}
  {statements : List String} {output : String} {maxWorkers : Option (Given Int)} {name : Cell}
  {completion : Completion} {session after : Session} {summary : Summary}

/-- An export that succeeds has told that it starts, and its outcomes are settled. -/
theorem performBy_settled
    (ran : (performBy trial setting statements output maxWorkers name completion).run session =
      (.ok summary, after)) :
    ∃ files limit started before, session.files.ensureFolder output = .ok files ∧
      (Work.tell (startEvent name statements limit)).run { session with files := files } =
        (.ok (), started) ∧
      (settle setting (normalSteps output)
        (placedOutcomes trial setting statements output files session.openings.length)
        completion).run started = (.ok summary, before) ∧
      after.parts = before.parts := by
  rcases made : session.files.ensureFolder output with fault | files
  · rw [performBy_run_unmade made] at ran
    cases ran
  · rcases limited : workerLimit maxWorkers with failure | limit
    · rw [performBy_run_unlimited made limited] at ran
      cases ran
    · rw [performBy_run made limited, run_bind_ok_iff] at ran
      obtain ⟨_, started, telling, cleared⟩ := ran
      rcases settled : (settle setting (normalSteps output)
        (placedOutcomes trial setting statements output files session.openings.length)
        completion).run started with ⟨result, before⟩
      rw [clearingProgress_run settled] at cleared
      cases cleared
      exact ⟨files, limit, started, before, rfl, telling, settled, rfl⟩

private theorem performBy_ok (same : ∀ outcomes, (completion outcomes).Perm outcomes)
    (shows : session.journal.ShowsMemory)
    (ran : (performBy trial setting statements output maxWorkers name completion).run session =
      (.ok summary, after)) :
    ∃ files outcomes, session.files.ensureFolder output = .ok files ∧
      placedOutcomes trial setting statements output files session.openings.length = outcomes ∧
      failures outcomes = [] ∧ summary.rows = totalRows outcomes ∧
      summary.files.length = outcomes.length ∧
      after.parts = partsKept outcomes session.parts := by
  obtain ⟨files, limit, started, before, made, telling, settled, sameParts⟩ :=
    performBy_settled ran
  rw [Work.tell_run] at telling
  obtain ⟨_, left⟩ := Prod.mk.inj telling
  have startedShows : started.journal.ShowsMemory := by
    apply shows.of_setup
    rw [← left]
    dsimp only
    rw [tell_setup]
  have startedParts : started.parts = session.parts := by rw [← left]
  obtain ⟨noFailure, rows, written, kept⟩ := settle_ok (same _) startedShows settled
  rw [startedParts] at kept
  exact ⟨files, _, made, rfl, noFailure, rows, written, sameParts.trans kept⟩

/-- The part file with a number holds exactly the given rows, unless they are rows without
cells, of which a file keeps nothing. -/
def PartHolds (setting : Setting) (output : String) (files : Files.Tree) (parts : List Part)
    (index : Nat) (rows : List (List Cell)) : Prop :=
  ∃ steps stored,
    files.placeFor setting.home? (childText (normalSteps output) (partFileName index)) =
        .ok (some steps) ∧
      HasPart parts steps stored ∧ ((∀ row ∈ rows, row ≠ []) → stored.Holds rows)

private theorem partHolds_of_exports {files : Files.Tree} {opened index : Nat} {table : Table}
    {outcomes : List Outcome} {tables : List Table} {parts : List Part}
    (numbered : ∀ number index sql, (trial number index sql).index = index)
    (onDisk : IsOnDisk setting output)
    (tried : placedOutcomes trial setting statements output files opened = outcomes)
    (exported : List.Forall₂ (Outcome.Exports fetchSize) outcomes tables)
    (found : tables[index]? = some table) :
    PartHolds setting output files (partsKept outcomes parts) index
      (fetched fetchSize table.rows) := by
  subst tried
  obtain ⟨inside, reached⟩ := List.getElem?_eq_some_iff.mp found
  obtain ⟨sameLength, each⟩ := List.forall₂_iff_get.mp exported
  have within : index <
      (placedOutcomes trial setting statements output files opened).length := by omega
  obtain ⟨frame, rows, holds⟩ := each index within inside
  have member := List.getElem_mem within
  obtain ⟨steps, place, has⟩ := placedOutcomes_hasPart numbered onDisk parts member rows
  have placed := (placedOutcomes_written member rows).1
  rw [placedOutcomes_index_at numbered within, place] at placed
  rw [← reached]
  exact ⟨steps, frame.stored, placed, has, fun filled => holds.stored filled⟩

/-- An export that succeeds has asked every statement, and its part files hold what was fetched
of the answers. -/
theorem perform_ok {config : Config} (same : ∀ outcomes, (completion outcomes).Perm outcomes)
    (shows : session.journal.ShowsMemory)
    (ran : (perform setting config statements output maxWorkers fetchSize name
      completion).run session = (.ok summary, after)) :
    ∃ files tables, session.files.ensureFolder output = .ok files ∧
      List.Forall₂ (fun sql table => setting.database.reply sql = .ok table)
        statements tables ∧
      summary.rows = (tables.map fun table => (fetched fetchSize table.rows).length).sum ∧
      summary.files.length = statements.length ∧
      (IsOnDisk setting output → ∀ index table, tables[index]? = some table →
        PartHolds setting output files after.parts index (fetched fetchSize table.rows)) := by
  obtain ⟨files, outcomes, made, tried, noFailure, rows, written, parts⟩ :=
    performBy_ok same shows ran
  rw [← tried] at noFailure
  obtain ⟨tables, replies, exported⟩ := tables_of_placedOutcomes
    (fun number index sql frame => outcomeOf_rows_ok) noFailure
  refine ⟨files, tables, made, replies, ?_, ?_, fun onDisk index table found => ?_⟩
  · rw [rows, ← tried]
    exact totalRows_of_exports exported
  · rw [written, replies.length_eq, ← tried]
    exact exported.length_eq
  · rw [parts]
    rw [tried] at exported
    exact partHolds_of_exports (fun number index sql => outcomeOf_index setting.database config
      number index sql fetchSize) onDisk tried exported found

end Performing

end TableExport.Export
