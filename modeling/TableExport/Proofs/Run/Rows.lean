import TableExport.Proofs.Export.Rows
import TableExport.Proofs.Run.Openings

/-!
What a run has written when it ends well. Every statement was answered, its part
file holds the rows that were fetched, and the printed count is that of all of
them. No check stands between a size of batches that is not positive and the
fetching: such a run ends just as well, with no row of any statement.
-/

set_option autoImplicit false

namespace TableExport.Run

open TableExport.Text
open TableExport.Connection
open TableExport.Database
open TableExport.Database.Dialogue
open TableExport.Export
open TableExport.Log
open TableExport.Sequence

variable {setting : Setting} {options : Options} {completion : Completion}
  {session after : Session}

def summaryText (rows files : Nat) (output : String) : String :=
  "Exported " ++ Numeral.ofNat rows ++ " rows to " ++ Numeral.ofNat files ++ " files in " ++
    output ++ "\n"

private theorem exportRows_ok {request : Query.Request} {config : Config} {statements : List String}
    {output : String}
    (ran : (exportRows setting options request config statements output completion).run
      session = (.ok (), after)) :
    ∃ summary exported, (Export.perform setting config statements output
        (some options.maxWorkers) options.fetchSize (.text request.exportName)
        completion).run session = (.ok summary, exported) ∧
      after.parts = exported.parts ∧
      after.printed = session.printed ++
        summaryText summary.rows summary.files.length output := by
  rw [exportRows, run_bind_ok_iff] at ran
  obtain ⟨summary, exported, performed, printing⟩ := ran
  have silent := (keeps_printed_performBy _ _ _ _ _ _ _).of_run performed
  rw [Work.print_run] at printing
  cases printing
  refine ⟨summary, exported, performed, rfl, ?_⟩
  rw [← silent]
  rfl

/-- A run that succeeds without being a dry run ends with an export. -/
theorem perform_ok (real : options.dryRun = false)
    (ran : (perform setting options completion).run session = (.ok (), after)) :
    ∃ request admitted config output statements middle,
      (accept setting options).run session = (.ok request, admitted) ∧
      (configure setting options).run admitted = (.ok config, admitted) ∧
      options.output.bind Given.filled? = some output ∧
      (plan setting config request).run admitted = (.ok statements, middle) ∧
      (exportRows setting options request config statements output completion).run middle =
        (.ok (), after) := by
  unfold perform at ran
  rw [run_bind_ok_iff] at ran
  obtain ⟨request, admitted, accepted, later⟩ := ran
  have wet : ¬ (options.dryRun && !request.isSplit) = true := by
    rw [real]
    exact Bool.false_ne_true
  simp only [if_neg wet] at later
  rw [run_bind_ok_iff] at later
  obtain ⟨config, left, configured, later⟩ := later
  obtain ⟨rfl, _⟩ := configure_ok configured
  cases named : options.output.bind Given.filled? with
  | none =>
      have missing : (!options.dryRun && (none : Option String).isNone) = true := by
        rw [real]
        rfl
      simp only [named, if_pos missing] at later
      cases later
  | some output =>
      have present : ¬ (!options.dryRun && (some output).isNone) = true := by
        rw [real]
        exact Bool.false_ne_true
      simp only [named, if_neg present] at later
      rw [run_bind_ok_iff] at later
      obtain ⟨statements, middle, planned, later⟩ := later
      rw [if_neg (by rw [real]; exact Bool.false_ne_true)] at later
      exact ⟨request, _, config, output, statements, middle, accepted, configured, rfl, planned,
        later⟩

private theorem perform_of_codeOk {arguments : List String}
    (read : Options.read setting.environment arguments = .options options)
    (ran : commandLineIn setting arguments completion session = (.code codeOk, after)) :
    (perform setting options completion).run session = (.ok (), after) := by
  unfold commandLineIn at ran
  rw [read] at ran
  dsimp only at ran
  rw [performCoded_run] at ran
  rcases performed : (perform setting options completion).run session with ⟨failure | _, middle⟩
  · rw [performed] at ran
    dsimp only at ran
    rcases coded : (codeFor failure).run middle with ⟨other | code, ended⟩
    · rw [coded] at ran
      cases ran
    · rw [coded] at ran
      cases ran
      exact absurd rfl (codeFor_ok coded).1
  · rw [performed] at ran
    cases ran
    rfl

/-- A run that ends well without being a dry run has answers to all of its statements. Below a
folder on disk, the part file of each holds exactly the rows that were fetched of its answer, and
the count that is printed is that of all of them. -/
theorem commandLineIn_rows {arguments : List String}
    (read : Options.read setting.environment arguments = .options options)
    (real : options.dryRun = false)
    (same : ∀ outcomes, (completion outcomes).Perm outcomes)
    (ran : commandLineIn setting arguments completion session = (.code codeOk, after)) :
    ∃ statements middle output files tables,
      Exports setting options session statements middle ∧
      options.output.bind Given.filled? = some output ∧
      session.files.ensureFolder output = .ok files ∧
      List.Forall₂ (fun sql table => setting.database.reply sql = .ok table)
        statements tables ∧
      (IsOnDisk setting output → ∀ index table, tables[index]? = some table →
        PartHolds setting output files after.parts index
          (fetched options.fetchSize table.rows)) ∧
      after.printed = session.printed ++ summaryText
        (tables.map fun table => (fetched options.fetchSize table.rows).length).sum
        statements.length output := by
  obtain ⟨request, admitted, config, output, statements, middle, accepted, configured, named,
    planned, exporting⟩ := perform_ok real (perform_of_codeOk read ran)
  obtain ⟨summary, exported, performed, parts, printed⟩ := exportRows_ok exporting
  have shows := showsMemory_of_planned accepted planned
  have sameFiles : middle.files = session.files :=
    view_of_planned (fun _ _ => rfl) (fun _ _ => rfl) accepted planned
  have samePrinted : middle.printed = session.printed :=
    view_of_planned (fun _ _ => rfl) (fun _ _ => rfl) accepted planned
  obtain ⟨files, tables, made, replies, rows, written, holds⟩ :=
    Export.perform_ok same shows performed
  rw [sameFiles] at made
  rw [samePrinted, rows, written] at printed
  rw [← parts] at holds
  exact ⟨statements, middle, output, files, tables,
    ⟨real, ⟨output, files, named, made⟩, request, admitted, config, accepted, configured, planned⟩,
    named, made, replies, holds, printed⟩

/-- Three rows are fetched in batches of two, and all of them are written. -/
theorem commandLineIn_rows_in_two_batches :
    ∃ setting arguments after files count,
      commandLineIn setting arguments List.reverse .empty = (.code codeOk, after) ∧ 0 < count ∧
      ∀ index, index < count → PartHolds setting "out" files after.parts index
        [[.integer 1], [.integer 2], [.boolean true]] := by
  have ran : commandLineIn
      (.timeless { Behaviour.silent with
        defaultReply := some (.table ⟨["id"], [[.integer 1], [.integer 2], [.boolean true]]⟩) })
      ["--connectionUrl", "sqlite:///src.db", "--table", "t", "--output", "out",
        "--fetchSize", "2"] List.reverse .empty =
      (.code codeOk, { Session.empty with
        files := Files.Tree.empty.put ["out"] .folder
        openings := [⟨.file (some "/src.db"), [.execute "SELECT * FROM t WHERE 1=1",
          .fetchMany (.value 2), .fetchMany (.value 2), .fetchMany (.value 2), .closeCursor,
          .closeConnection]⟩]
        parts := [⟨["out", "part-0000.parquet"],
          ⟨["id"], [.integer], [[.integer 1], [.integer 2], [.integer 1]]⟩⟩]
        printed := summaryText 3 1 "out" }) := by
    decide +kernel
  have read : Options.read []
      ["--connectionUrl", "sqlite:///src.db", "--table", "t", "--output", "out",
        "--fetchSize", "2"] =
      .options { Options.defaults with
        connectionUrl := some (.value "sqlite:///src.db")
        table := some (.value "t")
        output := some (.value "out")
        fetchSize := .value 2 } := by
    decide +kernel
  obtain ⟨statements, _, output, files, tables, _, named, _, replies, holds, printed⟩ :=
    commandLineIn_rows read rfl List.reverse_perm ran
  cases named
  obtain ⟨sameLength, each⟩ := List.forall₂_iff_get.mp replies
  refine ⟨_, _, _, files, tables.length, ran, ?_, fun index inside => ?_⟩
  · refine List.length_pos_iff.mpr ?_
    rintro rfl
    rw [sameLength] at printed
    exact absurd printed (by decide)
  · have answered := each index (by omega) inside
    have table : (⟨["id"], [[.integer 1], [.integer 2], [.boolean true]]⟩ : Table) =
      tables[index] := Except.ok.inj answered
    have written := holds (by decide +kernel) index _ (List.getElem?_eq_getElem inside)
    rw [← table] at written
    exact written

/-- With batches of size zero a run ends well, but the row that a statement selects is neither
written nor counted. -/
theorem commandLineIn_loses_row :
    ∃ setting arguments sql after part,
      commandLineIn setting arguments id .empty = (.code codeOk, after) ∧
      .execute sql ∈ after.openings.flatMap Opening.calls ∧
      setting.database.reply sql = .ok ⟨["id"], [[.integer 1]]⟩ ∧
      after.parts = [part] ∧ ¬ part.frame.Holds [[.integer 1]] ∧
      after.printed = summaryText 0 1 "out" := by
  have ran : commandLineIn
      (.timeless { Behaviour.silent with
        defaultReply := some (.table ⟨["id"], [[.integer 1]]⟩) })
      ["--connectionUrl", "sqlite:///src.db", "--table", "t", "--output", "out",
        "--fetchSize", "0"] id .empty =
      (.code codeOk, { Session.empty with
        files := Files.Tree.empty.put ["out"] .folder
        openings := [⟨.file (some "/src.db"), [.execute "SELECT * FROM t WHERE 1=1",
          .fetchMany (.value 0), .closeCursor, .closeConnection]⟩]
        parts := [⟨["out", "part-0000.parquet"], ⟨["id"], [.null], []⟩⟩]
        printed := summaryText 0 1 "out" }) := by
    decide +kernel
  refine ⟨_, _, "SELECT * FROM t WHERE 1=1", _, _, ran, by decide, rfl, rfl, ?_, rfl⟩
  intro holds
  cases holds.length_eq

end TableExport.Run
