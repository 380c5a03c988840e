import TableExport.Proofs.Admission.Acceptance
import TableExport.Proofs.Admission.TableName
import TableExport.Proofs.Export.Levels
import TableExport.Proofs.Export.Rows
import TableExport.Proofs.Run.Agreement

/-!
Whole runs under two journals. Telling the journal is all that a run does with
it, so the level it is kept from and the memory it reads change nothing of what
the run comes to; and the higher level keeps exactly the records of the lower
one that it is open to, up to the memory reading.
-/

set_option autoImplicit false

namespace TableExport.Run

open TableExport.Text
open TableExport.Query
open TableExport.Connection
open TableExport.Database
open TableExport.Export
open TableExport.Log
open TableExport.Number
open TableExport.Sequence

private theorem isMeasure_of_isTableName {text : String} (valid : isTableName text = true) :
    IsMeasure text := by
  intro character member
  rcases (isTableName_iff.mp valid).characters character member with identifies | rfl
  · exact measure_of_belongs isNameCharacter (by decide) (isNameCharacter_iff.mpr identifies)
  · exact measure_of_ne (by decide)

theorem isMeasure_exportName {options : Options} {files : Files.Tree} {now : Calendar.Instant}
    {request : Request} (accepted : admitted options files now = .ok request) :
    IsMeasure request.exportName := by
  have sourceMet : Condition.source.Met options files now :=
    Condition.decides_admitted.met request accepted .source (by decide)
  have carries := Condition.carries_of_admitted accepted
  have named (name : String) (table : request.tableName = some name) : IsMeasure name := by
    rw [(Condition.carries_of_admitted accepted).tableName, Option.bind_eq_some_iff] at table
    obtain ⟨given, given_table, valued⟩ := table
    obtain ⟨other, rfl, valid⟩ := sourceMet.2 given given_table
    cases valued
    exact isMeasure_of_isTableName valid
  have sql : IsMeasure "sql" := isMeasure_of_all (by decide)
  unfold Request.exportName
  split
  · rename_i name table
    split
    · split
      · exact isMeasure_of_isTableName (TableName.valid _)
      · exact sql
    · exact named name table
  · exact isMeasure_of_isTableName (TableName.valid _)
  · exact sql

section Running

variable {keeping : Keeping} {setting : Setting} {options : Options} {completion : Completion}
  {left right middle : Session} {handover : Handover}

private theorem agree_configure_parallel (progress : Option Progress) :
    Agree (SameButJournals keeping progress) Eq (configure setting options)
      (configure setting options) := by
  refine agree_get.bind fun one other related => ?_
  rw [related.files]
  exact (agree_ofExcept_same _).bind_same fun password => agree_ofExcept_same _

theorem Reaches.parallel (reaches : Reaches setting options left handover middle)
    (related : SameButJournals keeping none left right) :
    ∃ middleToo, Reaches setting options right handover middleToo ∧
      SameButJournals keeping none middle middleToo := by
  have keeps : KeepsTelling (Journal.Parallel keeping none) :=
    keepsTelling_parallel isShown_none
  obtain ⟨admitted, accepted, configured, planned⟩ := reaches.built
  obtain ⟨_, admittedToo, acceptedToo, rfl, relatedNow⟩ :=
    (agree_accept keeps setting options).of_run_ok related accepted
  obtain ⟨_, configuredIn, configuredToo, rfl, _⟩ :=
    (agree_configure_parallel none).of_run_ok relatedNow configured
  obtain ⟨rfl, _⟩ := configure_ok configuredToo
  obtain ⟨_, middleToo, plannedToo, rfl, relatedThen⟩ :=
    (agree_plan keeps setting handover.config.alike_refl handover.request).of_run_ok relatedNow
      planned
  exact ⟨middleToo,
    ⟨reaches.real, reaches.named, _, acceptedToo, configuredToo, plannedToo⟩, relatedThen⟩

/-- What is handed over comes from options that are admitted, and its statements are counted. -/
theorem Reaches.sound (reaches : Reaches setting options left handover middle) :
    IsMeasure handover.request.exportName ∧ Numeral.IsWritable handover.statements.length := by
  obtain ⟨admitted, accepted, _, planned⟩ := reaches.built
  simp only [accept, run_bind_ok_iff, run_ofExcept_ok_iff] at accepted
  obtain ⟨_, _, ran, _, _, ⟨made, _⟩, _, _, _, _, _, _, same⟩ := accepted
  cases same
  exact ⟨isMeasure_exportName made, isWritable_of_plan planned⟩

private theorem agree_exportHanded_parallel (named : IsMeasure handover.request.exportName)
    (writable : Numeral.IsWritable handover.statements.length)
    (same : ∀ outcomes, (completion outcomes).Perm outcomes)
    (held : (handover.statements.map (rowsOf setting.database)).sum < Binary64.firstUnheld) :
    Agree (SameButJournals keeping none) Eq (exportHanded setting options completion handover)
      (exportHanded setting options completion handover) := by
  have numbered (number index : Nat) (sql : String) := outcomeOf_index setting.database
    handover.config number index sql options.fetchSize
  have few (files : Files.Tree) (opened : Nat) := Nat.lt_of_le_of_lt
    (totalRows_placedOutcomes_le setting handover.config handover.statements handover.output
      options.fetchSize files opened) held
  exact (agree_performBy_parallel named writable numbered same few _).bind_same fun summary =>
    Work.agree_print _

def CountsRows (setting : Setting) (options : Options) (session : Session) : Prop :=
  ∀ handover middle, HandsOver setting options session handover middle →
    (handover.statements.map (rowsOf setting.database)).sum < Binary64.firstUnheld

theorem lead_perform_parallel (same : ∀ outcomes, (completion outcomes).Perm outcomes) :
    Lead
      (fun left right => CountsRows setting options left ∧ SameButJournals keeping none left right)
      (SameButJournals keeping none) Eq (perform setting options completion)
      (perform setting options completion) := by
  rintro left right ⟨counts, related⟩
  have open_ended (work : Work Unit)
      (alike : Agree (SameButJournals keeping none) Eq work work) :
      Agree (SameButJournals keeping none) Eq (performWith setting options fun _ => work)
        (performWith setting options fun _ => work) := by
    refine agree_performWith (keepsTelling_parallel isShown_none) setting rfl rfl rfl ?_
      fun _ _ _ => alike
    intro one other relatedToo
    obtain ⟨configured, kept⟩ := agree_configure_parallel none one other relatedToo
    exact ⟨configured.imp fun config _ equal => equal ▸ config.alike_refl, kept⟩
  have succeeds := open_ended (pure ()) (agree_pure rfl) left right related
  have fails := open_ended (throw .struckCount) (agree_throw _) left right related
  rw [perform_eq]
  rcases reaches_or_independent setting options left with
    ⟨handover, middle, reaches⟩ | independent
  · obtain ⟨middleToo, reachesToo, relatedNow⟩ := reaches.parallel related
    obtain ⟨named, writable⟩ := reaches.sound
    rw [reaches.handsOver, reachesToo.handsOver]
    exact agree_exportHanded_parallel named writable same
      (counts handover middle reaches.handsOver) middle middleToo relatedNow
  · rcases reaches_or_independent setting options right with
      ⟨handover, middle, reaches⟩ | independentToo
    · -- the exports that only succeed and only fail would come to the same
      rw [reaches.handsOver] at succeeds fails
      rw [independent _ fun _ => throw .struckCount] at succeeds
      cases succeeds.1.eq.symm.trans fails.1.eq
    · rw [independent _ fun _ => pure (), independentToo _ fun _ => pure ()]
      exact succeeds

end Running

def loggedFrom (threshold : Nat) (memory : Option Int) (session : Session) : Session :=
  { session with journal := ⟨threshold, memory, none, []⟩ }

/-- Runs that end in the same way and leave the same behind, but for their records; the second
has those records of the first that its higher level keeps. -/
structure SameButRecords (threshold : Nat) (reading readingToo : String)
    (low high : Ending × Session) : Prop where
  ending : low.1 = high.1
  printed : low.2.printed = high.2.printed
  openings : low.2.openings = high.2.openings
  parts : low.2.parts = high.2.parts
  files : low.2.files = high.2.files
  records : SameFrom threshold reading readingToo low.2.journal.records high.2.journal.records

private theorem openings_eq_of_alike {left right : List Opening}
    (alike : List.Forall₂ (Opening.Alike Eq) left right) : left = right := by
  induction alike with
  | nil => rfl
  | @cons one other _ _ same _ inductionHypothesis =>
      obtain ⟨target, calls⟩ := one
      obtain ⟨rfl, rfl⟩ := same
      rw [inductionHypothesis]

private theorem sameButRecords_of_alike {keeping : Keeping}
    {first second : Except Failure Nat × Session}
    (same : AlikeOutcomes Eq first.1 second.1)
    (related : SameButJournals keeping none first.2 second.2) :
    SameButRecords keeping.high keeping.lowReading keeping.highReading
      (endingOf first.1, first.2) (endingOf second.1, second.2) :=
  ⟨congrArg endingOf same.eq, related.printed, openings_eq_of_alike related.openings,
    related.parts, related.files, related.journal.records⟩

/-- The level of the journal and its readings of the memory change nothing of what a command
line comes to. The records that are kept from the higher level on are those of the lower one
that reach it, up to the reading. -/
theorem commandLineIn_ignores_logging (setting : Setting) (arguments : List String)
    (session : Session) {completion : Completion}
    (same : ∀ outcomes, (completion outcomes).Perm outcomes) {low high : Nat}
    (ordered : low ≤ high) {memory memoryToo : Option Int}
    (held : ∀ bytes, memory = some bytes → bytes.natAbs < Binary64.firstUnheld)
    (heldToo : ∀ bytes, memoryToo = some bytes → bytes.natAbs < Binary64.firstUnheld)
    (counts : ∀ options, Options.read setting.environment arguments = .options options →
      CountsRows setting options (loggedFrom low memory session)) :
    ∃ reading readingToo, memoryText memory = .ok reading ∧ memoryText memoryToo = .ok readingToo ∧
      SameButRecords high reading readingToo
        (commandLineIn setting arguments completion (loggedFrom low memory session))
        (commandLineIn setting arguments completion (loggedFrom high memoryToo session)) := by
  obtain ⟨reading, read⟩ := memoryText_isOk held
  obtain ⟨readingToo, readToo⟩ := memoryText_isOk heldToo
  let keeping : Keeping :=
    ⟨low, high, ordered, memory, memoryToo, reading, readingToo, read, readToo⟩
  have keeps : KeepsTelling (Journal.Parallel keeping none) :=
    keepsTelling_parallel isShown_none
  have started : SameButJournals keeping none (loggedFrom low memory session)
      (loggedFrom high memoryToo session) :=
    ⟨⟨rfl, rfl, rfl, rfl, .nil⟩, rfl, List.forall₂_same.mpr fun _ _ => ⟨rfl, rfl⟩, rfl, rfl⟩
  refine ⟨reading, readingToo, read, readToo, ?_⟩
  unfold commandLineIn
  cases reads : Options.read setting.environment arguments with
  | exit exit =>
      exact ⟨rfl, rfl, rfl, rfl, rfl, started.journal.records⟩
  | failure failure =>
      obtain ⟨coded, ended⟩ := agree_codeFor keeps failure _ _ started
      exact sameButRecords_of_alike coded ended
  | options options =>
      obtain ⟨coded, ended⟩ := lead_performCoded keeps setting (lead_perform_parallel same) _ _
        ⟨counts options reads, started⟩
      exact sameButRecords_of_alike coded ended

/-- A split export leaves four records for debugging that a higher level does not keep. -/
theorem commandLineIn_ignores_logging_split :
    ∃ setting arguments low high,
      commandLineIn setting arguments List.reverse (loggedFrom 10 (some 104857600) .empty) = low ∧
      commandLineIn setting arguments List.reverse (loggedFrom 20 none .empty) = high ∧
      SameButRecords 20 "100.0MB" "Unknown" low high ∧ low.1 = .code codeOk ∧
      low.2.journal.records.length = 11 ∧ high.2.journal.records.length = 7 := by
  let setting : Setting := .timeless { Behaviour.silent with
    row := some [.integer 1, .integer 10]
    defaultReply := some (.table ⟨["x"], [[.integer 6], [.integer 7]]⟩) }
  let arguments := ["--connectionUrl", "sqlite:///db", "--table", "t", "--splitColumn", "x",
    "--queryParallelism", "2", "--output", "out"]
  let options := splitOptions "sqlite:///db"
  have read : Options.read setting.environment arguments = .options options := by decide +kernel
  let session := loggedFrom 10 (some 104857600) .empty
  let admitted := ((accept setting options).run session).2
  let middle := ((plan setting splitHandover.config splitHandover.request).run admitted).2
  have reaches : Reaches setting options session splitHandover middle :=
    ⟨rfl, by decide, admitted, run_of_outcome (by decide +kernel),
      run_of_toOption (by decide +kernel), run_of_outcome (by decide +kernel)⟩
  have counts : CountsRows setting options (loggedFrom 10 (some 104857600) .empty) := by
    intro handover middle handsOver
    obtain ⟨rfl, _⟩ := reaches.unique handsOver.reaches
    exact Nat.lt_trans (by decide : 4 < Nat.pow 2 3)
      (Binary64.twoPow_lt_firstUnheld (by decide))
  have held (bytes : Int) (reads : some (104857600 : Int) = some bytes) :
      bytes.natAbs < Binary64.firstUnheld := by
    cases reads
    exact Nat.lt_trans (by decide : 104857600 < Nat.pow 2 27)
      (Binary64.twoPow_lt_firstUnheld (by decide))
  have heldToo (bytes : Int) (reads : none = some bytes) :
      bytes.natAbs < Binary64.firstUnheld := by
    cases reads
  obtain ⟨reading, readingToo, shown, shownToo, same⟩ := commandLineIn_ignores_logging setting
    arguments .empty List.reverse_perm (by decide : 10 ≤ 20) held heldToo
    (fun other found => Options.Reading.options.inj (read.symm.trans found) ▸ counts)
  have shownHere : memoryText (some 104857600) = .ok "100.0MB" :=
    ok_of_toOption (by decide +kernel)
  cases shownHere.symm.trans shown
  cases shownToo
  exact ⟨setting, arguments, _, _, rfl, rfl, same, by decide +kernel⟩

end TableExport.Run
