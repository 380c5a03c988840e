import TableExport.Proofs.Export.Openings
import TableExport.Proofs.Export.Order
import TableExport.Proofs.Export.Places
import TableExport.Proofs.Log.Tracking

/-!
What an export comes to, in whatever order its workers complete. The outcomes
and the time decide the result: a summary when no statement failed, otherwise the
failure with the least number. Collecting one more outcome moves the progress on
by one statement and its rows, so at the end the progress accounts for all of
them. The last message shows the rows per second; where they have no finite rate,
the export fails with that message, although its files are written.
-/

set_option autoImplicit false

namespace TableExport.Export

open TableExport.Text
open TableExport.Connection
open TableExport.Database
open TableExport.Files
open TableExport.Log
open TableExport.Number
open TableExport.Sequence

def conclusion (setting : Setting) (folder : List String) (outcomes : List Outcome) :
    Except Failure Summary :=
  match firstFailure? (failures outcomes) with
  | some (index, reason) =>
      .error (.database
        (.exportFailed (failures outcomes).length outcomes.length index reason))
  | none =>
      match throughput (.integer (outcomes.map Outcome.rowCount).sum) (.real setting.totalTime) with
      | .error fault => .error (.cell fault)
      | .ok _ =>
          .ok
            { queries := outcomes.length
              rows := (outcomes.map Outcome.rowCount).sum
              files := partPaths folder outcomes.length
              duration := setting.totalTime }

/-! ### Collecting -/

section Collecting

variable {name : String} {total completed failed rows : Nat} {collected : List Outcome}

/-- One more outcome is one more statement completed or failed, with its rows. -/
theorem tell_outcome {journal : Journal} {outcome : Outcome}
    (tracks : journal.Tracks (.counted name total completed failed rows)) (duration : Binary64)
    (totalWritable : Numeral.IsWritable total) (indexWritable : Numeral.IsWritable outcome.index)
    (within : completed < total) (held : rows + outcome.rowCount < Binary64.firstUnheld) :
    ∃ told, journal.tell (outcome.event duration) = (.ok (), told) ∧
      told.Tracks (.counted name total (completed + (1 - (failures [outcome]).length))
        (failed + (failures [outcome]).length) (rows + outcome.rowCount)) := by
  rw [failures_cons, Outcome.event, Outcome.rowCount]
  cases fetched : outcome.rows with
  | ok frame =>
      rw [Outcome.rowCount, fetched] at held
      exact tell_queryCompleted tracks duration totalWritable indexWritable within held
  | error failure =>
      rw [Outcome.rowCount, fetched] at held
      exact tell_queryFailed tracks failure.message totalWritable indexWritable
        (Nat.le_of_lt within) held

private theorem failures_length_cons (outcome : Outcome) (rest : List Outcome) :
    (failures (outcome :: rest)).length =
      (failures [outcome]).length + (failures rest).length := by
  rw [failures_cons, failures_cons]
  cases outcome.rows with
  | ok frame => exact (Nat.zero_add _).symm
  | error failure => exact Nat.add_comm _ _

theorem collect_run (duration : Binary64) (session : Session)
    (tracks : session.journal.Tracks (.counted name total completed failed rows))
    (totalWritable : Numeral.IsWritable total)
    (indicesWritable : ∀ outcome ∈ collected, Numeral.IsWritable outcome.index)
    (within : completed + collected.length ≤ total)
    (held : rows + totalRows collected < Binary64.firstUnheld) :
    ∃ journal, (collect duration collected).run session =
        (.ok (), { session with journal := journal }) ∧
      journal.Tracks (.counted name total
        (completed + (collected.length - (failures collected).length))
        (failed + (failures collected).length) (rows + totalRows collected)) := by
  induction collected generalizing session completed failed rows with
  | nil => exact ⟨session.journal, rfl, tracks⟩
  | cons outcome rest inductionHypothesis =>
      obtain ⟨indexWritable, restWritable⟩ := List.forall_mem_cons.mp indicesWritable
      rw [List.length_cons] at within
      rw [totalRows] at held
      obtain ⟨told, done, tracksNow⟩ := tell_outcome tracks duration totalWritable indexWritable
        (by omega) (by omega)
      have atMostOne : (failures [outcome]).length ≤ 1 := failures_length_le [outcome]
      have fewer : (failures rest).length ≤ rest.length := failures_length_le rest
      obtain ⟨journal, ran, tracksAll⟩ := inductionHypothesis
        { session with journal := told } tracksNow restWritable (by omega) (by omega)
      refine ⟨journal, ?_, ?_⟩
      · simp only [collect, run_bind, Work.tell_run, done, mapError_ok]
        exact ran
      · rw [failures_length_cons, List.length_cons, totalRows]
        have completedAll : completed + (1 - (failures [outcome]).length) +
            (rest.length - (failures rest).length) =
              completed + (rest.length + 1 -
                ((failures [outcome]).length + (failures rest).length)) := by omega
        rw [completedAll, Nat.add_assoc, Nat.add_assoc] at tracksAll
        exact tracksAll

end Collecting

/-! ### Concluding -/

section Concluding

variable {setting : Setting} {outcomes collected : List Outcome}

theorem conclude_run {name : String} {total completed failed : Nat} (folder : List String)
    (session : Session)
    (same : collected.Perm outcomes)
    (numbered : outcomes.map Outcome.index = List.range outcomes.length)
    (tracks : session.journal.Tracks
      (.counted name total completed failed (totalRows collected)))
    (totalWritable : Numeral.IsWritable total) (within : completed ≤ total)
    (held : totalRows collected < Binary64.firstUnheld) :
    ∃ journal, (conclude folder setting.totalTime collected).run session =
        (conclusion setting folder outcomes, { session with journal := journal }) ∧
      journal.Tracks (.counted name total completed failed (totalRows collected)) := by
  -- no two failures have one number, so the least of them is found in every order
  have distinct : (outcomes.map Outcome.index).Nodup := by
    rw [numbered]
    exact List.nodup_range
  have sameFailures : (failures collected).Perm (failures outcomes) := failures_perm same
  have first := firstFailure?_perm (failures_indices_nodup distinct) sameFailures
  have sum : totalRows collected = (outcomes.map Outcome.rowCount).sum :=
    (totalRows_perm same).trans (totalRows_eq_sum outcomes)
  unfold conclude conclusion
  dsimp only
  rw [first, sameFailures.length_eq, same.length_eq]
  rcases found : firstFailure? (failures outcomes) with _ | ⟨index, reason⟩
  · have noFailure : failures collected = [] := by
      rw [found] at first
      exact firstFailure?_eq_none first
    have all : succeeded collected = List.range outcomes.length :=
      succeeded_eq_range noFailure (numbered ▸ same.map Outcome.index)
    dsimp only
    rw [← sum]
    by_cases has : Binary64.HasRate (totalRows collected) setting.totalTime
    · obtain ⟨rate, counted, _⟩ := throughput_of_hasRate has
      obtain ⟨told, done, stays⟩ := tell_exportCompleted tracks totalWritable within held has
      refine ⟨told, ?_, stays⟩
      rw [counted, run_bind, Work.tell_run, done, all]
      rfl
    · obtain ⟨fault, uncounted⟩ := throughput_of_not_hasRate has
      have untold := tell_exportCompleted_of_uncounted session.journal uncounted
      refine ⟨session.journal, ?_, tracks⟩
      rw [uncounted, run_bind, Work.tell_run, untold]
      rfl
  · obtain ⟨told, done, stays⟩ := tell_exportFailed tracks
      (DatabaseCause.exportFailed (failures outcomes).length outcomes.length index reason).message
      totalWritable within held
    refine ⟨told, ?_, stays⟩
    simp only [run_bind, Work.tell_run, done, mapError_ok]
    rfl

end Concluding

/-! ### The whole export -/

section Settling

variable {setting : Setting} {outcomes : List Outcome} {name : String}

/-- Every outcome is kept, then all are collected and the export ends with its result. -/
theorem settle_run (folder : List String) (session : Session) {completion : Completion}
    (same : (completion outcomes).Perm outcomes)
    (numbered : outcomes.map Outcome.index = List.range outcomes.length)
    (tracks : session.journal.Tracks (.counted name outcomes.length 0 0 0))
    (writable : Numeral.IsWritable outcomes.length)
    (held : (outcomes.map Outcome.rowCount).sum < Binary64.firstUnheld) :
    ∃ journal, (settle setting folder outcomes completion).run session =
        (conclusion setting folder outcomes, sessionKeeping outcomes session journal) ∧
      journal.Tracks (.counted name outcomes.length
        (outcomes.length - (failures outcomes).length) (failures outcomes).length
        (outcomes.map Outcome.rowCount).sum) := by
  obtain ⟨kept, ran, setup, progress⟩ :=
    forM_keepOutcome_run outcomes session tracks.showsMemory
  have keptTracks : kept.Tracks (.counted name outcomes.length 0 0 0) := by
    refine ⟨?_, progress.trans tracks.progress⟩
    rw [(Prod.mk.inj setup).2]
    exact tracks.memory
  have rows : totalRows (completion outcomes) = (outcomes.map Outcome.rowCount).sum :=
    (totalRows_perm same).trans (totalRows_eq_sum outcomes)
  have failed : (failures (completion outcomes)).length = (failures outcomes).length :=
    (failures_perm same).length_eq
  have indicesWritable : ∀ outcome ∈ completion outcomes, Numeral.IsWritable outcome.index := by
    intro outcome member
    have listed : outcome.index ∈ outcomes.map Outcome.index :=
      List.mem_map_of_mem (same.mem_iff.mp member)
    rw [numbered, List.mem_range] at listed
    unfold Numeral.IsWritable at *
    omega
  rw [← rows] at held ⊢
  have rowsHeld : 0 + totalRows (completion outcomes) < Binary64.firstUnheld := by
    rw [Nat.zero_add]
    exact held
  obtain ⟨collected, ranCollect, collectedTracks⟩ := collect_run setting.queryTime
    (sessionKeeping outcomes session kept) keptTracks writable indicesWritable
    (by rw [same.length_eq, Nat.zero_add]) rowsHeld
  rw [Nat.zero_add, Nat.zero_add, Nat.zero_add, same.length_eq, failed] at collectedTracks
  obtain ⟨journal, ranConclude, journalTracks⟩ := conclude_run folder
    (sessionKeeping outcomes session collected) same numbered collectedTracks writable
    (Nat.sub_le _ _) held
  refine ⟨journal, ?_, journalTracks⟩
  rw [settle, run_bind, ran]
  dsimp only
  rw [run_bind, ranCollect]
  exact ranConclude

end Settling

def SettlesTo (setting : Setting) (output : String) (outcomes : List Outcome) :
    Except Failure Summary → Prop
  | .ok summary =>
      failures outcomes = [] ∧
      summary.queries = outcomes.length ∧
      summary.rows = (outcomes.map Outcome.rowCount).sum ∧
      summary.files = partPaths (normalSteps output) outcomes.length ∧
      summary.files.Nodup ∧
      summary.duration = setting.totalTime
  | .error failure =>
      ∃ cause index reason, failure = .database cause ∧
        cause.message = Numeral.ofNat (failures outcomes).length ++ "/" ++
          Numeral.ofNat outcomes.length ++ " queries failed, first: query " ++
          Numeral.ofNat index ++ ": " ++ reason ∧
        (index, reason) ∈ failures outcomes ∧
        ∀ other ∈ failures outcomes, index ≤ other.1

private theorem conclusion_settlesTo {setting : Setting} {outcomes : List Outcome} (output : String)
    (told : failures outcomes = [] →
      Binary64.HasRate (outcomes.map Outcome.rowCount).sum setting.totalTime) :
    SettlesTo setting output outcomes (conclusion setting (normalSteps output) outcomes) := by
  unfold conclusion
  rcases found : firstFailure? (failures outcomes) with _ | ⟨index, reason⟩
  · have noFailure := firstFailure?_eq_none found
    obtain ⟨rate, counted, _⟩ := throughput_of_hasRate (told noFailure)
    dsimp only
    rw [counted]
    exact ⟨noFailure, rfl, rfl, rfl, partPaths_nodup _ _, rfl⟩
  · obtain ⟨member, least⟩ := firstFailure?_least found
    exact ⟨_, index, reason, rfl, rfl, member, least⟩

private theorem conclusion_of_not_hasRate {setting : Setting} {outcomes : List Outcome}
    (folder : List String) (noFailure : failures outcomes = [])
    (without : ¬ Binary64.HasRate (outcomes.map Outcome.rowCount).sum setting.totalTime) :
    ∃ fault, conclusion setting folder outcomes = .error (.cell (.number (.binary fault))) := by
  obtain ⟨fault, uncounted⟩ := throughput_of_not_hasRate without
  refine ⟨fault, ?_⟩
  unfold conclusion
  rw [noFailure, uncounted]
  rfl

structure Accomplished (setting : Setting) (output name : String) (files : Files.Tree)
    (outcomes : List Outcome) (session before : Session) : Prop where
  attempted : before.openings =
    session.openings ++ outcomes.flatMap fun outcome => outcome.opening.toList
  kept : before.parts = partsKept outcomes session.parts
  counted : ∃ completed,
    completed + (failures outcomes).length = outcomes.length ∧
      before.journal.progress = some (.counted name outcomes.length completed
        (failures outcomes).length (outcomes.map Outcome.rowCount).sum)
  written : ∀ outcome ∈ outcomes, ∀ frame, outcome.rows = .ok frame →
    files.placeFor setting.home? (childText (normalSteps output) (partFileName outcome.index)) =
        .ok outcome.place ∧
      (IsOnDisk setting output →
        ∃ steps, outcome.place = some steps ∧ HasPart before.parts steps frame.stored)

section Performing

variable {trial : Trial} {setting : Setting} {statements : List String} {output : String}
  {session : Session} {files : Files.Tree}

private theorem accomplished_of_kept {name : String}
    (numbered : ∀ number index sql, (trial number index sql).index = index)
    {outcomes : List Outcome}
    (tried : placedOutcomes trial setting statements output files session.openings.length =
      outcomes)
    {journal : Journal}
    (tracks : journal.Tracks (.counted name outcomes.length
      (outcomes.length - (failures outcomes).length) (failures outcomes).length
      (outcomes.map Outcome.rowCount).sum)) :
    Accomplished setting output name files outcomes session
      (sessionKeeping outcomes { session with files := files } journal) := by
  subst tried
  refine ⟨rfl, rfl, ⟨_, Nat.sub_add_cancel (failures_length_le _), tracks.progress⟩, ?_⟩
  intro outcome member frame rows
  refine ⟨(placedOutcomes_written member rows).1, fun onDisk => ?_⟩
  exact placedOutcomes_hasPart numbered onDisk session.parts member rows

theorem performBy_concludes (workers : Int) (name : String) {outcomes : List Outcome}
    (tried : placedOutcomes trial setting statements output files session.openings.length =
      outcomes)
    (numbered : ∀ number index sql, (trial number index sql).index = index)
    (made : session.files.ensureFolder output = .ok files)
    (memory : ∀ bytes, session.journal.memory = some bytes →
      bytes.natAbs < Binary64.firstUnheld)
    (writable : Numeral.IsWritable statements.length)
    (held : (outcomes.map Outcome.rowCount).sum < Binary64.firstUnheld)
    (completion : Completion) (same : (completion outcomes).Perm outcomes) :
    ∃ started before,
      (Work.tell (startEvent (.text name) statements workers)).run
          { session with files := files } = (.ok (), started) ∧
      (settle setting (normalSteps output) outcomes completion).run started =
          (conclusion setting (normalSteps output) outcomes, before) ∧
      Accomplished setting output name files outcomes session before ∧
      (performBy trial setting statements output (some (.value workers)) (.text name)
        completion).run session =
          (conclusion setting (normalSteps output) outcomes, { before with
            journal := { before.journal with progress := none } }) := by
  have indices : outcomes.map Outcome.index = List.range statements.length := by
    rw [← tried, placedOutcomes_indices numbered]
  have count : outcomes.length = statements.length := by
    rw [← tried, placedOutcomes_length numbered]
  rw [← count] at indices writable
  have shows : session.journal.ShowsMemory := fun _ => memoryText_isOk memory
  obtain ⟨told, started, setup, progress⟩ := tell_exportStarted shows name writable
    (isWritable_workerCount workers writable)
  have tracks : told.Tracks (.counted name outcomes.length 0 0 0) := by
    refine ⟨?_, progress⟩
    rw [(Prod.mk.inj setup).2]
    exact memory
  obtain ⟨journal, settled, journalTracks⟩ := settle_run (normalSteps output)
    { session with journal := told, files := files } same indices tracks writable held
  have telling : (Work.tell (startEvent (.text name) statements workers)).run
      { session with files := files } =
        (.ok (), { session with journal := told, files := files }) := by
    rw [Work.tell_run, startEvent, ← count]
    simp only [started, mapError_ok]
  refine ⟨_, _, telling, settled, accomplished_of_kept numbered tried journalTracks, ?_⟩
  rw [performBy_run made rfl, tried, run_bind, telling]
  exact clearingProgress_run settled

/-- Whatever the order in which workers complete, an export comes to the same result and has
done the same: every statement is tried once, every success is written, and the progress
accounts for all statements until it is cleared. The result is that of the outcomes, unless none
of them failed and the rows have no rate to be told. -/
theorem performBy_settles (workers : Int) (name : String) {outcomes : List Outcome}
    (tried : placedOutcomes trial setting statements output files session.openings.length =
      outcomes)
    (numbered : ∀ number index sql, (trial number index sql).index = index)
    (made : session.files.ensureFolder output = .ok files)
    (memory : ∀ bytes, session.journal.memory = some bytes →
      bytes.natAbs < Binary64.firstUnheld)
    (writable : Numeral.IsWritable statements.length)
    (held : (outcomes.map Outcome.rowCount).sum < Binary64.firstUnheld) :
    outcomes.map Outcome.index = List.range statements.length ∧
      ∃ result,
        ((failures outcomes ≠ [] ∨
            Binary64.HasRate (outcomes.map Outcome.rowCount).sum setting.totalTime) →
          SettlesTo setting output outcomes result) ∧
        (failures outcomes = [] →
          ¬ Binary64.HasRate (outcomes.map Outcome.rowCount).sum setting.totalTime →
          ∃ fault, result = .error (.cell (.number (.binary fault)))) ∧
        ∀ completion : Completion, (completion outcomes).Perm outcomes →
          ∃ started before,
            (Work.tell (startEvent (.text name) statements workers)).run
                { session with files := files } = (.ok (), started) ∧
            (settle setting (normalSteps output) outcomes completion).run started =
                (result, before) ∧
            Accomplished setting output name files outcomes session before ∧
            (performBy trial setting statements output (some (.value workers)) (.text name)
              completion).run session =
                (result, { before with
                  journal := { before.journal with progress := none } }) := by
  refine ⟨?_, conclusion setting (normalSteps output) outcomes, ?_, ?_, ?_⟩
  · rw [← tried, placedOutcomes_indices numbered]
  · intro told
    exact conclusion_settlesTo output fun noFailure => told.resolve_left (absurd noFailure)
  · intro noFailure without
    exact conclusion_of_not_hasRate _ noFailure without
  · intro completion same
    exact performBy_concludes workers name tried numbered made memory writable held completion same

/-- The first of two statements is refused, and the second completes before it. -/
theorem performBy_settles_reversed :
    ∃ outcomes result started before,
      (failures outcomes).map Prod.fst = [0] ∧
      SettlesTo (.timeless .silent) "out" outcomes result ∧
      (settle (.timeless .silent) ["out"] outcomes List.reverse).run started =
        (result, before) ∧
      Accomplished (.timeless .silent) "out" "t" (Files.Tree.empty.put ["out"] .folder) outcomes
        .empty before ∧
      (performBy
        (fun number index sql => outcomeOf
          { Behaviour.silent with
            replies := [("SELECT 1", .refusal "gone")]
            defaultReply := some (.table ⟨["x"], [[.integer 6]]⟩) }
          ⟨"sqlite", none, none, none, none, some "db", none⟩ number index sql (.value 10))
        (.timeless .silent) ["SELECT 1", "SELECT 2"] "out" (some (.value 2)) (.text "t")
        List.reverse).run .empty =
          (result, { before with journal := { before.journal with progress := none } }) := by
  have numbered (number index : Nat) (sql : String) := outcomeOf_index
    { Behaviour.silent with
      replies := [("SELECT 1", .refusal "gone")]
      defaultReply := some (.table ⟨["x"], [[.integer 6]]⟩) }
    ⟨"sqlite", none, none, none, none, some "db", none⟩ number index sql (.value 10)
  have tried : placedOutcomes
      (fun number index sql => outcomeOf
        { Behaviour.silent with
          replies := [("SELECT 1", .refusal "gone")]
          defaultReply := some (.table ⟨["x"], [[.integer 6]]⟩) }
        ⟨"sqlite", none, none, none, none, some "db", none⟩ number index sql (.value 10))
      (.timeless .silent) ["SELECT 1", "SELECT 2"] "out" (Files.Tree.empty.put ["out"] .folder)
      Session.empty.openings.length = _ := rfl
  have made : Session.empty.files.ensureFolder "out" =
      .ok (Files.Tree.empty.put ["out"] .folder) := ok_of_toOption (by decide +kernel)
  have memory (bytes : Int) (found : Session.empty.journal.memory = some bytes) :
      bytes.natAbs < Binary64.firstUnheld := by cases found
  obtain ⟨_, result, settles, _, any⟩ := performBy_settles 2 "t" tried numbered made memory
    (Numeral.isWritable_of_small (by decide)) (by decide +kernel)
  obtain ⟨started, before, _, settled, accomplished, ran⟩ :=
    any List.reverse (List.reverse_perm _)
  have folder : normalSteps "out" = ["out"] := by decide
  rw [folder] at settled
  refine ⟨_, result, started, before, by decide +kernel, settles (.inr ?_), settled, accomplished,
    ran⟩
  exact Binary64.hasRate_of_lt (by decide +kernel) (by decide +kernel)

/-- A setting in which an export takes a millionth of a second. -/
def hasty : Setting :=
  { Setting.timeless .silent with totalTime := Binary64.millionth }

def fetching (rows : List (List Cell)) : Trial :=
  fun _ index _ => ⟨index, none, none, .ok ⟨["x"], [.integer], rows⟩, none⟩

private theorem placedOutcomes_fetching (rows : List (List Cell)) :
    placedOutcomes (fetching rows) hasty ["SELECT 1"] "out"
        (Files.Tree.empty.put ["out"] .folder) 0 =
      [⟨0, none, none, .ok ⟨["x"], [.integer], rows⟩, some ["out", "part-0000.parquet"]⟩] := by
  have place : (Files.Tree.empty.put ["out"] .folder).placeFor hasty.home?
      (childText (normalSteps "out") (partFileName ((0 : Nat) : Int))) =
        .ok (some ["out", "part-0000.parquet"]) := ok_of_toOption (by decide +kernel)
  have writable : Frame.isWritable ⟨["x"], [.integer], rows⟩ = true := rfl
  simp only [placedOutcomes, outcomesOf, fetching, List.zipIdx_cons, List.zipIdx_nil, List.map_cons,
    List.map_nil, Outcome.placed, partPlace, writable, place, mapError_ok]

private theorem conclusion_uncounted {setting : Setting} {rows : List (List Cell)}
    {place : Option (List String)} {fault : Cell.Fault} (folder : List String)
    (uncounted : throughput (.integer rows.length) (.real setting.totalTime) = .error fault) :
    conclusion setting folder [⟨0, none, none, .ok ⟨["x"], [.integer], rows⟩, place⟩] =
      .error (.cell fault) := by
  have noFailure : firstFailure? (failures
      [⟨0, none, none, .ok ⟨["x"], [.integer], rows⟩, place⟩]) = none := rfl
  have sum : ([(⟨0, none, none, .ok ⟨["x"], [.integer], rows⟩, place⟩ : Outcome)].map
      Outcome.rowCount).sum = rows.length := Nat.add_zero rows.length
  unfold conclusion
  rw [noFailure, sum, uncounted]

/-- Two to the power of 1010 rows in a millionth of a second: no statement fails, and still the
export does. -/
theorem performBy_fails_without_rate :
    Nat.pow 2 1010 < Binary64.firstUnheld ∧
    hasty.totalTime.less Binary64.millionth = false ∧
    failures (placedOutcomes (fetching (List.replicate (Nat.pow 2 1010) [.integer 1])) hasty
      ["SELECT 1"] "out" (Files.Tree.empty.put ["out"] .folder) 0) = [] ∧
    ((performBy (fetching (List.replicate (Nat.pow 2 1010) [.integer 1])) hasty ["SELECT 1"] "out"
        (some (.value 1)) (.text "t") id).run .empty).1 =
      .error (.cell (.number (.binary .infiniteToInteger))) := by
  obtain ⟨rows, length⟩ : ∃ rows : List (List Cell), rows =
      List.replicate (Nat.pow 2 1010) [.integer 1] := ⟨_, rfl⟩
  have count : rows.length = Nat.pow 2 1010 := by rw [length, List.length_replicate]
  have held : Nat.pow 2 1010 < Binary64.firstUnheld := by
    apply Binary64.twoPow_lt_firstUnheld
    decide
  have made : Session.empty.files.ensureFolder "out" =
      .ok (Files.Tree.empty.put ["out"] .folder) := ok_of_toOption (by decide +kernel)
  have uncounted : throughput (.integer rows.length) (.real hasty.totalTime) =
      .error (.number (.binary .infiniteToInteger)) := by
    have near : Binary64.ofInt (Nat.pow 2 1010 : Nat) = .ok (.finite false 4503599627370496 958) :=
      ok_of_toOption (by decide +kernel)
    have infinite : (Binary64.finite false 4503599627370496 958).divide Binary64.millionth =
        .infinite false := by decide +kernel
    have time : hasty.totalTime = Binary64.millionth := rfl
    rw [count, time, throughput_of_above (by decide +kernel), near, Except.bind, infinite]
    rfl
  obtain ⟨_, _, _, _, _, ran⟩ := performBy_concludes 1 "t" (placedOutcomes_fetching rows)
    (fun _ _ _ => rfl) made nofun (Numeral.isWritable_of_small (by decide))
    (count.trans_lt held) id (.refl _)
  rw [← length, placedOutcomes_fetching, ran]
  exact ⟨held, by decide +kernel, rfl, conclusion_uncounted _ uncounted⟩

end Performing

end TableExport.Export
