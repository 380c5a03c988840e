import TableExport.Export
import TableExport.Proofs.Session.Steps

/-!
What the steps of an export keep and how they fail. Collecting and concluding
touch nothing but the journal; keeping an outcome touches the openings and the
part files as well. An export prints nothing, and clearing the progress hands on
what the work before it came to.
-/

set_option autoImplicit false

namespace TableExport.Export

open TableExport.Connection
open TableExport.Database
open TableExport.Log
open TableExport.Sequence

/-- Clearing the progress is all that is done after the work, and it never fails. -/
theorem clearingProgress_run {Value : Type} {work : Work Value} {session before : Session}
    {result : Except Failure Value} (ran : work.run session = (result, before)) :
    (clearingProgress work).run session =
      (result, { before with journal := { before.journal with progress := none } }) := by
  simp only [clearingProgress, run_bind, run_attempt, ran, Work.tell_run]
  exact run_ofExcept _ _

/-- Collecting is one message after another. -/
private theorem collect_eq_forM (duration : Number.Binary64) (outcomes : List Outcome) :
    collect duration outcomes =
      outcomes.forM fun outcome => Work.tell (outcome.event duration) := by
  induction outcomes with
  | nil => rfl
  | cons outcome rest inductionHypothesis =>
      rw [collect, inductionHypothesis]
      rfl

section Keeping

variable {View : Type} {view : Session → View}

private theorem keeps_showProgress (blind : Work.IsBlindToJournal view)
    (progress : Option Progress) :
    Keeps view (showProgress progress) :=
  fun session => blind session _

private theorem keeps_tellConnected (blind : Work.IsBlindToJournal view)
    (connected : Option (String × Option String)) : Keeps view (tellConnected connected) := by
  cases connected with
  | none => exact keeps_pure view _
  | some named =>
      obtain ⟨kind, database⟩ := named
      refine (keeps_get view).bind fun session => ?_
      refine (keeps_showProgress blind none).bind fun _ => ?_
      exact (Work.keeps_tell blind _).bind fun _ => keeps_showProgress blind _

private theorem keeps_keepAttempt
    (blind : ∀ session openings, view { session with openings := openings } = view session)
    (opening : Option Opening) : Keeps view (keepAttempt opening) := by
  cases opening with
  | none => exact keeps_pure view _
  | some opening => exact fun session => blind session _

private theorem keeps_keepRows
    (blind : ∀ session parts, view { session with parts := parts } = view session)
    (outcome : Outcome) : Keeps view (keepRows outcome) := by
  unfold keepRows
  split
  · exact fun session => blind session _
  · exact keeps_pure view _

theorem keeps_collect (blind : Work.IsBlindToJournal view) (duration : Number.Binary64)
    (outcomes : List Outcome) : Keeps view (collect duration outcomes) := by
  rw [collect_eq_forM]
  exact Keeps.forM (fun _ => Work.keeps_tell blind _) outcomes

theorem keeps_conclude (blind : Work.IsBlindToJournal view) (folder : List String)
    (duration : Number.Binary64) (outcomes : List Outcome) :
    Keeps view (conclude folder duration outcomes) := by
  unfold conclude
  dsimp only
  split
  · exact (Work.keeps_tell blind _).bind fun _ => keeps_throw view _
  · exact (Work.keeps_tell blind _).bind fun _ => keeps_pure view _

private theorem keeps_clearingProgress {Value : Type} (blind : Work.IsBlindToJournal view)
    {work : Work Value} (kept : Keeps view work) : Keeps view (clearingProgress work) := by
  intro session
  rcases ran : work.run session with ⟨result, before⟩
  rw [clearingProgress_run ran]
  exact (blind before _).trans (kept.of_run ran)

end Keeping

section Starting

variable {trial : Trial} {setting : Setting} {statements : List String} {output : String}
  {maxWorkers : Option (Given Int)} {name : Cell} {completion : Completion}
  {session : Session} {files : Files.Tree}

theorem performBy_run_unmade {fault : Files.Fault}
    (unmade : session.files.ensureFolder output = .error fault) :
    (performBy trial setting statements output maxWorkers name completion).run session =
      (.error (.file fault), session) := by
  simp only [performBy, run_bind, run_get, unmade, run_ofExcept]
  rfl

theorem performBy_run_unlimited {failure : Failure}
    (made : session.files.ensureFolder output = .ok files)
    (unlimited : workerLimit maxWorkers = .error failure) :
    (performBy trial setting statements output maxWorkers name completion).run session =
      (.error failure, { session with files := files }) := by
  simp only [performBy, run_bind, run_get, made, run_ofExcept, unlimited]
  rfl

def placedOutcomes (trial : Trial) (setting : Setting) (statements : List String)
    (output : String) (files : Files.Tree) (opened : Nat) : List Outcome :=
  (outcomesOf trial opened statements).map
    (Outcome.placed files setting.home? (Files.normalSteps output))

def startEvent (name : Cell) (statements : List String) (limit : Int) : Event :=
  .exportStarted name (.integer statements.length)
    (.integer (workerCount limit statements.length))

theorem performBy_run {limit : Int} (made : session.files.ensureFolder output = .ok files)
    (limited : workerLimit maxWorkers = .ok limit) :
    (performBy trial setting statements output maxWorkers name completion).run session =
      (Work.tell (startEvent name statements limit) >>= fun _ =>
        clearingProgress (settle setting (Files.normalSteps output)
          (placedOutcomes trial setting statements output files session.openings.length)
          completion)).run { session with files := files } := by
  simp only [performBy, run_bind, run_get, made, mapError_ok, run_ofExcept, run_set, limited,
    placedOutcomes, startEvent]

end Starting

private theorem keeps_printed_settle (setting : Setting) (folder : List String)
    (outcomes : List Outcome) (completion : Completion) :
    Keeps Session.printed (settle setting folder outcomes completion) := by
  have blind : Work.IsBlindToJournal Session.printed := fun _ _ => rfl
  refine (Keeps.forM (fun outcome => ?_) outcomes).bind fun _ => ?_
  · refine (keeps_keepAttempt (fun _ _ => rfl) _).bind fun _ => ?_
    exact (keeps_tellConnected blind _).bind fun _ => keeps_keepRows (fun _ _ => rfl) _
  · exact (keeps_collect blind _ _).bind fun _ => keeps_conclude blind _ _ _

theorem keeps_printed_performBy (trial : Trial) (setting : Setting) (statements : List String)
    (output : String) (maxWorkers : Option (Given Int)) (name : Cell)
    (completion : Completion) :
    Keeps Session.printed
      (performBy trial setting statements output maxWorkers name completion) := by
  have blind : Work.IsBlindToJournal Session.printed := fun _ _ => rfl
  intro session
  rcases made : session.files.ensureFolder output with fault | files
  · rw [performBy_run_unmade made]
  · rcases limited : workerLimit maxWorkers with failure | limit
    · rw [performBy_run_unlimited made limited]
    · have kept := (Work.keeps_tell blind (startEvent name statements limit)).bind fun _ =>
        keeps_clearingProgress blind (keeps_printed_settle setting (Files.normalSteps output)
          (placedOutcomes trial setting statements output files session.openings.length)
          completion)
      rw [performBy_run made limited, kept]

section Failing

variable {way : Failure → Prop}

private theorem failsOnly_tellConnected (untold : ∀ fault, way (.cell fault))
    (connected : Option (String × Option String)) : FailsOnly way (tellConnected connected) := by
  cases connected with
  | none => exact failsOnly_pure way _
  | some named =>
      refine (failsOnly_get way).bind fun session => ?_
      refine (failsOnly_modify way _).bind fun _ => ?_
      exact (Work.failsOnly_tell untold _).bind fun _ => failsOnly_modify way _

private theorem failsOnly_keepOutcome (untold : ∀ fault, way (.cell fault)) (outcome : Outcome) :
    FailsOnly way (keepOutcome outcome) := by
  refine FailsOnly.bind ?_ fun _ =>
    (failsOnly_tellConnected untold outcome.connected).bind fun _ => ?_
  · cases outcome.opening with
    | none => exact failsOnly_pure way _
    | some opening => exact failsOnly_modify way _
  · unfold keepRows
    split
    · exact failsOnly_modify way _
    · exact failsOnly_pure way _

private theorem failsOnly_collect (untold : ∀ fault, way (.cell fault)) (duration : Number.Binary64)
    (outcomes : List Outcome) : FailsOnly way (collect duration outcomes) := by
  rw [collect_eq_forM]
  exact FailsOnly.forM (fun _ => Work.failsOnly_tell untold _) outcomes

private theorem failsOnly_conclude (untold : ∀ fault, way (.cell fault))
    (unserved : ∀ cause, way (.database cause)) (folder : List String)
    (duration : Number.Binary64) (outcomes : List Outcome) :
    FailsOnly way (conclude folder duration outcomes) := by
  unfold conclude
  dsimp only
  split
  · exact (Work.failsOnly_tell untold _).bind fun _ => failsOnly_throw (unserved _)
  · exact (Work.failsOnly_tell untold _).bind fun _ => failsOnly_pure way _

private theorem failsOnly_clearingProgress {Value : Type} {work : Work Value}
    (fails : FailsOnly way work) : FailsOnly way (clearingProgress work) := by
  intro session failure after ran
  rcases worked : work.run session with ⟨result, before⟩
  rw [clearingProgress_run worked] at ran
  obtain ⟨rfl, _⟩ := Prod.mk.inj ran
  exact fails session failure before worked

/-- An export fails because its folder cannot be made, because its statements fail, or because
something about it has no display. -/
theorem failsOnly_performBy (untold : ∀ fault, way (.cell fault))
    (unserved : ∀ cause, way (.database cause)) (unmade : ∀ fault, way (.file fault))
    (trial : Trial) (setting : Setting) (statements : List String) (output : String)
    (maxWorkers : Option (Given Int)) (name : Cell) (completion : Completion) :
    FailsOnly way (performBy trial setting statements output maxWorkers name completion) := by
  have settled (folder : List String) (outcomes : List Outcome) :
      FailsOnly way (settle setting folder outcomes completion) :=
    (FailsOnly.forM (failsOnly_keepOutcome untold) outcomes).bind fun _ =>
      (failsOnly_collect untold _ _).bind fun _ => failsOnly_conclude untold unserved _ _ _
  intro session failure after ran
  rcases made : session.files.ensureFolder output with fault | files
  · rw [performBy_run_unmade made] at ran
    cases ran
    exact unmade fault
  · rcases limited : workerLimit maxWorkers with refusal | limit
    · rw [performBy_run_unlimited made limited] at ran
      obtain ⟨same, _⟩ := Prod.mk.inj ran
      cases same
      unfold workerLimit at limited
      split at limited
      · cases limited
      · cases limited
        exact untold _
      · cases limited
        exact untold _
    · rw [performBy_run made limited] at ran
      exact ((Work.failsOnly_tell untold _).bind fun _ =>
        failsOnly_clearingProgress (settled _ _)) _ failure after ran

end Failing

end TableExport.Export
