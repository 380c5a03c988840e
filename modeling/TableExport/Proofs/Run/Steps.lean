import TableExport.Proofs.Connection.Config
import TableExport.Proofs.Export.Steps
import TableExport.Proofs.Log.Legibility
import TableExport.Proofs.Plan.Calls
import TableExport.Proofs.Plan.Faults
import TableExport.Run

/-!
The steps of a run. Reading and checking the options touches nothing but the
journal, and it does not look at how the rows are reached and where they go;
planning adds to the openings; and the code of a failure is never that of a
success.
-/

set_option autoImplicit false

namespace TableExport.Run

open TableExport.Text
open TableExport.Connection
open TableExport.Database
open TableExport.Log
open TableExport.Sequence

section Keeping

variable (setting : Setting) (options : Options)

theorem keeps_accept {View : Type} {view : Session → View}
    (blind : Work.IsBlindToJournal view) : Keeps view (accept setting options) := by
  refine (keeps_get view).bind fun session => ?_
  refine (keeps_ofExcept view _).bind fun request => ?_
  refine (keeps_ofExcept view _).bind fun event => ?_
  exact (Work.keeps_tell blind event).bind fun _ => keeps_pure view request

theorem keeps_configure {View : Type} (view : Session → View) :
    Keeps view (configure setting options) := by
  refine (keeps_get view).bind fun session => ?_
  exact (keeps_ofExcept view _).bind fun password => keeps_ofExcept view _

theorem keeps_plan {View : Type} {view : Session → View} (blind : Work.IsBlindToJournal view)
    (unseen : Work.IsBlindToOpenings view) (config : Config) (request : Query.Request) :
    Keeps view (plan setting config request) := by
  unfold plan
  by_cases split : request.isSplit
  · simp only [if_pos split]
    refine (Work.keeps_connect blind unseen setting config).bind fun target => ?_
    cases target with
    | none => exact Work.keeps_planAlone blind _
    | some target => exact Work.keeps_planOver blind unseen target _
  · simp only [if_neg split]
    exact Work.keeps_planAlone blind _

theorem keeps_printStatements {View : Type} {view : Session → View}
    (unprinted : ∀ session printed, view { session with printed := printed } = view session)
    (statements : List String) : Keeps view (printStatements statements) := by
  induction statements with
  | nil => exact keeps_pure view _
  | cons statement rest inductionHypothesis =>
      refine Keeps.bind (fun session => ?_) fun _ => inductionHypothesis
      rw [Work.print_run]
      exact unprinted session _

end Keeping

def admissionPart (options : Options) : Options :=
  { options with
    connectionUrl := none
    username := none
    password := none
    passwordFile := none
    fetchSize := .value Options.defaultFetchSize
    output := none
    maxWorkers := .value Options.defaultMaxWorkers
    dryRun := false }

private theorem admitted_admissionPart (options : Options) (files : Files.Tree)
    (now : Calendar.Instant) :
    admitted (admissionPart options) files now = admitted options files now := by
  simp only [admitted, Candidate.ofOptions, admissionPart]
  cases Candidate.periodOrDay options.partitionPeriod with
  | error failure => rfl
  | ok period =>
      cases Candidate.optionalInstant options.partition with
      | error failure => rfl
      | ok partition =>
          cases Candidate.optionalInstant options.minPartition with
          | error failure => rfl
          | ok minimum => rfl

/-- Options that differ in nothing that their admission looks at are accepted alike. -/
theorem accept_congr (setting : Setting) {first second : Options}
    (same : admissionPart first = admissionPart second) :
    accept setting first = accept setting second := by
  unfold accept
  refine congrArg _ (funext fun session => ?_)
  rw [← admitted_admissionPart first, same, admitted_admissionPart second]

section Succeeding

variable {setting : Setting} {options : Options} {session after : Session}

theorem admissionEvent_entry {request : Query.Request} {event : Event}
    (made : admissionEvent request = .ok event) :
    event.entry = noteFormatted .info event.text := by
  rw [admissionEvent, bind_ok_iff] at made
  obtain ⟨partition, _, same⟩ := made
  cases same
  rfl

/-- A request is accepted with a message, so the journal can show what stands in front of
messages. -/
theorem isLegible_of_accept {request : Query.Request}
    (ran : (accept setting options).run session = (.ok request, after)) :
    after.journal.IsLegible := by
  simp only [accept, run_bind_ok_iff, run_ofExcept_ok_iff, Work.tell_run] at ran
  obtain ⟨_, _, _, _, _, _, event, told, ⟨made, _⟩, _, _, telling, finished⟩ := ran
  cases finished
  obtain ⟨outcome, left⟩ := Prod.mk.inj telling
  rw [mapError_ok_iff] at outcome
  rw [← left]
  exact (isLegible_of_told (admissionEvent_entry made) outcome).2

theorem configure_ok {config : Config}
    (ran : (configure setting options).run session = (.ok config, after)) :
    after = session ∧ DatabaseKind.ofName? config.databaseType ≠ none := by
  have stays := (keeps_configure setting options id).of_run ran
  simp only [configure, run_bind_ok_iff, run_ofExcept_ok_iff, mapError_ok_iff] at ran
  obtain ⟨_, _, _, _, _, _, found, _⟩ := ran
  exact ⟨stays, Config.ofUrl_databaseType found⟩

/-- A plan counts its statements, so their count has a text. -/
theorem isWritable_of_plan {config : Config} {request : Query.Request}
    {statements : List String}
    (ran : (plan setting config request).run session = (.ok statements, after)) :
    Numeral.IsWritable statements.length := by
  have alone {middle : Session} (ended : (Work.planAlone (Planning.statements none request
      (.real setting.probeTime))).run middle = (.ok statements, after)) :
      Numeral.IsWritable statements.length := by
    rw [Work.planAlone_run] at ended
    exact Planning.isWritable_of_statements (Prod.ext (Prod.mk.inj ended).1 rfl)
  unfold plan at ran
  by_cases split : request.isSplit = true
  · simp only [if_pos split, run_bind_ok_iff] at ran
    obtain ⟨target, middle, _, ended⟩ := ran
    cases target with
    | none => exact alone ended
    | some target =>
        dsimp only at ended
        rw [Work.planOver_run] at ended
        exact Planning.isWritable_of_statements (Prod.ext (Prod.mk.inj ended).1 rfl)
  · simp only [if_neg split] at ran
    exact alone ran

end Succeeding

variable {setting : Setting} {options : Options}

private theorem concluded_run (code : Nat) (text : String) (session : Session) :
    (concluded code text).run session =
      (((session.journal.tell (.message .error (.text text))).1.mapError Failure.cell).map
          fun _ => code,
        { session with journal := (session.journal.tell (.message .error (.text text))).2 }) := by
  simp only [concluded, run_bind, Work.tell_run]
  cases (session.journal.tell (.message .error (.text text))).1 with
  | error fault => rfl
  | ok _ => rfl

private theorem code_of_concluded {code number : Nat} {text : String} {session after : Session}
    (ran : (concluded code text).run session = (.ok number, after)) : number = code := by
  rw [concluded_run] at ran
  obtain ⟨same, _⟩ := Prod.mk.inj ran
  cases told : (session.journal.tell (.message .error (.text text))).1 with
  | error fault =>
      rw [told] at same
      cases same
  | ok _ =>
      rw [told] at same
      cases same
      rfl

theorem keeps_codeFor {View : Type} {view : Session → View}
    (blind : Work.IsBlindToJournal view) (failure : Failure) :
    Keeps view (codeFor failure) := by
  have concludes (code : Nat) (text : String) : Keeps view (concluded code text) :=
    (Work.keeps_tell blind _).bind fun _ => keeps_pure view code
  unfold codeFor
  split
  · exact concludes _ _
  · exact concludes _ _
  · exact concludes _ _
  · exact concludes _ _
  · exact keeps_throw view _

/-- The code of a failure is never that of a success, and it is that of a wrong configuration
only when the options are to blame. -/
theorem codeFor_ok {failure : Failure} {session after : Session} {code : Nat}
    (ran : (codeFor failure).run session = (.ok code, after)) :
    code ≠ codeOk ∧ (code = codeConfiguration → failure.BlamesOptions) := by
  unfold codeFor at ran
  split at ran
  · rw [code_of_concluded ran]
    exact ⟨by decide, fun _ => trivial⟩
  · rw [code_of_concluded ran]
    exact ⟨by decide, fun _ => trivial⟩
  · rw [code_of_concluded ran]
    exact ⟨by decide, fun impossible => absurd impossible (by decide)⟩
  · rw [code_of_concluded ran]
    exact ⟨by decide, fun impossible => absurd impossible (by decide)⟩
  · cases ran

theorem performCoded_run (completion : Export.Completion) (session : Session) :
    (performCoded setting options completion).run session =
      match (perform setting options completion).run session with
      | (.ok _, after) => (.ok codeOk, after)
      | (.error failure, after) => (codeFor failure).run after := by
  simp only [performCoded, run_bind, run_attempt]
  rcases (perform setting options completion).run session with ⟨failure | _, after⟩
  · rfl
  · rfl

end TableExport.Run
