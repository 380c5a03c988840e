import TableExport.Proofs.Plan.Faults
import TableExport.Proofs.Run.Steps

/-!
A run that fails has printed nothing, and one that fails through its options has
opened nothing. Everything that options can be blamed for is found before the
first opening, on each of the three ways through a run; what comes after an
opening fails in other ways, and printing is the last thing a run does.
-/

set_option autoImplicit false

namespace TableExport

open TableExport.Connection
open TableExport.Database
open TableExport.Log
open TableExport.Sequence

/-! ### Failing fast -/

/-- Work whose failures have printed nothing, and have opened nothing when the options are to
blame. -/
def Work.FailsFast {Value : Type} (work : Work Value) : Prop :=
  ∀ session failure after, work.run session = (.error failure, after) →
    after.printed = session.printed ∧
      (failure.BlamesOptions → after.openings = session.openings)

namespace Work

variable {Value Next : Type} {work : Work Value}

private theorem failsFast_of_spares (silent : Keeps Session.printed work)
    (spares : FailsOnly Failure.SparesOptions work) : work.FailsFast := by
  intro session failure after ran
  exact ⟨silent.of_run ran, fun blamed => absurd blamed (spares session failure after ran)⟩

theorem FailsFast.after_quiet {next : Value → Work Next} (silent : Keeps Session.printed work)
    (offline : Keeps Session.openings work) (later : ∀ value, (next value).FailsFast) :
    Work.FailsFast (work >>= next) := by
  intro session failure after ran
  rw [run_bind] at ran
  rcases worked : work.run session with ⟨other | value, middle⟩
  · rw [worked] at ran
    cases ran
    exact ⟨silent.of_run worked, fun _ => offline.of_run worked⟩
  · rw [worked] at ran
    obtain ⟨printed, opened⟩ := later value middle failure after ran
    refine ⟨printed.trans (silent.of_run worked), ?_⟩
    intro blamed
    exact (opened blamed).trans (offline.of_run worked)

/-- What follows an opening must spare the options. -/
theorem FailsFast.bind {next : Value → Work Next} (first : work.FailsFast)
    (silent : Keeps Session.printed work) (later : ∀ value, (next value).FailsFast)
    (spares : ∀ value, FailsOnly Failure.SparesOptions (next value)) :
    Work.FailsFast (work >>= next) := by
  intro session failure after ran
  rw [run_bind] at ran
  rcases worked : work.run session with ⟨other | value, middle⟩
  · rw [worked] at ran
    cases ran
    exact first session _ _ worked
  · rw [worked] at ran
    obtain ⟨printed, _⟩ := later value middle failure after ran
    refine ⟨printed.trans (silent.of_run worked), ?_⟩
    intro blamed
    exact absurd blamed (spares value middle failure after ran)

theorem failsFast_of_sure (sure : FailsOnly (fun _ => False) work) : work.FailsFast := by
  intro session failure after ran
  exact (sure session failure after ran).elim

end Work

/-! ### Opening -/

namespace Work

variable (setting : Setting) (config : Config)

/-- Only an unsupported database is a fault of the options, and it is found without an
opening. -/
theorem failsFast_connect : (connect setting config).FailsFast := by
  intro session failure after ran
  have silent : Keeps Session.printed (connect setting config) :=
    keeps_connect (fun _ _ => rfl) (fun _ _ => rfl) setting config
  refine ⟨silent.of_run ran, ?_⟩
  intro blamed
  rcases attempted : attempt setting.database config session.openings.length with
    other | ⟨target, refusal⟩ | ⟨kind, target⟩ | ⟨kind, target⟩
  · rw [connect_run_unsupported attempted] at ran
    rw [← (Prod.mk.inj ran).2]
  · rw [connect_run_refused attempted] at ran
    cases ran
    unfold attempt at attempted
    split at attempted
    · cases attempted
    · dsimp only at attempted
      split at attempted
      · cases attempted
        exact blamed.elim
      · split at attempted <;> cases attempted
  · rw [connect_run_absent attempted] at ran
    obtain ⟨same, _⟩ := Prod.mk.inj ran
    cases told : (session.journal.tell (.connected kind.name config.database)).1 with
    | ok _ =>
        rw [told] at same
        cases same
    | error fault =>
        rw [told] at same
        cases same
        exact blamed.elim
  · cases told : (session.journal.tell (.connected kind.name config.database)).1 with
    | ok _ =>
        rw [connect_run_ready attempted told] at ran
        cases ran
    | error fault =>
        rw [connect_run_untold attempted told] at ran
        cases ran
        exact blamed.elim

end Work

/-! ### Runs -/

namespace Run

variable (setting : Setting) (options : Options)

private theorem failsFast_plan (config : Config) (request : Query.Request) :
    (plan setting config request).FailsFast := by
  have blind : Work.IsBlindToJournal Session.printed := fun _ _ => rfl
  have unseen : Work.IsBlindToOpenings Session.printed := fun _ _ => rfl
  have alone : FailsOnly Failure.SparesOptions
      (Work.planAlone (Planning.statements none request (.real setting.probeTime))) :=
    Work.failsOnly_planAlone (Planning.statements_spares _ _ _)
  unfold plan
  by_cases split : request.isSplit
  · simp only [if_pos split]
    refine (Work.failsFast_connect setting config).bind
      (Work.keeps_connect blind unseen setting config) (fun target => ?_) (fun target => ?_)
    · cases target with
      | none => exact Work.failsFast_of_spares (Work.keeps_planAlone blind _) alone
      | some target =>
          exact Work.failsFast_of_spares (Work.keeps_planOver blind unseen target _)
            (Work.failsOnly_planOver (Planning.statements_spares _ _ _) target)
    · cases target with
      | none => exact alone
      | some target => exact Work.failsOnly_planOver (Planning.statements_spares _ _ _) target
  · simp only [if_neg split]
    exact Work.failsFast_of_spares (Work.keeps_planAlone blind _) alone

private theorem sure_printStatements (statements : List String) (way : Failure → Prop) :
    FailsOnly way (printStatements statements) := by
  induction statements with
  | nil => exact failsOnly_pure way _
  | cons statement rest inductionHypothesis =>
      exact (failsOnly_modify way _).bind fun _ => inductionHypothesis

private theorem exportRows_spares (request : Query.Request) (config : Config)
    (statements : List String) (output : String) (completion : Export.Completion) :
    FailsOnly Failure.SparesOptions
      (exportRows setting options request config statements output completion) := by
  refine FailsOnly.bind ?_ fun summary => failsOnly_modify _ _
  exact Export.failsOnly_performBy (fun _ => not_false) (fun _ => not_false)
    (fun _ => not_false) _ _ _ _ _ _ _

private theorem failsFast_exportRows (request : Query.Request) (config : Config)
    (statements : List String) (output : String) (completion : Export.Completion) :
    (exportRows setting options request config statements output completion).FailsFast := by
  have silent := Export.keeps_printed_performBy
    (fun number index sql =>
      Export.outcomeOf setting.database config number index sql options.fetchSize)
    setting statements output (some options.maxWorkers) (.text request.exportName) completion
  have spares : FailsOnly Failure.SparesOptions _ := Export.failsOnly_performBy
    (fun _ => not_false) (fun _ => not_false) (fun _ => not_false)
    (fun number index sql =>
      Export.outcomeOf setting.database config number index sql options.fetchSize)
    setting statements output (some options.maxWorkers) (.text request.exportName) completion
  -- nothing follows the printing of the summary
  exact (Work.failsFast_of_spares silent spares).bind silent
    (fun summary => Work.failsFast_of_sure (failsOnly_modify _ _))
    (fun summary => failsOnly_modify _ _)

private theorem failsFast_perform (completion : Export.Completion) :
    (perform setting options completion).FailsFast := by
  have printedBlind : Work.IsBlindToJournal Session.printed := fun _ _ => rfl
  have openedBlind : Work.IsBlindToJournal Session.openings := fun _ _ => rfl
  refine Work.FailsFast.after_quiet (keeps_accept setting options printedBlind)
    (keeps_accept setting options openedBlind) fun request => ?_
  by_cases dry : (options.dryRun && !request.isSplit) = true
  · simp only [if_pos dry]
    exact Work.FailsFast.after_quiet (Work.keeps_planAlone printedBlind _)
      (Work.keeps_planAlone openedBlind _) fun statements =>
        Work.failsFast_of_sure (sure_printStatements statements _)
  · simp only [if_neg dry]
    refine Work.FailsFast.after_quiet (keeps_configure setting options _)
      (keeps_configure setting options _) fun config => ?_
    have planned : (do
        let statements ← plan setting config request
        if options.dryRun then printStatements statements
        else
          exportRows setting options request config statements
            ((options.output.bind Given.filled?).getD "") completion : Work Unit).FailsFast := by
      refine (failsFast_plan setting config request).bind
        (keeps_plan setting printedBlind (fun _ _ => rfl) config request) (fun statements => ?_)
        (fun statements => ?_)
      · split
        · exact Work.failsFast_of_sure (sure_printStatements statements _)
        · exact failsFast_exportRows setting options request config statements _ completion
      · split
        · exact sure_printStatements statements _
        · exact exportRows_spares setting options request config statements _ completion
    by_cases missing : (!options.dryRun && (options.output.bind Given.filled?).isNone) = true
    · simp only [if_pos missing]
      exact Work.FailsFast.after_quiet (keeps_throw _ _) (keeps_throw _ _) fun _ => planned
    · simp only [if_neg missing]
      exact planned

/-- A run that ends with the code of a wrong configuration has opened nothing, and a run that
does not end with the code of a success has printed nothing. -/
theorem commandLineIn_failFast {setting : Setting} {arguments : List String}
    {completion : Export.Completion} {session after : Session} {ending : Ending}
    (ran : commandLineIn setting arguments completion session = (ending, after)) :
    (ending = .code codeConfiguration → after.openings = session.openings) ∧
      (ending ≠ .code codeOk → after.printed = session.printed) := by
  have coded {failure : Failure} {middle : Session}
      (finished : (endingOf ((codeFor failure).run middle).1, ((codeFor failure).run middle).2) =
        (ending, after)) :
      after.openings = middle.openings ∧ after.printed = middle.printed ∧
        (ending = .code codeConfiguration → failure.BlamesOptions) := by
    obtain ⟨ended, left⟩ := Prod.mk.inj finished
    have offline : Keeps Session.openings (codeFor failure) :=
      keeps_codeFor (fun _ _ => rfl) failure
    have silent : Keeps Session.printed (codeFor failure) :=
      keeps_codeFor (fun _ _ => rfl) failure
    refine ⟨offline.of_run (Prod.ext rfl left), silent.of_run (Prod.ext rfl left), ?_⟩
    intro same
    rw [← ended] at same
    rcases outcome : ((codeFor failure).run middle).1 with other | code
    · rw [outcome] at same
      cases same
    · rw [outcome] at same
      cases same
      exact (codeFor_ok (Prod.ext outcome rfl)).2 rfl
  unfold commandLineIn at ran
  cases read : Options.read setting.environment arguments with
  | exit exit =>
      rw [read] at ran
      cases ran
      exact ⟨fun _ => rfl, fun _ => rfl⟩
  | failure failure =>
      rw [read] at ran
      obtain ⟨opened, printed, _⟩ := coded ran
      exact ⟨fun _ => opened, fun _ => printed⟩
  | options options =>
      rw [read] at ran
      dsimp only at ran
      rw [performCoded_run] at ran
      rcases performed : (perform setting options completion).run session with
        ⟨failure | _, middle⟩
      · rw [performed] at ran
        obtain ⟨opened, printed, blames⟩ := coded ran
        obtain ⟨silent, offline⟩ :=
          failsFast_perform setting options completion session failure middle performed
        refine ⟨?_, fun _ => printed.trans silent⟩
        intro same
        exact opened.trans (offline (blames same))
      · rw [performed] at ran
        cases ran
        exact ⟨nofun, fun different => absurd rfl different⟩

/-- A split request is refused for want of an output before its database is asked. -/
theorem commandLineIn_failFast_without_output :
    ∃ setting arguments session after,
      commandLineIn setting arguments id session = (.code codeConfiguration, after) ∧
      after.openings = [] ∧ after.printed = "" := by
  have ran : commandLineIn
      (.timeless { Behaviour.silent with row := some [.integer 1, .integer 10] })
      ["--connectionUrl", "sqlite:///db", "--table", "t", "--splitColumn", "x",
        "--queryParallelism", "2"] id .empty = (.code codeConfiguration, .empty) := by
    decide +kernel
  obtain ⟨offline, silent⟩ := commandLineIn_failFast ran
  exact ⟨_, _, _, _, ran, offline rfl, silent (by decide)⟩

end Run

end TableExport
