import TableExport.Proofs.Export.Openings
import TableExport.Proofs.Run.Steps

/-!
The openings of a run. A split request opens one probe, which is closed when the
statements are planned; an export then opens one worker for each statement, unless
the count of workers is struck out and it opens none. Over each connection at most
one statement is asked, its cursor is closed, and the closing of the connection is
the last call, wherever the work on it failed.
-/

set_option autoImplicit false

namespace TableExport.Run

open TableExport.Connection
open TableExport.Database
open TableExport.Log
open TableExport.Sequence
open TableExport.Export (EachServed)

/-! ### Planning -/

inductive Probed (behaviour : Behaviour) (number : Nat) (request : Query.Request) :
    List Opening → Prop
  | whole (unsplit : request.isSplit = false) : Probed behaviour number request []
  | split {probe : Opening} (split : request.isSplit = true)
      (served : Served behaviour number (Planning.probeStatement? request) probe.calls) :
      Probed behaviour number request [probe]

section Planning

variable {setting : Setting} {config : Config} {request : Query.Request}

private theorem keeps_setup_planAlone {Value : Type} {planning : Planning Value}
    (keeps : Keeps (fun exchange => exchange.journal.setup) planning) :
    Keeps (fun session : Session => session.journal.setup) (Work.planAlone planning) := by
  intro session
  rw [Work.planAlone_run]
  exact keeps ⟨session.journal, []⟩

private theorem keeps_setup_planOver {Value : Type} {planning : Planning Value} (target : Target)
    (keeps : Keeps (fun exchange => exchange.journal.setup) planning) :
    Keeps (fun session : Session => session.journal.setup)
      (Work.planOver target planning) := by
  intro session
  rw [Work.planOver_run]
  exact keeps ⟨session.journal, []⟩

private theorem keeps_setup_connect (setting : Setting) (config : Config) :
    Keeps (fun session : Session => session.journal.setup) (Work.connect setting config) := by
  intro session
  rcases attempted : attempt setting.database config session.openings.length with
    failure | ⟨target, failure⟩ | ⟨kind, target⟩ | ⟨kind, target⟩
  · rw [Work.connect_run_unsupported attempted]
  · rw [Work.connect_run_refused attempted]
  · rw [Work.connect_run_absent attempted]
    exact tell_setup session.journal _
  · rcases told : (session.journal.tell (.connected kind.name config.database)).1 with fault | _
    · rw [Work.connect_run_untold attempted told]
      exact tell_setup session.journal _
    · rw [Work.connect_run_ready attempted told]
      exact tell_setup session.journal _

private theorem keeps_setup_plan (setting : Setting) (config : Config) (request : Query.Request) :
    Keeps (fun session : Session => session.journal.setup) (plan setting config request) := by
  have planned (connection : Option Behaviour) := Planning.keeps_setup_statements connection
    request (.real setting.probeTime)
  unfold plan
  by_cases split : request.isSplit
  · simp only [if_pos split]
    refine (keeps_setup_connect setting config).bind fun target => ?_
    cases target with
    | none => exact keeps_setup_planAlone (planned none)
    | some target => exact keeps_setup_planOver target (planned _)
  · simp only [if_neg split]
    exact keeps_setup_planAlone (planned none)

private theorem plan_openings {session : Session}
    (known : DatabaseKind.ofName? config.databaseType ≠ none)
    (legible : session.journal.IsLegible) :
    ∃ probes, ((plan setting config request).run session).2.openings =
        session.openings ++ probes ∧
      Probed setting.database session.openings.length request probes := by
  have alone : Keeps Session.openings
      (Work.planAlone (Planning.statements none request (.real setting.probeTime))) :=
    Work.keeps_planAlone (fun _ _ => rfl) _
  unfold plan
  by_cases split : request.isSplit = true
  · simp only [if_pos split, run_bind]
    rcases attempted : attempt setting.database config session.openings.length with
      failure | ⟨target, failure⟩ | ⟨kind, target⟩ | ⟨kind, target⟩
    · exact absurd (attempt_unsupported attempted) known
    · rw [Work.connect_run_refused attempted]
      exact ⟨_, rfl, .split split (.unconnected (attempt_refused attempted))⟩
    · refine ⟨[⟨target, []⟩], ?_, .split split (.unconnected (attempt_absent attempted))⟩
      rw [Work.connect_run_absent attempted]
      rcases (session.journal.tell (.connected kind.name config.database)).1 with fault | _
      · rfl
      · exact alone _
    · have told := tell_connected_ok kind.name config.database legible
      rw [Work.connect_run_ready attempted told]
      dsimp only
      rw [Work.planOver_run]
      exact ⟨_, rfl, .split split (.closed (attempt_ready attempted)
        (Planning.asked_statements split setting.database _ _))⟩
  · simp only [if_neg split]
    refine ⟨[], ?_, .whole (eq_false_of_ne_true split)⟩
    rw [List.append_nil]
    exact alone session

end Planning

/-! ### Exporting -/

/-- The openings of workers that export statements; a struck count of workers employs none. -/
def Employed (behaviour : Behaviour) (first : Nat) (statements : List String)
    (maxWorkers : Given Int) (workers : List Opening) : Prop :=
  match maxWorkers with
  | .struck => workers = []
  | .value _ => EachServed behaviour first statements workers

section Exporting

variable {setting : Setting} {options : Options} {config : Config} {request : Query.Request}
  {statements : List String} {output : String} {completion : Export.Completion}
  {session : Session}

private theorem exportRows_openings_eq :
    ((exportRows setting options request config statements output completion).run
        session).2.openings =
      ((Export.perform setting config statements output (some options.maxWorkers)
        options.fetchSize (.text request.exportName) completion).run session).2.openings := by
  have printed (summary : Export.Summary) : Keeps Session.openings (Work.print
      ("Exported " ++ Text.Numeral.ofNat summary.rows ++ " rows to " ++
        Text.Numeral.ofNat summary.files.length ++ " files in " ++ output ++ "\n")) :=
    fun _ => rfl
  exact view_bind printed _ session

theorem exportRows_openings (known : DatabaseKind.ofName? config.databaseType ≠ none)
    (shows : session.journal.ShowsMemory)
    (writable : Text.Numeral.IsWritable statements.length) :
    ∃ workers, ((exportRows setting options request config statements output completion).run
        session).2.openings = session.openings ++ workers ∧
      (workers ≠ [] → ∃ files, session.files.ensureFolder output = .ok files) ∧
      ∀ files, session.files.ensureFolder output = .ok files →
        Employed setting.database session.openings.length statements options.maxWorkers
          workers := by
  rw [exportRows_openings_eq]
  unfold Export.perform
  rcases made : session.files.ensureFolder output with fault | files
  · rw [Export.performBy_run_unmade made]
    exact ⟨[], (List.append_nil _).symm, fun impossible => absurd rfl impossible, nofun⟩
  · cases given : options.maxWorkers with
    | struck =>
        rw [Export.performBy_run_unlimited made rfl]
        exact ⟨[], (List.append_nil _).symm, fun _ => ⟨files, rfl⟩, fun _ _ => rfl⟩
    | value limit =>
        rw [Export.performBy_openings shows made rfl writable]
        exact ⟨_, rfl, fun _ => ⟨files, rfl⟩, fun _ _ => Export.eachServed_placedOutcomes
          (fun number index sql =>
            Export.outcomeOf_opening known number index sql options.fetchSize) _ _ _ _ _⟩

end Exporting

/-! ### Whole runs -/

/-- A run of options comes as far as the export of statements: they are built, the folder for
them can be made, and the run is no dry run. -/
structure Exports (setting : Setting) (options : Options) (session : Session)
    (statements : List String) (middle : Session) : Prop where
  real : options.dryRun = false
  folder : ∃ output files, options.output.bind Given.filled? = some output ∧
    session.files.ensureFolder output = .ok files
  built : ∃ request admitted config,
    (accept setting options).run session = (.ok request, admitted) ∧
      (configure setting options).run admitted = (.ok config, admitted) ∧
      (plan setting config request).run admitted = (.ok statements, middle)

def ProbedAtMostOnce (setting : Setting) (options : Options) (session : Session)
    (probes : List Opening) : Prop :=
  probes = [] ∨ ∃ request admitted probe,
    (accept setting options).run session = (.ok request, admitted) ∧
      request.isSplit = true ∧ probes = [probe] ∧
      Served setting.database session.openings.length (Planning.probeStatement? request)
        probe.calls

/-- What a run of options opens: at most one probe, and then, once it is closed, the workers of
an export, one for each statement. A count of workers that is struck is no count, and no worker
is employed. -/
structure Opens (setting : Setting) (options : Options) (session : Session)
    (probes workers : List Opening) : Prop where
  probed : ProbedAtMostOnce setting options session probes
  exported : workers ≠ [] → ∃ statements middle,
    Exports setting options session statements middle
  behind : ∀ statements middle, Exports setting options session statements middle →
    middle.openings = session.openings ++ probes
  employed : ∀ limit, options.maxWorkers = .value limit →
    ∀ statements middle, Exports setting options session statements middle →
      EachServed setting.database middle.openings.length statements workers
  unemployed : options.maxWorkers = .struck → workers = []
  offline : options.dryRun = true → (∀ request admitted,
    (accept setting options).run session = (.ok request, admitted) → request.isSplit = false) →
      probes = [] ∧ workers = []

section Running

variable {setting : Setting} {options : Options} {completion : Export.Completion}
  {session admitted : Session} {request : Query.Request} {config : Config}
  {statements : List String} {middle : Session} {probes workers : List Opening}

theorem Exports.planned (exports : Exports setting options session statements middle)
    (accepted : (accept setting options).run session = (.ok request, admitted))
    (configured : (configure setting options).run admitted = (.ok config, admitted)) :
    (plan setting config request).run admitted = (.ok statements, middle) := by
  obtain ⟨_, _, _, acceptedToo, configuredToo, planned⟩ := exports.built
  rw [accepted] at acceptedToo
  cases acceptedToo
  rw [configured] at configuredToo
  cases configuredToo
  exact planned

private theorem Exports.eq_planned {other : List String} {otherMiddle : Session}
    (exports : Exports setting options session other otherMiddle)
    (accepted : (accept setting options).run session = (.ok request, admitted))
    (configured : (configure setting options).run admitted = (.ok config, admitted))
    (planned : (plan setting config request).run admitted = (.ok statements, middle)) :
    other = statements ∧ otherMiddle = middle := by
  have plannedToo := exports.planned accepted configured
  rw [planned] at plannedToo
  cases plannedToo
  exact ⟨rfl, rfl⟩

private theorem not_exports_of_dry (dry : options.dryRun = true) :
    ¬ Exports setting options session statements middle := by
  intro exports
  rw [exports.real] at dry
  cases dry

private theorem not_exports_of_unnamed (unnamed : options.output.bind Given.filled? = none) :
    ¬ Exports setting options session statements middle := by
  intro exports
  obtain ⟨_, _, named, _⟩ := exports.folder
  rw [unnamed] at named
  cases named

private theorem not_exports_of_refused {failure : Failure}
    (refused : (accept setting options).run session = (.error failure, admitted)) :
    ¬ Exports setting options session statements middle := by
  intro exports
  obtain ⟨_, _, _, accepted, _⟩ := exports.built
  rw [refused] at accepted
  cases accepted

private theorem not_exports_of_unconfigured {failure : Failure} {left : Session}
    (accepted : (accept setting options).run session = (.ok request, admitted))
    (unconfigured : (configure setting options).run admitted = (.error failure, left)) :
    ¬ Exports setting options session statements middle := by
  intro exports
  obtain ⟨_, _, _, acceptedToo, configured, _⟩ := exports.built
  rw [accepted] at acceptedToo
  cases acceptedToo
  rw [unconfigured] at configured
  cases configured

theorem ProbedAtMostOnce.eq_nil (probed : ProbedAtMostOnce setting options session probes)
    (unsplit : ∀ request admitted,
      (accept setting options).run session = (.ok request, admitted) →
        request.isSplit = false) : probes = [] := by
  rcases probed with nothing | ⟨request, admitted, _, accepted, split, _⟩
  · exact nothing
  · rw [unsplit request admitted accepted] at split
    cases split

private theorem Probed.atMostOnce
    (probed : Probed setting.database session.openings.length request probes)
    (accepted : (accept setting options).run session = (.ok request, admitted)) :
    ProbedAtMostOnce setting options session probes := by
  cases probed with
  | whole unsplit => exact .inl rfl
  | split split served => exact .inr ⟨request, admitted, _, accepted, split, rfl, served⟩

theorem opens_of_not_exports (probed : ProbedAtMostOnce setting options session probes)
    (never : ∀ statements middle, ¬ Exports setting options session statements middle) :
    Opens setting options session probes [] where
  probed := probed
  exported := fun impossible => absurd rfl impossible
  behind := fun statements middle exports => absurd exports (never statements middle)
  employed := fun _ _ statements middle exports => absurd exports (never statements middle)
  unemployed := fun _ => rfl
  offline := fun _ unsplit => ⟨probed.eq_nil unsplit, rfl⟩

theorem view_of_planned {View : Type} {view : Session → View}
    (blind : Work.IsBlindToJournal view) (unseen : Work.IsBlindToOpenings view)
    (accepted : (accept setting options).run session = (.ok request, admitted))
    (planned : (plan setting config request).run admitted = (.ok statements, middle)) :
    view middle = view session :=
  ((keeps_plan setting blind unseen config request).of_run planned).trans
    ((keeps_accept setting options blind).of_run accepted)

/-- The request was accepted with a message, so the journal shows its memory reading from then
on. -/
theorem showsMemory_of_planned
    (accepted : (accept setting options).run session = (.ok request, admitted))
    (planned : (plan setting config request).run admitted = (.ok statements, middle)) :
    middle.journal.ShowsMemory :=
  (isLegible_of_accept accepted).showsMemory.of_setup
    ((keeps_setup_plan setting config request).of_run planned)

theorem exported_openings {output : String} (real : options.dryRun = false)
    (named : options.output.bind Given.filled? = some output)
    (accepted : (accept setting options).run session = (.ok request, admitted))
    (configured : (configure setting options).run admitted = (.ok config, admitted))
    (planned : (plan setting config request).run admitted = (.ok statements, middle))
    (probed : ProbedAtMostOnce setting options session probes)
    (opened : middle.openings = session.openings ++ probes) :
    ∃ workers, ((exportRows setting options request config statements output completion).run
        middle).2.openings = session.openings ++ (probes ++ workers) ∧
      Opens setting options session probes workers := by
  have shows := showsMemory_of_planned accepted planned
  have files : middle.files = session.files :=
    view_of_planned (fun _ _ => rfl) (fun _ _ => rfl) accepted planned
  obtain ⟨workers, exportOpened, makes, employs⟩ :=
    exportRows_openings (configure_ok configured).2 shows (isWritable_of_plan planned)
  rw [opened, List.append_assoc] at exportOpened
  rw [files] at makes employs
  refine ⟨workers, exportOpened, ?_⟩
  constructor
  case probed => exact probed
  case exported =>
    intro present
    obtain ⟨made, folderMade⟩ := makes present
    exact ⟨statements, middle, real, ⟨output, made, named, folderMade⟩,
      request, admitted, config, accepted, configured, planned⟩
  case behind =>
    intro _ _ exports
    obtain ⟨_, rfl⟩ := exports.eq_planned accepted configured planned
    exact opened
  case employed =>
    intro limit counted _ _ exports
    obtain ⟨rfl, rfl⟩ := exports.eq_planned accepted configured planned
    obtain ⟨_, made, namedToo, folderMade⟩ := exports.folder
    rw [named] at namedToo
    cases namedToo
    have employed := employs made folderMade
    rw [counted] at employed
    exact employed
  case unemployed =>
    intro struck
    refine Classical.byContradiction fun present => ?_
    obtain ⟨made, folderMade⟩ := makes present
    have employed := employs made folderMade
    rw [struck] at employed
    exact present employed
  case offline =>
    intro dry
    rw [real] at dry
    cases dry

theorem planned_openings {output : Option String}
    (named : options.output.bind Given.filled? = output)
    (present : options.dryRun = true ∨ output ≠ none)
    (accepted : (accept setting options).run session = (.ok request, admitted))
    (configured : (configure setting options).run admitted = (.ok config, admitted)) :
    ∃ probes workers, ((do
        let statements ← plan setting config request
        if options.dryRun then printStatements statements
        else
          exportRows setting options request config statements (output.getD "")
            completion : Work Unit).run admitted).2.openings =
        session.openings ++ (probes ++ workers) ∧
      Opens setting options session probes workers := by
  have opened : admitted.openings = session.openings :=
    (keeps_accept setting options (fun _ _ => rfl)).of_run accepted
  have known := (configure_ok configured).2
  obtain ⟨probes, planOpened, probed⟩ := plan_openings known (isLegible_of_accept accepted)
  rw [opened] at planOpened probed
  have atMostOnce := probed.atMostOnce accepted
  rw [run_bind]
  rcases planned : (plan setting config request).run admitted with ⟨failure | statements, middle⟩
  · rw [planned] at planOpened
    refine ⟨probes, [], ?_, opens_of_not_exports atMostOnce ?_⟩
    · rw [List.append_nil]
      exact planOpened
    · intro statements middle exports
      rw [exports.planned accepted configured] at planned
      cases planned
  · rw [planned] at planOpened
    dsimp only at planOpened ⊢
    by_cases dry : options.dryRun = true
    · rw [if_pos dry]
      have kept : Keeps Session.openings (printStatements statements) :=
        keeps_printStatements (fun _ _ => rfl) statements
      refine ⟨probes, [], ?_,
        opens_of_not_exports atMostOnce fun _ _ => not_exports_of_dry dry⟩
      rw [List.append_nil]
      exact (kept middle).trans planOpened
    · rw [if_neg dry]
      obtain ⟨folder, rfl⟩ := Option.ne_none_iff_exists'.mp (present.resolve_left dry)
      obtain ⟨workers, exported, opens⟩ := exported_openings (eq_false_of_ne_true dry) named
        accepted configured planned atMostOnce planOpened
      exact ⟨probes, workers, exported, opens⟩

theorem opens_nothing {after : Session} (same : after.openings = session.openings)
    (never : ∀ statements middle, ¬ Exports setting options session statements middle) :
    ∃ probes workers, after.openings = session.openings ++ (probes ++ workers) ∧
      Opens setting options session probes workers := by
  refine ⟨[], [], ?_, opens_of_not_exports (.inl rfl) never⟩
  rw [List.append_nil, List.append_nil]
  exact same

private theorem perform_openings (setting : Setting) (options : Options)
    (completion : Export.Completion) (session : Session) :
    ∃ probes workers, ((perform setting options completion).run session).2.openings =
        session.openings ++ (probes ++ workers) ∧
      Opens setting options session probes workers := by
  have offline : Work.IsBlindToJournal Session.openings := fun _ _ => rfl
  unfold perform
  rw [run_bind]
  rcases accepted : (accept setting options).run session with ⟨failure | request, admitted⟩
  · exact opens_nothing ((keeps_accept setting options offline).of_run accepted)
      fun _ _ => not_exports_of_refused accepted
  · have opened := (keeps_accept setting options offline).of_run accepted
    dsimp only
    by_cases dry : (options.dryRun && !request.isSplit) = true
    · simp only [if_pos dry]
      have kept : Keeps Session.openings (do
          let statements ← Work.planAlone
            (Planning.statements none request (.real setting.probeTime))
          printStatements statements : Work Unit) :=
        (Work.keeps_planAlone offline _).bind fun statements =>
          keeps_printStatements (fun _ _ => rfl) statements
      exact opens_nothing ((kept admitted).trans opened)
        fun _ _ => not_exports_of_dry (Bool.and_eq_true_iff.mp dry).1
    · simp only [if_neg dry]
      rw [run_bind]
      rcases configured : (configure setting options).run admitted with ⟨failure | config, left⟩
      · exact opens_nothing
          (((keeps_configure setting options _).of_run configured).trans opened)
          fun _ _ => not_exports_of_unconfigured accepted configured
      · obtain ⟨rfl, _⟩ := configure_ok configured
        dsimp only
        by_cases missing : (!options.dryRun && (options.output.bind Given.filled?).isNone) = true
        · simp only [if_pos missing]
          have unnamed := Option.isNone_iff_eq_none.mp (Bool.and_eq_true_iff.mp missing).2
          exact opens_nothing opened fun _ _ => not_exports_of_unnamed unnamed
        · simp only [if_neg missing]
          refine planned_openings rfl ?_ accepted configured
          by_cases dryToo : options.dryRun = true
          · exact .inl dryToo
          · refine .inr fun absent => missing ?_
            rw [absent, eq_false_of_ne_true dryToo]
            rfl

/-- A run opens at most one probe and, behind it, one worker for each statement that it exports,
if it has a count of workers; and it leaves no connection and no cursor open. -/
theorem commandLineIn_openings (setting : Setting) (arguments : List String)
    (completion : Export.Completion) (session : Session) :
    match Options.read setting.environment arguments with
    | .options options => ∃ probes workers,
        (commandLineIn setting arguments completion session).2.openings =
            session.openings ++ (probes ++ workers) ∧
          Opens setting options session probes workers
    | _ => (commandLineIn setting arguments completion session).2.openings =
        session.openings := by
  have coded (failure : Failure) : Keeps Session.openings (codeFor failure) :=
    keeps_codeFor (fun _ _ => rfl) failure
  unfold commandLineIn
  cases Options.read setting.environment arguments with
  | exit exit => rfl
  | failure failure => exact coded failure session
  | options options =>
      obtain ⟨probes, workers, opened, opens⟩ := perform_openings setting options completion session
      refine ⟨probes, workers, ?_, opens⟩
      rw [← opened]
      dsimp only
      rw [performCoded_run]
      rcases (perform setting options completion).run session with ⟨failure | _, middle⟩
      · exact coded failure middle
      · rfl

/-- With a struck count of workers one statement is built and its folder can be made, but no
worker opens a connection for it. -/
theorem commandLineIn_unopened_of_struck :
    let setting : Setting := .timeless { Behaviour.silent with
      defaultReply := some (.table ⟨["id"], [[.integer 1]]⟩) }
    let arguments :=
      ["--connectionUrl=sqlite:///src.db", "--table=t", "--output=out", "--maxWorkers=--"]
    ∃ options statements middle,
      Options.read setting.environment arguments = .options options ∧
      Exports setting options .empty statements middle ∧
      statements = ["SELECT * FROM t WHERE 1=1"] ∧
      ¬ ∃ workers,
        (commandLineIn setting arguments id .empty).2.openings = middle.openings ++ workers ∧
          EachServed setting.database middle.openings.length statements workers := by
  intro setting arguments
  have read : Options.read setting.environment arguments = .options
      { Options.defaults with
        connectionUrl := some (.value "sqlite:///src.db")
        table := some (.value "t")
        output := some (.value "out")
        maxWorkers := .struck } := by decide +kernel
  have opened : (commandLineIn setting arguments id .empty).2.openings = [] := by decide +kernel
  let request : Query.Request :=
    { source := .table ⟨"t", by decide⟩
      tableName := some "t"
      limit := none
      partition := none
      partitionColumn := none
      partitionPeriod := Calendar.Period.oneDay
      splitColumn := none
      parallelism := none }
  let config : Config :=
    { databaseType := "sqlite"
      host := none
      port := none
      username := none
      password := none
      database := some "/src.db"
      timeout := some 30 }
  refine ⟨_, ["SELECT * FROM t WHERE 1=1"], .empty, read, ?_, rfl, ?_⟩
  · have made : Session.empty.files.ensureFolder "out" =
        .ok (Files.Tree.empty.put ["out"] .folder) := ok_of_toOption (by decide +kernel)
    exact ⟨rfl, ⟨"out", _, by decide, made⟩, request, .empty, config,
      run_of_toOption (by decide +kernel), run_of_toOption (by decide +kernel),
      run_of_toOption (by decide +kernel)⟩
  · rintro ⟨workers, behind, served⟩
    rw [opened] at behind
    obtain ⟨_, rfl⟩ := List.append_eq_nil_iff.mp behind.symm
    cases served

-- the first statement is refused, the second has one row
example :
    (commandLineIn
      (.timeless { Behaviour.silent with
        row := some [.integer 1, .integer 10]
        replies := [("SELECT * FROM t WHERE 1=1 AND x >= 1 AND x <= 5", .refusal "gone")]
        defaultReply := some (.table ⟨["x"], [[.integer 6]]⟩) })
      ["--connectionUrl", "sqlite:///db", "--table", "t", "--splitColumn", "x",
        "--queryParallelism", "2", "--output", "out"] id .empty).2.openings.map Opening.calls =
      [[.execute "SELECT MIN(x), MAX(x) FROM (SELECT * FROM t WHERE 1=1)", .fetchOne,
          .closeCursor, .closeConnection],
        [.execute "SELECT * FROM t WHERE 1=1 AND x >= 1 AND x <= 5",
          .closeCursor, .closeConnection],
        [.execute "SELECT * FROM t WHERE 1=1 AND x >= 6 AND x <= 10",
          .fetchMany (.value 10000), .fetchMany (.value 10000),
          .closeCursor, .closeConnection]] := by
  decide +kernel

end Running

end TableExport.Run
