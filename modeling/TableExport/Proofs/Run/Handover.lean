import TableExport.Proofs.Run.Steps

/-!
What a run hands over to its export: the request, the configuration, the
statements in their order, and the place for the rows. A run either comes to
hand them over, or it does not depend on what its export is.
-/

set_option autoImplicit false

namespace TableExport.Run

open TableExport.Connection
open TableExport.Sequence

structure Handover where
  request : Query.Request
  config : Config
  statements : List String
  output : String

/-- A run whose export is left open. -/
def performWith (setting : Setting) (options : Options) (exporting : Handover → Work Unit) :
    Work Unit := do
  let request ← accept setting options
  if options.dryRun && !request.isSplit then
    let statements ← Work.planAlone
      (Planning.statements none request (.real setting.probeTime))
    printStatements statements
  else
    let config ← configure setting options
    let output := options.output.bind Given.filled?
    if !options.dryRun && output.isNone then throw (.configuration .outputMissing)
    let statements ← plan setting config request
    if options.dryRun then printStatements statements
    else exporting ⟨request, config, statements, output.getD ""⟩

def exportHanded (setting : Setting) (options : Options) (completion : Export.Completion)
    (handover : Handover) : Work Unit :=
  exportRows setting options handover.request handover.config handover.statements
    handover.output completion

theorem perform_eq (setting : Setting) (options : Options) (completion : Export.Completion) :
    perform setting options completion =
      performWith setting options (exportHanded setting options completion) := rfl

/-- A run hands over in the middle: whatever the export is, the run comes to what the export
makes there of what is handed over. -/
def HandsOver (setting : Setting) (options : Options) (session : Session)
    (handover : Handover) (middle : Session) : Prop :=
  ∀ exporting, (performWith setting options exporting).run session =
    (exporting handover).run middle

structure Reaches (setting : Setting) (options : Options) (session : Session)
    (handover : Handover) (middle : Session) : Prop where
  real : options.dryRun = false
  named : options.output.bind Given.filled? = some handover.output
  built : ∃ admitted, (accept setting options).run session = (.ok handover.request, admitted) ∧
    (configure setting options).run admitted = (.ok handover.config, admitted) ∧
    (plan setting handover.config handover.request).run admitted =
      (.ok handover.statements, middle)

section Reaching

variable {setting : Setting} {options : Options} {session middle : Session}
  {handover : Handover}

theorem Reaches.handsOver (reaches : Reaches setting options session handover middle) :
    HandsOver setting options session handover middle := by
  intro exporting
  obtain ⟨admitted, accepted, configured, planned⟩ := reaches.built
  simp only [performWith, run_bind, accepted, configured, planned, reaches.real, reaches.named,
    Bool.false_and, Bool.not_false, Bool.true_and, Option.isNone_some, Bool.false_eq_true,
    if_false, Option.getD_some]

theorem Reaches.unique {other : Handover} {otherMiddle : Session}
    (reaches : Reaches setting options session handover middle)
    (reachesToo : Reaches setting options session other otherMiddle) :
    other = handover ∧ otherMiddle = middle := by
  obtain ⟨request, config, statements, output⟩ := handover
  obtain ⟨admitted, accepted, configured, planned⟩ := reaches.built
  obtain ⟨admittedToo, acceptedToo, configuredToo, plannedToo⟩ := reachesToo.built
  have named := reaches.named.symm.trans reachesToo.named
  cases other
  cases named
  cases accepted.symm.trans acceptedToo
  cases configured.symm.trans configuredToo
  cases planned.symm.trans plannedToo
  exact ⟨rfl, rfl⟩

theorem reaches_or_independent (setting : Setting) (options : Options) (session : Session) :
    (∃ handover middle, Reaches setting options session handover middle) ∨
      ∀ first second, (performWith setting options first).run session =
        (performWith setting options second).run session := by
  rcases accepted : (accept setting options).run session with ⟨failure | request, admitted⟩
  · refine .inr fun first second => ?_
    simp only [performWith, run_bind, accepted]
  by_cases alone : (options.dryRun && !request.isSplit) = true
  · refine .inr fun first second => ?_
    simp only [performWith, run_bind, accepted, if_pos alone]
  rcases configured : (configure setting options).run admitted with ⟨failure | config, left⟩
  · refine .inr fun first second => ?_
    simp only [performWith, run_bind, accepted, if_neg alone, configured]
  obtain ⟨rfl, _⟩ := configure_ok configured
  by_cases missing : (!options.dryRun && (options.output.bind Given.filled?).isNone) = true
  · refine .inr fun first second => ?_
    simp only [performWith, run_bind, accepted, if_neg alone, configured, if_pos missing]
    rfl
  rcases planned : (plan setting config request).run left with ⟨failure | statements, middle⟩
  · refine .inr fun first second => ?_
    simp only [performWith, run_bind, accepted, if_neg alone, configured, if_neg missing,
      planned]
  by_cases dry : options.dryRun = true
  · refine .inr fun first second => ?_
    simp only [performWith, run_bind, accepted, if_neg alone, configured, if_neg missing,
      planned, if_pos dry]
  have real := eq_false_of_ne_true dry
  rw [real, Bool.not_false, Bool.true_and, Option.isNone_iff_eq_none] at missing
  obtain ⟨output, named⟩ := Option.ne_none_iff_exists'.mp missing
  exact .inl ⟨⟨request, config, statements, output⟩, middle, real, named, left, accepted,
    configured, planned⟩

theorem HandsOver.reaches (handsOver : HandsOver setting options session handover middle) :
    Reaches setting options session handover middle := by
  rcases reaches_or_independent setting options session with
    ⟨other, otherMiddle, reaches⟩ | independent
  · -- an export that takes nothing else tells one handover from another
    classical
    have same := (reaches.handsOver fun handed =>
        if handed = handover then pure () else throw .struckCount).symm.trans (handsOver _)
    by_cases taken : other = handover
    · rw [if_pos taken, if_pos rfl] at same
      cases same
      rwa [← taken]
    · rw [if_neg taken, if_pos rfl] at same
      cases same
  · have succeeds := handsOver fun _ => pure ()
    rw [independent _ fun _ => throw .struckCount, handsOver fun _ => throw .struckCount]
      at succeeds
    cases succeeds

end Reaching

def splitOptions (url : String) : Options :=
  { Options.defaults with
    connectionUrl := some (.value url)
    table := some (.value "t")
    splitColumn := some (.value "x")
    parallelism := some (.value 2)
    output := some (.value "out") }

def splitHandover : Handover where
  request :=
    { source := .table ⟨"t", by decide⟩
      tableName := some "t"
      limit := none
      partition := none
      partitionColumn := none
      partitionPeriod := Calendar.Period.oneDay
      splitColumn := some (.value "x")
      parallelism := some 2 }
  config :=
    { databaseType := "sqlite"
      host := none
      port := none
      username := none
      password := none
      database := some "/db"
      timeout := some 30 }
  statements :=
    ["SELECT * FROM t WHERE 1=1 AND x >= 1 AND x <= 5",
      "SELECT * FROM t WHERE 1=1 AND x >= 6 AND x <= 10"]
  output := "out"

end TableExport.Run
