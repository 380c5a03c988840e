import TableExport.Proofs.Database.Dialogue
import TableExport.Proofs.Log.Legibility
import TableExport.Proofs.Plan.Steps

/-!
The calls of a plan, whatever becomes of it. Only the probe holds a dialogue, so
a split plan asks one statement over its connection, if its request has one to
ask, and the journal is set up after the plan as it was before. A plan that
succeeds has told how many statements there are, so their count has a text.
-/

set_option autoImplicit false

namespace TableExport.Planning

open TableExport.Text
open TableExport.Query
open TableExport.Database
open TableExport.Log
open TableExport.Sequence

/-- The statement that a split request asks for its bounds with, unless some part of its
statements has no text. -/
def probeStatement? (request : Request) : Option String :=
  match request.filteredStatement, request.limitClause with
  | .ok filtered, .ok _ => some (boundsStatement filtered request.shownSplitColumn)
  | _, _ => none

section Keeping

variable {View : Type} {view : Exchange → View}

private theorem keeps_divide (telling : ∀ event, Keeps view (tell event)) (whole : KeyRange)
    (parallelism : Int) : Keeps view (divide whole parallelism) := by
  have divided : Keeps view (if whole.low < whole.high then do
        tell (.rangeDivided whole.low whole.high (whole.divided parallelism).length
          (KeyRange.partWidth (whole.high - whole.low) parallelism) parallelism)
        pure (whole.divided parallelism)
      else pure (whole.divided parallelism) : Planning (List KeyRange)) := by
    split
    · exact (telling _).bind fun _ => keeps_pure view _
    · exact keeps_pure view _
  unfold divide
  by_cases refused : parallelism ≤ 0
  · simp only [if_pos refused]
    refine (keeps_ofExcept view _).bind fun shown => ?_
    exact (keeps_throw view _).bind fun _ => divided
  · simp only [if_neg refused]
    exact divided

theorem keeps_answered (telling : ∀ event, Keeps view (tell event)) (column sql : String)
    (duration : Cell) (answer : Except Refusal (Option (List Cell))) :
    Keeps view (do
      let range ← ofExcept (rangeOfAnswer column sql answer)
      tell (.probeCompleted (.text column) (.integer range.low) (.integer range.high) duration)
      pure range : Planning KeyRange) :=
  (keeps_ofExcept view _).bind fun range => (telling _).bind fun _ => keeps_pure view range

theorem keeps_counted (telling : ∀ event, Keeps view (tell event)) (request : Request)
    (built : List String) :
    Keeps view (do
      tell (.queriesBuilt (.integer built.length) (request.parallelism.elim .null Cell.integer))
      pure built : Planning (List String)) :=
  (telling _).bind fun _ => keeps_pure view built

private theorem keeps_dividedBy (telling : ∀ event, Keeps view (tell event)) (range : KeyRange)
    (parallelism : Option Int) :
    Keeps view (match parallelism with
      | none => throw .absentCount
      | some parallelism => divide range parallelism : Planning (List KeyRange)) := by
  cases parallelism with
  | none => exact keeps_throw view _
  | some parallelism => exact keeps_divide telling range parallelism

private theorem keeps_statements (telling : ∀ event, Keeps view (tell event))
    (conversing : ∀ dialogue : Dialogue (Option (List Cell)), Keeps view (converse dialogue))
    (connection : Option Behaviour) (request : Request) (duration : Cell) :
    Keeps view (statements connection request duration) := by
  have counted := keeps_counted telling request
  have ranged : Keeps view (splitRanges connection request duration) := by
    cases connection with
    | none => exact keeps_throw view _
    | some behaviour =>
        refine (keeps_ofExcept view _).bind fun filtered => ?_
        refine Keeps.bind ?_ fun range => keeps_dividedBy telling range request.parallelism
        exact (conversing _).bind fun answer => keeps_answered telling _ _ duration answer
  unfold statements
  refine (keeps_ofExcept view _).bind fun filtered => (keeps_ofExcept view _).bind fun limit => ?_
  by_cases split : request.isSplit
  · simp only [if_pos split]
    exact ranged.bind fun ranges => (keeps_ofExcept view _).bind counted
  · simp only [if_neg split]
    exact counted _

end Keeping

theorem keeps_setup_statements (connection : Option Behaviour) (request : Request)
    (duration : Cell) :
    Keeps (fun exchange => exchange.journal.setup) (statements connection request duration) := by
  refine keeps_statements (fun event exchange => ?_) (fun dialogue exchange => ?_) connection
    request duration
  · rw [tell_run]
    exact tell_setup exchange.journal event
  · rw [converse_run]

private theorem keeps_calls_tell (event : Event) : Keeps Exchange.calls (tell event) := by
  intro exchange
  rw [tell_run]

theorem probe_calls (behaviour : Behaviour) (filtered column : String) (duration : Cell)
    (exchange : Exchange) :
    ((probe behaviour filtered column duration).run exchange).2.calls =
      ((Dialogue.askBounds behaviour (boundsStatement filtered column)).run
        exchange.calls).2 := by
  have answered := view_bind
    (keeps_answered keeps_calls_tell column (boundsStatement filtered column) duration)
    (converse (Dialogue.askBounds behaviour (boundsStatement filtered column))) exchange
  rw [converse_run] at answered
  exact answered

private theorem splitRanges_calls {request : Request} {filtered : String}
    (filtering : request.filteredStatement = .ok filtered) (behaviour : Behaviour)
    (duration : Cell) (exchange : Exchange) :
    ((splitRanges (some behaviour) request duration).run exchange).2.calls =
      ((Dialogue.askBounds behaviour (boundsStatement filtered request.shownSplitColumn)).run
        exchange.calls).2 := by
  have divided := view_bind
    (fun range => keeps_dividedBy keeps_calls_tell range request.parallelism)
    (probe behaviour filtered request.shownSplitColumn duration) exchange
  rw [probe_calls] at divided
  rw [splitRanges, filtering, run_bind, run_ofExcept]
  exact divided

/-- A split plan over a connection asks at most its one statement. -/
theorem asked_statements {request : Request} (split : request.isSplit = true)
    (behaviour : Behaviour) (duration : Cell) (journal : Journal) :
    Asked behaviour (probeStatement? request)
      ((statements (some behaviour) request duration).run ⟨journal, []⟩).2.calls := by
  unfold statements probeStatement?
  rw [run_bind, run_ofExcept]
  rcases filtering : request.filteredStatement with fault | filtered
  · exact .nothing
  · dsimp only
    rw [run_bind, run_ofExcept]
    rcases limiting : request.limitClause with fault | limit
    · exact .nothing
    · have later (ranges : List KeyRange) : Keeps Exchange.calls (do
          let built ← ofExcept
            (ranges.mapM (rangedStatement filtered request.shownSplitColumn limit))
          tell (.queriesBuilt (.integer built.length)
            (request.parallelism.elim .null Cell.integer))
          pure built : Planning (List String)) :=
        (keeps_ofExcept _ _).bind (keeps_counted keeps_calls_tell request)
      simp only [if_pos split]
      rw [view_bind later, splitRanges_calls filtering]
      exact Dialogue.asked_askBounds behaviour _

private theorem isWritable_of_counted {count : Int} {parallelism : Cell} {text : String}
    (counted : Event.text (.queriesBuilt (.integer count) parallelism) = .ok text) :
    Numeral.IsWritable count := by
  simp only [Event.text, bind_ok_iff] at counted
  obtain ⟨reduced, _, shown⟩ := counted
  split at shown
  · rw [bind_ok_iff] at shown
    obtain ⟨built, found, _⟩ := shown
    exact isWritable_of_shown found
  · rw [bind_ok_iff] at shown
    obtain ⟨built, found, _⟩ := shown
    exact isWritable_of_shown found

theorem isWritable_of_statements {connection : Option Behaviour} {request : Request}
    {duration : Cell} {exchange after : Exchange} {built : List String}
    (ran : (statements connection request duration).run exchange = (.ok built, after)) :
    Numeral.IsWritable built.length := by
  have counted {middle : Exchange} {listed : List String}
      (ended : (do
        tell (.queriesBuilt (.integer listed.length)
          (request.parallelism.elim .null Cell.integer))
        pure listed : Planning (List String)).run middle = (.ok built, after)) :
      Numeral.IsWritable built.length := by
    rw [run_bind_ok_iff] at ended
    obtain ⟨_, left, telling, finished⟩ := ended
    cases finished
    rw [tell_run] at telling
    have told := (Prod.mk.inj telling).1
    rw [mapError_ok_iff] at told
    obtain ⟨text, shown⟩ := (isLegible_of_told rfl told).1
    exact isWritable_of_counted shown
  unfold statements at ran
  rw [run_bind_ok_iff] at ran
  obtain ⟨filtered, _, _, ran⟩ := ran
  rw [run_bind_ok_iff] at ran
  obtain ⟨limit, _, _, ran⟩ := ran
  by_cases split : request.isSplit
  · simp only [if_pos split] at ran
    rw [run_bind_ok_iff] at ran
    obtain ⟨ranges, _, _, ran⟩ := ran
    rw [run_bind_ok_iff] at ran
    obtain ⟨listed, _, _, ended⟩ := ran
    exact counted ended
  · simp only [if_neg split] at ran
    exact counted ran

end TableExport.Planning
