import TableExport.Proofs.Plan.Steps
import TableExport.Proofs.Sequence.Effects

/-!
What planning can fail with. The options are read and checked before anything is
planned, so a plan fails through the request, the database or the journal, and
never in a way that the options are to blame for.
-/

set_option autoImplicit false

namespace TableExport

open TableExport.Database
open TableExport.Log
open TableExport.Sequence

/-- Failures that end a run with the code of a wrong configuration. -/
def Failure.BlamesOptions : Failure → Prop
  | .configuration _ => True
  | .literal _ => True
  | _ => False

def Failure.SparesOptions (failure : Failure) : Prop :=
  ¬ failure.BlamesOptions

namespace Planning

open TableExport.Query

theorem failsOnly_tell {way : Failure → Prop} (held : ∀ fault, way (.cell fault))
    (event : Event) : FailsOnly way (tell event) := by
  intro exchange failure after ran
  rw [tell_run] at ran
  obtain ⟨same, _⟩ := Prod.mk.inj ran
  exact refusesOnly_mapError held _ failure same

private theorem partitionCondition_spares (request : Request) :
    RefusesOnly Failure.SparesOptions request.partitionCondition := by
  unfold Request.partitionCondition
  split
  · exact refusesOnly_ok _ _
  · exact refusesOnly_ok _ _
  · exact refusesOnly_error not_false

private theorem filteredStatement_spares (request : Request) :
    RefusesOnly Failure.SparesOptions request.filteredStatement :=
  (partitionCondition_spares request).bind fun _ => refusesOnly_ok _ _

private theorem limitClause_spares (request : Request) :
    RefusesOnly Failure.SparesOptions request.limitClause := by
  unfold Request.limitClause
  split
  · exact refusesOnly_ok _ _
  · split
    · exact refusesOnly_ok _ _
    · exact refusesOnly_error not_false

private theorem rangedStatement_spares (filtered column limit : String) (range : KeyRange) :
    RefusesOnly Failure.SparesOptions (rangedStatement filtered column limit range) := by
  unfold rangedStatement
  split
  · exact refusesOnly_ok _ _
  · exact refusesOnly_error not_false

private theorem notNumeric_spares (column : String) (low high : Cell) :
    (notNumeric column low high).SparesOptions := by
  unfold notNumeric
  split
  · exact not_false
  · exact not_false
  · exact not_false

private theorem rangeBetween_spares (column : String) (low high : Cell) :
    RefusesOnly Failure.SparesOptions (rangeBetween column low high) := by
  have tooLong : RefusesOnly Failure.SparesOptions
      (.error boundTooLong : Except Failure KeyRange) := refusesOnly_error not_false
  have notNumber : RefusesOnly Failure.SparesOptions
      (.error (notNumeric column low high) : Except Failure KeyRange) :=
    refusesOnly_error (notNumeric_spares column low high)
  unfold rangeBetween
  split
  · exact tooLong
  · split
    · exact notNumber
    · split
      · exact tooLong
      · split
        · exact notNumber
        · exact refusesOnly_ok _ _

private theorem rangeOfAnswer_spares (column sql : String)
    (answer : Except Refusal (Option (List Cell))) :
    RefusesOnly Failure.SparesOptions (rangeOfAnswer column sql answer) := by
  unfold rangeOfAnswer
  split
  · exact refusesOnly_error not_false
  · exact refusesOnly_error not_false
  · exact refusesOnly_error not_false
  · exact refusesOnly_error not_false
  · exact rangeBetween_spares column _ _

private theorem probe_spares (behaviour : Behaviour) (filtered column : String) (duration : Cell) :
    FailsOnly Failure.SparesOptions (probe behaviour filtered column duration) := by
  unfold probe
  refine FailsOnly.bind ?_ fun answer => ?_
  · intro exchange failure after ran
    rw [converse_run] at ran
    cases ran
  · refine (failsOnly_ofExcept (rangeOfAnswer_spares column _ answer)).bind fun range => ?_
    exact (failsOnly_tell (fun _ => not_false) _).bind fun _ => failsOnly_pure _ range

private theorem divide_spares (whole : KeyRange) (parallelism : Int) :
    FailsOnly Failure.SparesOptions (divide whole parallelism) := by
  have unwritten (fault : Text.Numeral.Fault) : (Failure.numeral fault).SparesOptions :=
    not_false
  have refusal {shown : String} : (Failure.partsNotPositive shown).SparesOptions := not_false
  have divided : FailsOnly Failure.SparesOptions (if whole.low < whole.high then do
        tell (.rangeDivided whole.low whole.high (whole.divided parallelism).length
          (KeyRange.partWidth (whole.high - whole.low) parallelism) parallelism)
        pure (whole.divided parallelism)
      else pure (whole.divided parallelism) : Planning (List KeyRange)) := by
    split
    · exact (failsOnly_tell (fun _ => not_false) _).bind fun _ => failsOnly_pure _ _
    · exact failsOnly_pure _ _
  unfold divide
  by_cases refused : parallelism ≤ 0
  · simp only [if_pos refused]
    refine (failsOnly_ofExcept (refusesOnly_mapError unwritten _)).bind fun shown => ?_
    exact (failsOnly_throw refusal).bind fun _ => divided
  · simp only [if_neg refused]
    exact divided

private theorem splitRanges_spares (connection : Option Behaviour) (request : Request)
    (duration : Cell) :
    FailsOnly Failure.SparesOptions (splitRanges connection request duration) := by
  unfold splitRanges
  cases connection with
  | none => exact failsOnly_throw not_false
  | some behaviour =>
      refine (failsOnly_ofExcept (filteredStatement_spares request)).bind fun filtered => ?_
      refine (probe_spares behaviour filtered _ duration).bind fun range => ?_
      cases request.parallelism with
      | none => exact failsOnly_throw not_false
      | some parallelism => exact divide_spares range parallelism

/-- Planning never fails through the options. -/
theorem statements_spares (connection : Option Behaviour) (request : Request)
    (duration : Cell) :
    FailsOnly Failure.SparesOptions (statements connection request duration) := by
  have counted (built : List String) : FailsOnly Failure.SparesOptions (do
      tell (.queriesBuilt (.integer built.length) (request.parallelism.elim .null Cell.integer))
      pure built : Planning (List String)) :=
    (failsOnly_tell (fun _ => not_false) _).bind fun _ => failsOnly_pure _ built
  unfold statements
  refine (failsOnly_ofExcept (filteredStatement_spares request)).bind fun filtered => ?_
  refine (failsOnly_ofExcept (limitClause_spares request)).bind fun limit => ?_
  by_cases split : request.isSplit
  · simp only [if_pos split]
    refine (splitRanges_spares connection request duration).bind fun ranges => ?_
    refine FailsOnly.bind ?_ counted
    exact failsOnly_ofExcept (RefusesOnly.mapM (rangedStatement_spares filtered _ limit) ranges)
  · simp only [if_neg split]
    exact counted _

end Planning

end TableExport
