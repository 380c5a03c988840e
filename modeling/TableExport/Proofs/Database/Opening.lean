import TableExport.Database.Opening
import TableExport.Proofs.Database.Dialogue

/-!
Openings and what is called on them. An opening that is refused, or that comes
to nothing, has no calls; any other one is closed, once, after all else that is
called on it.
-/

set_option autoImplicit false

namespace TableExport.Database

open TableExport.Connection

def Behaviour.Connects (behaviour : Behaviour) (number : Nat) : Prop :=
  behaviour.openingRefusal number = none ∧ behaviour.connectsNull = false

inductive Served (behaviour : Behaviour) (number : Nat) (statement? : Option String) :
    List Call → Prop
  | unconnected (failed : ¬ behaviour.Connects number) : Served behaviour number statement? []
  | closed {made : List Call} (connects : behaviour.Connects number)
      (asked : Asked behaviour statement? made) :
      Served behaviour number statement? (made ++ [.closeConnection])

variable {behaviour : Behaviour} {config : Config} {number : Nat}

theorem attempt_refused {target : Target} {failure : Failure}
    (attempted : attempt behaviour config number = .refused target failure) :
    ¬ behaviour.Connects number := by
  intro connects
  unfold attempt at attempted
  split at attempted
  · cases attempted
  · rw [connects.1] at attempted
    dsimp only at attempted
    split at attempted
    · cases attempted
    · cases attempted

theorem attempt_absent {kind : DatabaseKind} {target : Target}
    (attempted : attempt behaviour config number = .absent kind target) :
    ¬ behaviour.Connects number := by
  intro connects
  unfold attempt at attempted
  split at attempted
  · cases attempted
  · rw [connects.1, connects.2] at attempted
    cases attempted

theorem attempt_ready {kind : DatabaseKind} {target : Target}
    (attempted : attempt behaviour config number = .ready kind target) :
    behaviour.Connects number := by
  unfold attempt at attempted
  split at attempted
  · cases attempted
  · dsimp only at attempted
    split at attempted
    · cases attempted
    · rename_i refusal
      by_cases null : behaviour.connectsNull = true
      · rw [if_pos null] at attempted
        cases attempted
      · exact ⟨refusal, eq_false_of_ne_true null⟩

theorem attempt_unsupported {failure : Failure}
    (attempted : attempt behaviour config number = .unsupported failure) :
    DatabaseKind.ofName? config.databaseType = none := by
  unfold attempt at attempted
  split at attempted
  · assumption
  · dsimp only at attempted
    split at attempted
    · cases attempted
    · split at attempted
      · cases attempted
      · cases attempted

end TableExport.Database
