import TableExport.Proofs.Export.Steps
import TableExport.Proofs.Session.Agreement

/-!
Exports of two runs. The outcomes of the statements are alike when they are the
same but for the targets of their openings; then they are kept alike, and
nothing that is concluded from them differs.
-/

set_option autoImplicit false

namespace TableExport.Export

open TableExport.Connection
open TableExport.Database
open TableExport.Log
open TableExport.Sequence

structure Outcome.Alike (targets : Target → Target → Prop) (one other : Outcome) : Prop where
  index : one.index = other.index
  opening : Option.Rel (Opening.Alike targets) one.opening other.opening
  connected : one.connected = other.connected
  rows : one.rows = other.rows
  place : one.place = other.place

abbrev AlikeOutcomeLists (targets : Target → Target → Prop) (left right : List Outcome) : Prop :=
  List.Forall₂ (Outcome.Alike targets) left right

variable {journals : Journal → Journal → Prop} {targets : Target → Target → Prop}

section Trying

theorem outcomeOf_alike {first second : Config} (alike : first.Alike targets second)
    (behaviour : Behaviour) (number index : Nat) (sql : String) (fetchSize : Given Int) :
    (outcomeOf behaviour first number index sql fetchSize).Alike targets
      (outcomeOf behaviour second number index sql fetchSize) := by
  have attempts := alike.attempts behaviour number
  unfold outcomeOf
  rw [alike.database]
  generalize attempt behaviour first number = attempted at attempts
  generalize attempt behaviour second number = attemptedToo at attempts
  cases attempts with
  | unsupported failure => exact ⟨rfl, .none, rfl, rfl, rfl⟩
  | refused same failure => exact ⟨rfl, .some ⟨same, rfl⟩, rfl, rfl, rfl⟩
  | absent kind same => exact ⟨rfl, .some ⟨same, rfl⟩, rfl, rfl, rfl⟩
  | ready kind same => exact ⟨rfl, .some ⟨same, rfl⟩, rfl, rfl, rfl⟩

private theorem placed_alike {one other : Outcome} (alike : one.Alike targets other)
    (files : Files.Tree) (home : Option String) (folder : List String) :
    (one.placed files home folder).Alike targets (other.placed files home folder) := by
  unfold Outcome.placed
  rw [alike.rows, alike.index]
  cases rows : other.rows with
  | error failure => exact alike
  | ok frame =>
      dsimp only
      cases partPlace files home (Files.childText folder (partFileName other.index)) frame with
      | error failure => exact { alike with index := rfl, rows := rfl }
      | ok place => exact { alike with index := rfl, rows := rfl, place := rfl }

theorem outcomes_alike {first second : Trial}
    (tried : ∀ number index sql,
      (first number index sql).Alike targets (second number index sql))
    (files : Files.Tree) (home : Option String) (folder : List String) (opened : Nat)
    (statements : List String) :
    AlikeOutcomeLists targets
      ((outcomesOf first opened statements).map (Outcome.placed files home folder))
      ((outcomesOf second opened statements).map (Outcome.placed files home folder)) := by
  unfold outcomesOf
  rw [List.map_map, List.map_map, AlikeOutcomeLists, List.forall₂_map_left_iff,
    List.forall₂_map_right_iff, List.forall₂_same]
  intro entry _
  exact placed_alike (tried _ _ _) files home folder

end Trying

private theorem agree_keepRows {one other : Outcome} (alike : one.Alike targets other) :
    Agree (Session.Related journals targets) Eq (keepRows one) (keepRows other) := by
  unfold keepRows
  rw [alike.rows, alike.place]
  split
  · refine agree_modify fun left right related => { related with parts := ?_ }
    dsimp only
    rw [related.parts]
  · exact agree_pure rfl

private theorem agree_keepAttempt {one other : Option Opening}
    (alike : Option.Rel (Opening.Alike targets) one other) :
    Agree (Session.Related journals targets) Eq (keepAttempt one) (keepAttempt other) := by
  cases alike with
  | none => exact agree_pure rfl
  | @some opening openingToo same =>
      obtain ⟨target, calls⟩ := opening
      obtain ⟨targetsAlike, rfl⟩ := same
      exact Work.agree_keepOpening targetsAlike openingToo.calls

theorem agree_forM_keepOutcome {left right : List Outcome}
    (connects : ∀ connected, Agree (Session.Related journals targets) Eq
      (tellConnected connected) (tellConnected connected))
    (alike : AlikeOutcomeLists targets left right) :
    Agree (Session.Related journals targets) Eq (left.forM keepOutcome)
      (right.forM keepOutcome) := by
  induction alike with
  | nil => exact agree_pure rfl
  | cons same _ inductionHypothesis =>
      refine Agree.bind_same ?_ fun _ => inductionHypothesis
      refine (agree_keepAttempt same.opening).bind_same fun _ => ?_
      rw [same.connected]
      exact (connects _).bind_same fun _ => agree_keepRows same

section Concluding

variable {left right : List Outcome}

private theorem event_alike {one other : Outcome} (alike : one.Alike targets other)
    (duration : Number.Binary64) : one.event duration = other.event duration := by
  unfold Outcome.event
  rw [alike.rows, alike.index]

theorem collect_alike (alike : AlikeOutcomeLists targets left right)
    (duration : Number.Binary64) : collect duration left = collect duration right := by
  induction alike with
  | nil => rfl
  | cons same _ inductionHypothesis =>
      rw [collect, collect, event_alike same, inductionHypothesis]

private theorem filterMap_alike {Value : Type} {pick : Outcome → Option Value}
    (blind : ∀ one other : Outcome, one.Alike targets other → pick one = pick other)
    (alike : AlikeOutcomeLists targets left right) :
    left.filterMap pick = right.filterMap pick := by
  induction alike with
  | nil => rfl
  | cons same _ inductionHypothesis =>
      rw [List.filterMap_cons, List.filterMap_cons, blind _ _ same, inductionHypothesis]

private theorem totalRows_alike (alike : AlikeOutcomeLists targets left right) :
    totalRows left = totalRows right := by
  induction alike with
  | nil => rfl
  | cons same _ inductionHypothesis =>
      rw [totalRows, totalRows, Outcome.rowCount, Outcome.rowCount, same.rows,
        inductionHypothesis]

theorem conclude_alike (alike : AlikeOutcomeLists targets left right) (folder : List String)
    (duration : Number.Binary64) :
    conclude folder duration left = conclude folder duration right := by
  have failed : failures left = failures right :=
    filterMap_alike (fun one other same => by rw [same.rows, same.index]) alike
  have done : succeeded left = succeeded right :=
    congrArg sorted
      (filterMap_alike (fun one other same => by rw [same.rows, same.index]) alike)
  unfold conclude
  rw [failed, done, totalRows_alike alike, alike.length_eq]

theorem agree_conclude (keeps : KeepsTelling journals) (folder : List String)
    (duration : Number.Binary64) (outcomes : List Outcome) :
    Agree (Session.Related journals targets) Eq (conclude folder duration outcomes)
      (conclude folder duration outcomes) := by
  unfold conclude
  dsimp only
  split
  · exact (Work.agree_tell keeps ⟨.error, rfl⟩).bind_same fun _ => agree_throw _
  · exact (Work.agree_tell keeps ⟨.info, rfl⟩).bind_same fun _ => agree_pure rfl

end Concluding

end TableExport.Export
