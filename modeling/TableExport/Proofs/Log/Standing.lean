import Mathlib.Algebra.Ring.Int.Defs
import Mathlib.Data.List.DropRight
import TableExport.Proofs.Log.Tracking

/-!
The export as it stands after a history of events. It is the one that was set
last, unless it was cleared since; what counts for it are the outcomes told of
since then. A journal holds just this in its progress, because each event takes
the one to the other, whether it is written or not.
-/

set_option autoImplicit false

namespace TableExport.Log

open TableExport.Text
open TableExport.Number
open TableExport.Sequence

structure Standing where
  name : Cell
  total : Cell
  completed : Nat
  failed : Nat
  rows : Int
deriving DecidableEq, Repr

def Standing.progress (standing : Standing) : Progress :=
  ⟨standing.name, standing.total, standing.completed, standing.failed, .integer standing.rows⟩

namespace Event

/-- Whether an event goes on with the export under way: it neither sets another one nor clears
it. -/
def goesOn : Event → Bool
  | .exportStarted .. => false
  | .progressSet .. => false
  | .progressCleared => false
  | _ => true

def opened? : Event → Option (Cell × Cell)
  | .exportStarted name total _ => some (name, total)
  | .progressSet name total => some (name, total)
  | _ => none

def completes : Event → Bool
  | .queryCompleted .. => true
  | _ => false

def fails : Event → Bool
  | .queryFailed .. => true
  | _ => false

def rows : Event → Int
  | .queryCompleted _ (.integer count) _ => count
  | _ => 0

def IsCounted : Event → Prop
  | .queryCompleted _ rows _ => ∃ count, rows = .integer count
  | _ => True

end Event

def Standing.tally (since : List Event) (opened : Cell × Cell) : Standing :=
  { name := opened.1
    total := opened.2
    completed := since.countP Event.completes
    failed := since.countP Event.fails
    rows := (since.map Event.rows).sum }

/-- The export that stands after a history of events. -/
def standing (events : List Event) : Option Standing :=
  ((events.rdropWhile Event.goesOn).getLast?.bind Event.opened?).map
    (Standing.tally (events.rtakeWhile Event.goesOn))

def Standing.advance (event : Event) (standing : Standing) : Standing :=
  { standing with
    completed := standing.completed + if event.completes then 1 else 0
    failed := standing.failed + if event.fails then 1 else 0
    rows := standing.rows + event.rows }

/-- What an event makes of the export that stands, if one does. -/
def Event.next (event : Event) (current : Option Standing) : Option Standing :=
  if event.goesOn then current.map (Standing.advance event)
  else event.opened?.map (Standing.tally [])

theorem standing_concat (events : List Event) (event : Event) :
    standing (events ++ [event]) = event.next (standing events) := by
  unfold standing Event.next
  by_cases goesOn : event.goesOn = true
  · have tally : Standing.tally (events.rtakeWhile Event.goesOn ++ [event]) =
        Standing.advance event ∘ Standing.tally (events.rtakeWhile Event.goesOn) := by
      funext opened
      simp [Standing.tally, Standing.advance, List.countP_append, List.countP_cons]
    rw [List.rtakeWhile_concat_pos _ _ _ goesOn, List.rdropWhile_concat_pos _ _ _ goesOn, tally,
      if_pos goesOn, Option.map_map]
  · rw [List.rtakeWhile_concat_neg _ _ _ goesOn, List.rdropWhile_concat_neg _ _ _ goesOn,
      List.getLast?_concat, if_neg goesOn]
    rfl

def Event.level? : Event → Option Level
  | .rangeDivided .. => some .debug
  | .connected .. => some .debug
  | .queryFailed .. => some .error
  | .exportFailed _ => some .error
  | .message level _ => some level
  | .progressSet .. => none
  | .progressCleared => none
  | _ => some .info

/-- What is left of an event once the progress is up to date. -/
def Event.writing (event : Event) : Entry :=
  match event with
  | .message level text => note level text
  | _ =>
      match event.level? with
      | none => pure ()
      | some level => noteFormatted level event.text

private theorem keeps_writing (event : Event) : Keeps Journal.progress event.writing := by
  unfold Event.writing
  split
  · exact keeps_note (fun _ _ => rfl) _ _
  · split
    · exact keeps_pure _ _
    · exact keeps_noteFormatted (fun _ _ => rfl) _ _

/-- An event that tells of no outcome and sets nothing leaves the export as it stands. -/
theorem next_eq_self {event : Event} (goesOn : event.goesOn = true)
    (completes : event.completes = false) (fails : event.fails = false) (rows : event.rows = 0)
    (current : Option Standing) : event.next current = current := by
  have same : Standing.advance event = id := by
    funext standing
    simp [Standing.advance, completes, fails, rows]
  rw [Event.next, if_pos goesOn, same, Option.map_id]
  rfl

theorem entry_run {journal : Journal} {current : Option Standing} {event : Event}
    (counted : event.IsCounted) (holds : journal.progress = current.map Standing.progress) :
    event.entry.run journal =
      event.writing.run
        { journal with progress := (event.next current).map Standing.progress } := by
  have quiet (entered : event.entry = event.writing) (same : event.next current = current) :
      event.entry.run journal = event.writing.run
        { journal with progress := (event.next current).map Standing.progress } := by
    rw [entered, same, ← holds]
  -- settings replace the progress, outcomes change it, and the rest are quiet
  cases event with
  | requestValidated source partition column parallelism =>
      exact quiet rfl (next_eq_self rfl rfl rfl rfl _)
  | probeCompleted column low high duration => exact quiet rfl (next_eq_self rfl rfl rfl rfl _)
  | rangeDivided low high count width parallelism =>
      exact quiet rfl (next_eq_self rfl rfl rfl rfl _)
  | queriesBuilt count parallelism => exact quiet rfl (next_eq_self rfl rfl rfl rfl _)
  | connected kind database => exact quiet rfl (next_eq_self rfl rfl rfl rfl _)
  | exportStarted name total workers => rfl
  | queryCompleted index rows duration =>
      obtain ⟨count, rfl⟩ := counted
      cases current with
      | none =>
          have idle : journal.progress = none := holds
          simp only [Event.entry, run_bind, updateProgress_run, addRows, run_get, idle,
            Option.map_none, run_pure]
          rfl
      | some standing =>
          rw [queryCompleted_run index duration count holds rfl]
          rfl
  | queryFailed index reason =>
      have next : (Event.queryFailed index reason).next current =
          current.map fun standing => { standing with failed := standing.failed + 1 } := by
        have advanced : Standing.advance (.queryFailed index reason) =
            fun standing => { standing with failed := standing.failed + 1 } := by
          funext standing
          simp [Standing.advance, Event.completes, Event.fails, Event.rows]
        rw [← advanced]
        rfl
      rw [next]
      cases current with
      | none =>
          have idle : journal.progress = none := holds
          simp only [Event.entry, run_bind, updateProgress_run, idle, Option.map_none]
          rfl
      | some standing =>
          rw [queryFailed_run index reason holds]
          rfl
  | exportCompleted rows duration => exact quiet rfl (next_eq_self rfl rfl rfl rfl _)
  | exportFailed reason => exact quiet rfl (next_eq_self rfl rfl rfl rfl _)
  | message level text => exact quiet rfl (next_eq_self rfl rfl rfl rfl _)
  | progressSet name total => rfl
  | progressCleared => rfl

theorem tell_progress {journal : Journal} {current : Option Standing} {event : Event}
    (counted : event.IsCounted) (holds : journal.progress = current.map Standing.progress) :
    (journal.tell event).2.progress = (event.next current).map Standing.progress := by
  rw [Journal.tell, entry_run counted holds]
  exact keeps_writing event _

end TableExport.Log
