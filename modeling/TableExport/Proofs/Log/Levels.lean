import Mathlib.Data.List.Forall2
import TableExport.Proofs.Log.Headings
import TableExport.Proofs.Log.Legibility
import TableExport.Proofs.Plan.Agreement

/-!
Two journals of one run, kept from different levels on and with different
readings of the memory. What the higher one keeps is what the lower one keeps of
its levels, but for the reading in front of each message; and being told of a
message has the same outcome for both.
-/

set_option autoImplicit false

namespace TableExport.Log

open TableExport.Text
open TableExport.Number
open TableExport.Sequence

structure Keeping where
  low : Nat
  high : Nat
  ordered : low ≤ high
  lowMemory : Option Int
  highMemory : Option Int
  lowReading : String
  highReading : String
  lowRead : memoryText lowMemory = .ok lowReading
  highRead : memoryText highMemory = .ok highReading

/-- Records of one message, which differ in the memory reading in front of it at most. -/
def Record.SameButMemory (reading readingToo : String) (one other : Record) : Prop :=
  ∃ level front message,
    one = ⟨level, front ++ "[MEM:" ++ reading ++ "] " ++ message, false⟩ ∧
      other = ⟨level, front ++ "[MEM:" ++ readingToo ++ "] " ++ message, false⟩

/-- Records of a higher level are those of a lower one that it keeps. -/
def SameFrom (threshold : Nat) (reading readingToo : String) (low high : List Record) : Prop :=
  List.Forall₂ (Record.SameButMemory reading readingToo)
    (low.filter fun record => threshold ≤ record.level.weight) high

section Records

variable {threshold : Nat} {reading readingToo : String} {low high : List Record}

private theorem SameFrom.append_kept (same : SameFrom threshold reading readingToo low high)
    {one other : Record} (kept : threshold ≤ one.level.weight)
    (recorded : one.SameButMemory reading readingToo other) :
    SameFrom threshold reading readingToo (low ++ [one]) (high ++ [other]) := by
  have filtered : [one].filter (fun record => threshold ≤ record.level.weight) = [one] :=
    List.filter_cons_of_pos (decide_eq_true kept)
  rw [SameFrom, List.filter_append, filtered]
  exact List.rel_append same (.cons recorded .nil)

private theorem SameFrom.append_dropped (same : SameFrom threshold reading readingToo low high)
    {one : Record} (dropped : ¬ threshold ≤ one.level.weight) :
    SameFrom threshold reading readingToo (low ++ [one]) high := by
  have filtered : [one].filter (fun record => threshold ≤ record.level.weight) = [] :=
    List.filter_cons_of_neg fun kept => dropped (of_decide_eq_true kept)
  rw [SameFrom, List.filter_append, filtered, List.append_nil]
  exact same

end Records

structure Journal.Parallel (keeping : Keeping) (progress : Option Progress)
    (left right : Journal) : Prop where
  leftSetup : left.setup = (keeping.low, keeping.lowMemory)
  rightSetup : right.setup = (keeping.high, keeping.highMemory)
  leftProgress : left.progress = progress
  rightProgress : right.progress = progress
  records : SameFrom keeping.high keeping.lowReading keeping.highReading left.records
    right.records

def IsShown (progress : Option Progress) : Prop :=
  ∃ fields : List Field,
    (∀ current, progress = some current → current.parts = .ok (fields.map Field.text)) ∧
      (progress = none → fields = [])

theorem isShown_none : IsShown none := by
  refine ⟨[], ?_, fun _ => rfl⟩
  intro current impossible
  cases impossible

theorem isShown_of_sound {progress : Progress} (sound : progress.IsSound)
    (named : ∀ name, progress.name = .text name → IsMeasure name) : IsShown (some progress) := by
  obtain ⟨fields, shown⟩ := parts_fields sound named
  refine ⟨fields, ?_, ?_⟩
  · intro current same
    obtain rfl := Option.some.inj same
    exact shown
  · intro impossible
    cases impossible

theorem note_run_open {journal : Journal} {level : Level} {message : Cell} {line : String}
    (shown : journal.isOpenTo level = true) (headed : journal.headed message = .ok line) :
    (note level message).run journal = (.ok (), journal.keep level line) := by
  simp only [note, run_bind, run_get, if_pos shown, headed, run_ofExcept, run_set]

theorem note_run_closed {journal : Journal} {level : Level} {message : Cell}
    (hidden : ¬ journal.isOpenTo level = true) :
    (note level message).run journal = (.ok (), journal) := by
  simp only [note, run_bind, run_get, if_neg hidden]
  rfl

/-- The record of a message behind fields, of which the last is the memory reading. -/
theorem redact_headed (fields : List Field) {reading : String} (measure : IsMeasure reading)
    (text : String) :
    redact (Field.row (fields ++ [.memory measure]) ++ text) =
      Field.row fields ++ "[MEM:" ++ reading ++ "] " ++ redact text := by
  rw [(Field.row_untouched _).redact_append, Field.row_append, Field.row_singleton]
  simp only [Field.shown, Field.text, Field.memory, Field.measured, String.append_assoc]
  rfl

section Noting

variable {keeping : Keeping} {progress : Option Progress} {left right : Journal}

private theorem headed_shown {journal : Journal} {fields : List Field} {memory : Option Int}
    {reading : String} (underway : journal.progress = progress)
    (shows : ∀ current, progress = some current → current.parts = .ok (fields.map Field.text))
    (idle : progress = none → fields = []) (kept : journal.memory = memory)
    (read : memoryText memory = .ok reading) (text : String) :
    journal.headed (.text text) =
      .ok (Field.row (fields ++ [.memory (isMeasure_memoryText read)]) ++ text) := by
  subst underway kept
  exact headed_fields shows idle read (isMeasure_memoryText read) text

private theorem note_parallel (shown : IsShown progress)
    (parallel : Journal.Parallel keeping progress left right) (level : Level) (text : String) :
    ((note level (.text text)).run left).1 = .ok () ∧
      ((note level (.text text)).run right).1 = .ok () ∧
        Journal.Parallel keeping progress ((note level (.text text)).run left).2
          ((note level (.text text)).run right).2 := by
  obtain ⟨fields, shows, idle⟩ := shown
  obtain ⟨leftThreshold, leftMemory⟩ := Prod.mk.inj parallel.leftSetup
  obtain ⟨rightThreshold, rightMemory⟩ := Prod.mk.inj parallel.rightSetup
  have leftHeaded := headed_shown parallel.leftProgress shows idle leftMemory keeping.lowRead text
  have rightHeaded :=
    headed_shown parallel.rightProgress shows idle rightMemory keeping.highRead text
  by_cases keptHigh : keeping.high ≤ level.weight
  · -- both keep the message, each behind its own reading of the memory
    have leftOpen : left.isOpenTo level = true := by
      rw [Journal.isOpenTo, leftThreshold]
      exact decide_eq_true (Nat.le_trans keeping.ordered keptHigh)
    have rightOpen : right.isOpenTo level = true := by
      rw [Journal.isOpenTo, rightThreshold]
      exact decide_eq_true keptHigh
    rw [note_run_open leftOpen leftHeaded, note_run_open rightOpen rightHeaded]
    refine ⟨rfl, rfl, { parallel with records := parallel.records.append_kept keptHigh ?_ }⟩
    rw [redact_headed, redact_headed]
    exact ⟨level, Field.row fields, redact text, rfl, rfl⟩
  · -- only the lower one may keep it, and what it keeps is below the higher level
    have rightClosed : ¬ right.isOpenTo level = true := by
      rw [Journal.isOpenTo, rightThreshold]
      exact fun opened => keptHigh (of_decide_eq_true opened)
    rw [note_run_closed rightClosed]
    by_cases leftOpen : left.isOpenTo level = true
    · rw [note_run_open leftOpen leftHeaded]
      exact ⟨rfl, rfl, { parallel with records := parallel.records.append_dropped keptHigh }⟩
    · rw [note_run_closed leftOpen]
      exact ⟨rfl, rfl, parallel⟩

/-- A message is told to both journals with the same outcome, which is its own. -/
theorem noteFormatted_parallel (shown : IsShown progress)
    (parallel : Journal.Parallel keeping progress left right) (level : Level)
    (message : Except Cell.Fault String) :
    ((noteFormatted level message).run left).1 = message.map (fun _ => ()) ∧
      ((noteFormatted level message).run right).1 = message.map (fun _ => ()) ∧
        Journal.Parallel keeping progress ((noteFormatted level message).run left).2
          ((noteFormatted level message).run right).2 := by
  rw [noteFormatted, run_bind, run_bind, run_ofExcept, run_ofExcept]
  cases message with
  | error fault => exact ⟨rfl, rfl, parallel⟩
  | ok text => exact note_parallel shown parallel level text

theorem keepsTelling_parallel (shown : IsShown progress) :
    KeepsTelling (Journal.Parallel keeping progress) := by
  rintro event ⟨level, noted⟩ left right parallel
  obtain ⟨leftTold, rightTold, kept⟩ := noteFormatted_parallel shown parallel level event.text
  unfold Journal.tell
  rw [noted]
  exact ⟨leftTold.trans rightTold.symm, kept⟩

end Noting

section Progressing

variable {keeping : Keeping} {progress : Option Progress} {left right : Journal}

theorem Journal.Parallel.withProgress (parallel : Journal.Parallel keeping progress left right)
    (other : Option Progress) :
    Journal.Parallel keeping other { left with progress := other }
      { right with progress := other } :=
  { parallel with leftProgress := rfl, rightProgress := rfl }

theorem tell_parallel {event : Event} {level : Level} {changed : Option Progress}
    (parallel : Journal.Parallel keeping progress left right) (shown : IsShown changed)
    (entered : ∀ journal : Journal, journal.progress = progress →
      event.entry.run journal =
        (noteFormatted level event.text).run { journal with progress := changed }) :
    (left.tell event).1 = event.text.map (fun _ => ()) ∧
      (right.tell event).1 = event.text.map (fun _ => ()) ∧
        Journal.Parallel keeping changed (left.tell event).2 (right.tell event).2 := by
  unfold Journal.tell
  rw [entered left parallel.leftProgress, entered right parallel.rightProgress]
  exact noteFormatted_parallel shown (parallel.withProgress changed) level event.text

end Progressing

end TableExport.Log
