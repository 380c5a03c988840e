import TableExport.Log.Journal
import TableExport.Proofs.Number.Magnitude
import TableExport.Proofs.Sequence
import TableExport.Proofs.Text.Numeral

/-!
Journals that can always be told. The journal of a program holds a text and
counts in its progress, and a memory reading that is a count of bytes; then the
text in front of a message has a display, and telling a message fails only when
the message itself has none. Messages keep a journal sound.
-/

set_option autoImplicit false

namespace TableExport.Log

open TableExport.Text
open TableExport.Number

structure Progress.IsSound (progress : Progress) : Prop where
  name : ∃ text, progress.name = .text text
  total : ∃ count, progress.total = .integer count ∧ Numeral.IsWritable count
  completed : Numeral.IsWritable progress.completed
  rows : ∃ count, progress.rows = .integer count ∧
    count.natAbs < Binary64.firstUnheld

structure Journal.IsSound (journal : Journal) : Prop where
  memory : ∀ bytes, journal.memory = some bytes →
    bytes.natAbs < Binary64.firstUnheld
  progress : ∀ progress, journal.progress = some progress → progress.IsSound

/-- A journal without a memory reading and without an export under way is sound. -/
theorem isSound_of_idle {journal : Journal} (unknown : journal.memory = none)
    (idle : journal.progress = none) : journal.IsSound := by
  constructor
  · intro bytes found
    rw [unknown] at found
    cases found
  · intro progress found
    rw [idle] at found
    cases found

theorem shown_integer {count : Int} (writable : Numeral.IsWritable count) :
    (Cell.integer count).shown = .ok (Numeral.ofInt count) := by
  change (Numeral.write count).mapError Cell.Fault.numeral = _
  rw [Numeral.write_of_isWritable writable]
  rfl

theorem isWritable_of_shown {count : Int} {text : String}
    (shown : (Cell.integer count).shown = .ok text) : Numeral.IsWritable count := by
  have written : (Numeral.write count).mapError Cell.Fault.numeral = .ok text := shown
  rw [Sequence.mapError_ok_iff] at written
  exact (Numeral.write_eq_ok_iff.mp written).1

private theorem dividedBy_isOk {dividend : Int} (divisor : Int)
    (held : dividend.natAbs < Binary64.firstUnheld) (large : 8 ≤ divisor) :
    ∃ quotient, (Cell.integer dividend).dividedBy (.integer divisor) =
      .ok (.real quotient) := by
  have sign : divisor.sign = 1 := Int.sign_eq_one_of_pos (by omega)
  obtain ⟨quotient, found⟩ := Binary64.ofQuotient_isOk divisor.natAbs held (by omega)
  refine ⟨quotient, ?_⟩
  change (Quantity.divide (.integer dividend) (.integer divisor)).mapError
    Cell.Fault.number = _
  simp only [Quantity.divide, sign, Int.mul_one, found]
  rfl

private theorem unitText_isOk {count : Int} {unit : Nat} (letter : String)
    (held : count.natAbs < Binary64.firstUnheld) (large : 8 ≤ unit) :
    ∃ text, unitText (.integer count) unit letter = .ok text := by
  obtain ⟨quotient, found⟩ := dividedBy_isOk unit held (by omega)
  refine ⟨quotient.fixed 1 ++ letter, ?_⟩
  unfold unitText
  rw [found]
  rfl

theorem less_integer (first second : Int) :
    (Cell.integer first).less (.integer second) =
      .ok (decide (first < second)) := rfl

theorem greater_integer (first second : Int) :
    (Cell.integer first).greater (.integer second) =
      .ok (decide (second < first)) := rfl

theorem rowsText_isOk {count : Int} (nonneg : 0 ≤ count)
    (held : count.natAbs < Binary64.firstUnheld) :
    ∃ text, rowsText (.integer count) = .ok text := by
  simp only [rowsText, less_integer, Sequence.ok_bind, decide_eq_true_eq]
  by_cases small : count < 1000
  · rw [if_pos small]
    exact ⟨_, shown_integer (Numeral.isWritable_of_small (by omega))⟩
  · rw [if_neg small]
    by_cases thousands : count < 1000000
    · rw [if_pos thousands]
      exact unitText_isOk "K" held (by decide)
    · rw [if_neg thousands]
      by_cases millions : count < 1000000000
      · rw [if_pos millions]
        exact unitText_isOk "M" held (by decide)
      · rw [if_neg millions]
        exact unitText_isOk "B" held (by decide)

theorem realOf_unit : ∃ unit, Quantity.realOf 1024 = .ok unit :=
  ⟨Binary64.ofRatio false 1024 1, Sequence.ok_of_toOption (by decide +kernel)⟩

theorem memoryText_isOk {memory : Option Int}
    (held : ∀ bytes, memory = some bytes → bytes.natAbs < Binary64.firstUnheld) :
    ∃ text, memoryText memory = .ok text := by
  cases memory with
  | none => exact ⟨"Unknown", rfl⟩
  | some bytes =>
      obtain ⟨quotient, found⟩ := dividedBy_isOk 1024 (held bytes rfl) (by decide)
      obtain ⟨unit, unitFound⟩ := realOf_unit
      refine ⟨(quotient.divide unit).fixed 1 ++ "MB", ?_⟩
      simp only [memoryText, found, Sequence.ok_bind, Quantity.divide, unitFound]
      rfl

theorem rowParts_isOk {progress : Progress} (sound : progress.IsSound) :
    ∃ parts, progress.rowParts = .ok parts := by
  obtain ⟨count, rows, held⟩ := sound.rows
  simp only [Progress.rowParts, rows, Cell.ofQuantity, greater_integer, Sequence.ok_bind,
    decide_eq_true_eq]
  by_cases positive : 0 < count
  · obtain ⟨text, shown⟩ := rowsText_isOk (Int.le_of_lt positive) held
    rw [if_pos positive, shown]
    exact ⟨_, rfl⟩
  · rw [if_neg positive]
    exact ⟨_, rfl⟩

theorem parts_isOk {progress : Progress} (sound : progress.IsSound) :
    ∃ parts, progress.parts = .ok parts := by
  obtain ⟨text, name⟩ := sound.name
  obtain ⟨count, total, writable⟩ := sound.total
  have shownName : progress.name.shown = .ok text := by rw [name]; rfl
  simp only [Progress.parts, shownName, total, greater_integer, Sequence.ok_bind,
    decide_eq_true_eq]
  by_cases positive : 0 < count
  · obtain ⟨rows, shownRows⟩ := rowParts_isOk sound
    rw [if_pos positive, countText, shown_integer sound.completed,
      shown_integer writable, shownRows]
    exact ⟨_, rfl⟩
  · rw [if_neg positive]
    exact ⟨_, rfl⟩

theorem heading_isOk {journal : Journal} (sound : journal.IsSound) :
    ∃ heading, journal.heading = .ok heading := by
  obtain ⟨memory, shownMemory⟩ := memoryText_isOk sound.memory
  unfold Journal.heading
  cases found : journal.progress with
  | none =>
      simp only [shownMemory]
      exact ⟨_, rfl⟩
  | some progress =>
      obtain ⟨parts, shown⟩ := parts_isOk (sound.progress progress found)
      simp only [shown, shownMemory]
      exact ⟨_, rfl⟩

private theorem keep_isSound {journal : Journal} (sound : journal.IsSound) (level : Level)
    (text : String) : (journal.keep level text).IsSound :=
  ⟨sound.memory, sound.progress⟩

theorem noteFormatted_isOk {journal : Journal} (sound : journal.IsSound) (level : Level)
    (text : String) :
    ∃ told, (noteFormatted level (.ok text)).run journal = (.ok (), told) ∧
      told.IsSound := by
  obtain ⟨heading, found⟩ := heading_isOk sound
  have headed : journal.headed (.text text) = .ok (heading ++ " " ++ text) := by
    simp only [Journal.headed, found]
    rfl
  simp only [noteFormatted, note, Sequence.run_bind, Sequence.run_ofExcept,
    Sequence.run_get]
  by_cases shown : journal.isOpenTo level
  · rw [if_pos shown]
    simp only [headed, Sequence.run_bind, Sequence.run_ofExcept, Sequence.run_set]
    exact ⟨_, rfl, keep_isSound sound level _⟩
  · rw [if_neg shown]
    exact ⟨journal, rfl, sound⟩

/-- An event that only has its text to show is told to a sound journal. -/
theorem tell_isOk {journal : Journal} (sound : journal.IsSound) {event : Event}
    {level : Level} {text : String}
    (noted : event.entry = noteFormatted level event.text)
    (shown : event.text = .ok text) :
    ∃ told, journal.tell event = (.ok (), told) ∧ told.IsSound := by
  obtain ⟨told, ran, stays⟩ := noteFormatted_isOk sound level text
  refine ⟨told, ?_, stays⟩
  unfold Journal.tell
  rw [noted, shown]
  exact ran

end TableExport.Log
