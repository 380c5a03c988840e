import TableExport.Proofs.Log.Legibility
import TableExport.Proofs.Number.Rate

/-!
The progress of an export as the journal tracks it. Each outcome that is told
counts as one more statement that is completed or failed and adds its rows. As
long as the counts stay within range, telling of outcomes never fails; telling of
the end fails when the rows have no rate.
-/

set_option autoImplicit false

namespace TableExport.Log

open TableExport.Text
open TableExport.Number
open TableExport.Sequence

def Progress.counted (name : String) (total completed failed rows : Nat) : Progress :=
  ⟨.text name, .integer total, completed, failed, .integer rows⟩

structure Journal.Tracks (journal : Journal) (progress : Progress) : Prop where
  memory : ∀ bytes, journal.memory = some bytes → bytes.natAbs < Binary64.firstUnheld
  progress : journal.progress = some progress

theorem counted_isSound (name : String) {total completed rows : Nat} (failed : Nat)
    (writable : Numeral.IsWritable total) (within : completed ≤ total)
    (held : rows < Binary64.firstUnheld) :
    (Progress.counted name total completed failed rows).IsSound := by
  have completedWritable : Numeral.IsWritable completed := by
    unfold Numeral.IsWritable at *
    omega
  exact ⟨⟨name, rfl⟩, ⟨total, rfl, writable⟩, completedWritable, ⟨rows, rfl, held⟩⟩

private theorem Journal.Tracks.isSound {journal : Journal} {progress : Progress}
    (tracks : journal.Tracks progress) (sound : progress.IsSound) : journal.IsSound := by
  refine ⟨tracks.memory, ?_⟩
  intro current found
  rw [tracks.progress] at found
  cases found
  exact sound

theorem Journal.Tracks.showsMemory {journal : Journal} {progress : Progress}
    (tracks : journal.Tracks progress) : journal.ShowsMemory :=
  fun _ => memoryText_isOk tracks.memory

theorem Journal.Tracks.noteFormatted_ok {journal : Journal} {progress : Progress}
    (tracks : journal.Tracks progress) (sound : progress.IsSound) (level : Level)
    (text : String) :
    ∃ told, (noteFormatted level (.ok text)).run journal = (.ok (), told) ∧
      told.Tracks progress := by
  obtain ⟨told, ran, stays⟩ := noteFormatted_isOk (tracks.isSound sound) level text
  have kept : Keeps Journal.progress (noteFormatted level (.ok text)) :=
    keeps_noteFormatted (fun _ _ => rfl) level _
  exact ⟨told, ran, stays.memory, (kept.of_run ran).trans tracks.progress⟩

/-! ### Displays -/

/-- A time always has a display, whatever number it is. -/
theorem durationText_real (duration : Binary64) :
    ∃ text, durationText (.real duration) = .ok text := by
  have divided (unit : Nat) (letter : String) {nearest : Binary64}
      (found : Quantity.realOf unit = .ok nearest) :
      unitText (.real duration) unit letter =
        .ok ((duration.divide nearest).fixed 1 ++ letter) := by
    have quotient : (Cell.real duration).dividedBy (.integer unit) =
        .ok (.real (duration.divide nearest)) := by
      change (Quantity.divide (.real duration) (.integer unit)).mapError Cell.Fault.number = _
      rw [Quantity.divide, found]
      rfl
    rw [unitText, quotient]
    rfl
  have minutes : ∃ nearest, Quantity.realOf (60 : Nat) = .ok nearest :=
    ⟨Binary64.ofRatio false 60 1, ok_of_toOption (by decide +kernel)⟩
  have hours : ∃ nearest, Quantity.realOf (3600 : Nat) = .ok nearest :=
    ⟨Binary64.ofRatio false 3600 1, ok_of_toOption (by decide +kernel)⟩
  obtain ⟨minute, foundMinute⟩ := minutes
  obtain ⟨hour, foundHour⟩ := hours
  have compared (bound : Int) : (Cell.real duration).less (.integer bound) =
      .ok (duration.isBelow bound) := rfl
  simp only [durationText, compared, ok_bind]
  split
  · exact ⟨_, rfl⟩
  · split
    · exact ⟨_, divided 60 "m" foundMinute⟩
    · exact ⟨_, divided 3600 "h" foundHour⟩

section Throughput

variable {rows : Nat} {duration near : Binary64}

private theorem throughput_of_not_above (still : ¬ duration.isAbove 0 = true) :
    throughput (.integer rows) (.real duration) = .ok 0 := by
  have compared : (Cell.real duration).greater (.integer 0) = .ok (duration.isAbove 0) := rfl
  simp only [throughput, compared, ok_bind]
  rw [if_neg still]
  rfl

theorem throughput_of_above (above : duration.isAbove 0 = true) :
    throughput (.integer rows) (.real duration) =
      ((Binary64.ofInt rows).bind fun near => (near.divide duration).truncate).mapError
        fun fault => .number (.binary fault) := by
  have compared : (Cell.real duration).greater (.integer 0) = .ok (duration.isAbove 0) := rfl
  have quotient : (Cell.integer rows).dividedBy (.real duration) =
      (Quantity.divide (.integer rows) (.real duration)).mapError Cell.Fault.number := rfl
  simp only [throughput, compared, ok_bind]
  rw [if_pos above, quotient, Quantity.divide, Quantity.realOf]
  cases Binary64.ofInt rows with
  | error fault => rfl
  | ok near =>
      change ((near.divide duration).truncate.mapError Quantity.Fault.binary).mapError _ =
        (near.divide duration).truncate.mapError _
      cases (near.divide duration).truncate with
      | error fault => rfl
      | ok whole => rfl

/-- Rows are counted per second where they have a rate. -/
theorem throughput_of_hasRate (has : Binary64.HasRate rows duration) :
    ∃ rate : Nat, throughput (.integer rows) (.real duration) = .ok rate ∧
      rate < Binary64.firstUnheld := by
  by_cases above : duration.isAbove 0 = true
  · obtain ⟨near, nearest, finite⟩ := has above
    obtain ⟨mantissa, exponent, rfl⟩ := Binary64.finite_of_ofInt nearest
    rcases Binary64.divide_cases above with infinite | ⟨_, rate, cut, held⟩
    · rw [infinite] at finite
      cases finite
    · refine ⟨rate, ?_, held⟩
      rw [throughput_of_above above, nearest, Except.bind, cut]
      rfl
  · exact ⟨0, throughput_of_not_above above, Binary64.firstUnheld_pos⟩

/-- Where rows have no rate, they are too many for a number or their quotient is infinite. -/
theorem throughput_of_not_hasRate (without : ¬ Binary64.HasRate rows duration) :
    ∃ fault, throughput (.integer rows) (.real duration) = .error (.number (.binary fault)) := by
  by_cases above : duration.isAbove 0 = true
  · rw [throughput_of_above above]
    cases nearest : Binary64.ofInt rows with
    | error fault => exact ⟨fault, rfl⟩
    | ok near =>
        obtain ⟨mantissa, exponent, rfl⟩ := Binary64.finite_of_ofInt nearest
        rcases Binary64.divide_cases above with infinite | ⟨finite, _⟩
        · refine ⟨.infiniteToInteger, ?_⟩
          rw [Except.bind, infinite]
          rfl
        · exact absurd (fun _ => ⟨_, nearest, finite⟩) without
  · exact absurd (fun now => absurd now above) without

end Throughput

/-! ### Telling -/

section Telling

variable {journal : Journal} {name : String} {total completed failed rows : Nat}

theorem updateProgress_run (change : Progress → Progress) (journal : Journal) :
    (updateProgress change).run journal =
      (.ok (), { journal with progress := journal.progress.map change }) := rfl

private theorem addRows_run (journal : Journal) (count : Int) {progress : Progress} {sum : Int}
    (shown : journal.progress = some progress) (summed : progress.rows = .integer sum) :
    (addRows (.integer count)).run journal =
      (.ok (), { journal with
        progress := some { progress with rows := .integer (sum + count) } }) := by
  have plus : (Cell.ofQuantity progress.rows).plus (.integer count) =
      .ok (.integer (sum + count)) := by
    rw [summed]
    rfl
  simp only [addRows, run_bind, run_get, shown, plus, run_ofExcept, updateProgress_run,
    Option.map_some]

theorem queryCompleted_run {progress : Progress} {sum : Int} (index duration : Cell)
    (count : Int) (shown : journal.progress = some progress)
    (summed : progress.rows = .integer sum) :
    (Event.entry (.queryCompleted index (.integer count) duration)).run journal =
      (noteFormatted .info (Event.text (.queryCompleted index (.integer count) duration))).run
        { journal with
          progress := some { progress with
            completed := progress.completed + 1
            rows := .integer (sum + count) } } := by
  have added := addRows_run { journal with
    progress := some { progress with completed := progress.completed + 1 } } count rfl summed
  simp only [Event.entry, run_bind, updateProgress_run, shown, Option.map_some, added]

theorem queryFailed_run {progress : Progress} (index reason : Cell)
    (shown : journal.progress = some progress) :
    (Event.entry (.queryFailed index reason)).run journal =
      (noteFormatted .error (Event.text (.queryFailed index reason))).run
        { journal with progress := some { progress with failed := progress.failed + 1 } } := by
  simp only [Event.entry, run_bind, updateProgress_run, shown, Option.map_some]

theorem tell_of_entry {event : Event} (level : Level) {changed : Journal} {progress : Progress}
    (entered : event.entry.run journal = (noteFormatted level event.text).run changed)
    (tracks : changed.Tracks progress) (sound : progress.IsSound)
    (shown : ∃ text, event.text = .ok text) :
    ∃ told, journal.tell event = (.ok (), told) ∧ told.Tracks progress := by
  obtain ⟨text, found⟩ := shown
  obtain ⟨told, ran, stays⟩ := tracks.noteFormatted_ok sound level text
  refine ⟨told, ?_, stays⟩
  rw [Journal.tell, entered, found, ran]

theorem tell_queryCompleted (tracks : journal.Tracks (.counted name total completed failed rows))
    (duration : Binary64) {index count : Nat} (totalWritable : Numeral.IsWritable total)
    (indexWritable : Numeral.IsWritable index) (within : completed < total)
    (held : rows + count < Binary64.firstUnheld) :
    ∃ told, journal.tell (.queryCompleted (.integer index) (.integer count) (.real duration)) =
        (.ok (), told) ∧
      told.Tracks (.counted name total (completed + 1) failed (rows + count)) := by
  have countHeld : (count : Int).natAbs < Binary64.firstUnheld := by omega
  obtain ⟨rowsShown, foundRows⟩ := rowsText_isOk (Int.natCast_nonneg count) countHeld
  obtain ⟨durationShown, foundDuration⟩ := durationText_real duration
  have shown : ∃ text, Event.text (.queryCompleted (.integer index) (.integer count)
      (.real duration)) = .ok text := by
    simp only [Event.text, shown_integer indexWritable, foundRows, foundDuration]
    exact ⟨_, rfl⟩
  have counted : ({ journal with
      progress := some (.counted name total (completed + 1) failed (rows + count)) } :
        Journal).Tracks (.counted name total (completed + 1) failed (rows + count)) :=
    ⟨tracks.memory, rfl⟩
  have entered := queryCompleted_run (.integer index) (.real duration) count tracks.progress rfl
  exact tell_of_entry .info entered counted
    (counted_isSound name failed totalWritable within held) shown

theorem tell_queryFailed (tracks : journal.Tracks (.counted name total completed failed rows))
    (reason : String) {index : Nat} (totalWritable : Numeral.IsWritable total)
    (indexWritable : Numeral.IsWritable index) (within : completed ≤ total)
    (held : rows < Binary64.firstUnheld) :
    ∃ told, journal.tell (.queryFailed (.integer index) (.text reason)) = (.ok (), told) ∧
      told.Tracks (.counted name total completed (failed + 1) rows) := by
  have shown : ∃ text, Event.text (.queryFailed (.integer index) (.text reason)) =
      .ok text := by
    simp only [Event.text, shown_integer indexWritable]
    exact ⟨_, rfl⟩
  have counted : ({ journal with
      progress := some (.counted name total completed (failed + 1) rows) } : Journal).Tracks
        (.counted name total completed (failed + 1) rows) := ⟨tracks.memory, rfl⟩
  have entered := queryFailed_run (.integer index) (.text reason) tracks.progress
  exact tell_of_entry .error entered counted
    (counted_isSound name (failed + 1) totalWritable within held) shown

/-- The end of an export is told with its rows per second, where they have a rate. -/
theorem tell_exportCompleted
    (tracks : journal.Tracks (.counted name total completed failed rows))
    (totalWritable : Numeral.IsWritable total) (within : completed ≤ total)
    (held : rows < Binary64.firstUnheld) {duration : Binary64}
    (has : Binary64.HasRate rows duration) :
    ∃ told, journal.tell (.exportCompleted (.integer rows) (.real duration)) = (.ok (), told) ∧
      told.Tracks (.counted name total completed failed rows) := by
  have rowsHeld : (rows : Int).natAbs < Binary64.firstUnheld := by omega
  obtain ⟨rate, foundRate, rateHeld⟩ := throughput_of_hasRate has
  obtain ⟨rowsShown, foundRows⟩ := rowsText_isOk (Int.natCast_nonneg rows) rowsHeld
  have rateHeldToo : (rate : Int).natAbs < Binary64.firstUnheld := by omega
  obtain ⟨rateShown, foundRateText⟩ := rowsText_isOk (Int.natCast_nonneg rate) rateHeldToo
  obtain ⟨durationShown, foundDuration⟩ := durationText_real duration
  have shown : ∃ text, Event.text (.exportCompleted (.integer rows) (.real duration)) =
      .ok text := by
    simp only [Event.text, foundRate, ok_bind, foundRows, foundDuration, foundRateText]
    exact ⟨_, rfl⟩
  exact tell_of_entry .info rfl tracks (counted_isSound name failed totalWritable within held)
    shown

theorem tell_exportCompleted_of_uncounted (journal : Journal) {duration : Binary64}
    {fault : Cell.Fault}
    (uncounted : throughput (.integer rows) (.real duration) = .error fault) :
    journal.tell (.exportCompleted (.integer rows) (.real duration)) =
      (.error fault, journal) := by
  have untold : Event.text (.exportCompleted (.integer rows) (.real duration)) =
      .error fault := by
    simp only [Event.text, uncounted]
    rfl
  have noted : Event.entry (.exportCompleted (.integer rows) (.real duration)) =
      noteFormatted .info (Event.text (.exportCompleted (.integer rows) (.real duration))) := rfl
  rw [Journal.tell, noted, untold]
  rfl

theorem tell_exportFailed (tracks : journal.Tracks (.counted name total completed failed rows))
    (reason : String) (totalWritable : Numeral.IsWritable total) (within : completed ≤ total)
    (held : rows < Binary64.firstUnheld) :
    ∃ told, journal.tell (.exportFailed (.text reason)) = (.ok (), told) ∧
      told.Tracks (.counted name total completed failed rows) :=
  tell_of_entry .error rfl tracks (counted_isSound name failed totalWritable within held) ⟨_, rfl⟩

end Telling

end TableExport.Log
