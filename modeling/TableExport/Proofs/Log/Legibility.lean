import TableExport.Proofs.Log.Soundness
import TableExport.Proofs.Sequence.Effects

/-!
Journals that show what stands in front of a message wherever they are written
to. A journal that took one message of the usual level is legible, and it stays
legible for as long as no export is under way: nothing that it is told changes
its threshold or its memory reading.
-/

set_option autoImplicit false

namespace TableExport.Log

open TableExport.Text
open TableExport.Number
open TableExport.Sequence

/-- A journal that shows the text in front of its messages, if it keeps the usual ones. -/
def Journal.IsLegible (journal : Journal) : Prop :=
  journal.isOpenTo .info = true → ∃ heading, journal.heading = .ok heading

/-- A journal that shows its memory reading, if it keeps the usual messages. -/
def Journal.ShowsMemory (journal : Journal) : Prop :=
  journal.isOpenTo .info = true → ∃ text, memoryText journal.memory = .ok text

def Journal.setup (journal : Journal) : Nat × Option Int :=
  (journal.threshold, journal.memory)

variable {journal told : Journal}

theorem Journal.IsLegible.showsMemory (legible : journal.IsLegible) : journal.ShowsMemory := by
  intro shown
  obtain ⟨heading, found⟩ := legible shown
  cases reading : memoryText journal.memory with
  | ok text => exact ⟨text, rfl⟩
  | error fault =>
      unfold Journal.heading at found
      rw [reading] at found
      cases underway : journal.progress with
      | none =>
          rw [underway] at found
          cases found
      | some progress =>
          simp only [underway, bind_ok_iff] at found
          obtain ⟨parts, _, memory, impossible, _⟩ := found
          cases impossible

theorem Journal.ShowsMemory.of_setup (shows : journal.ShowsMemory)
    (same : told.setup = journal.setup) : told.ShowsMemory := by
  obtain ⟨threshold, memory⟩ := Prod.mk.inj same
  intro shown
  rw [Journal.isOpenTo, threshold] at shown
  rw [memory]
  exact shows shown

theorem Journal.ShowsMemory.isLegible (shows : journal.ShowsMemory)
    (sound : ∀ progress, journal.progress = some progress → progress.IsSound) :
    journal.IsLegible := by
  intro shown
  obtain ⟨memory, reading⟩ := shows shown
  unfold Journal.heading
  cases found : journal.progress with
  | none =>
      simp only [reading]
      exact ⟨_, rfl⟩
  | some progress =>
      obtain ⟨parts, displayed⟩ := parts_isOk (sound progress found)
      simp only [displayed, reading]
      exact ⟨_, rfl⟩

private theorem isOpenTo_info_of_low {level : Level} (low : level.weight ≤ Level.info.weight)
    (shown : journal.isOpenTo level = true) : journal.isOpenTo .info = true := by
  simp only [Journal.isOpenTo, decide_eq_true_eq] at shown ⊢
  omega

theorem Journal.IsLegible.noteFormatted_ok (legible : journal.IsLegible) {level : Level}
    (low : level.weight ≤ Level.info.weight) (text : String) :
    ((noteFormatted level (.ok text)).run journal).1 = .ok () := by
  simp only [noteFormatted, note, run_bind, run_ofExcept, run_get]
  by_cases shown : journal.isOpenTo level = true
  · obtain ⟨heading, found⟩ := legible (isOpenTo_info_of_low low shown)
    have headed : journal.headed (.text text) = .ok (heading ++ " " ++ text) := by
      simp only [Journal.headed, found]
      rfl
    rw [if_pos shown]
    simp only [headed, run_bind, run_ofExcept, run_set]
  · rw [if_neg shown]
    rfl

/-- A journal that took a usual message is legible, and the message has a text. -/
theorem isLegible_of_noteFormatted {message : Except Cell.Fault String}
    (ran : (noteFormatted .info message).run journal = (.ok (), told)) :
    (∃ text, message = .ok text) ∧ journal.IsLegible := by
  simp only [noteFormatted, note, run_bind_ok_iff, run_ofExcept_ok_iff] at ran
  obtain ⟨text, formatted, ⟨found, stays⟩, current, _, got, written⟩ := ran
  rw [run_get] at got
  refine ⟨⟨text, found⟩, fun shown => ?_⟩
  obtain ⟨same, here⟩ := Prod.mk.inj got
  have held : current = journal := by
    rw [← stays]
    exact (Except.ok.inj same).symm
  rw [held, if_pos shown, run_bind_ok_iff] at written
  obtain ⟨line, _, headed, _⟩ := written
  rw [run_ofExcept_ok_iff] at headed
  have heading := headed.1
  simp only [Journal.headed, bind_ok_iff] at heading
  obtain ⟨front, display, _⟩ := heading
  exact ⟨front, display⟩

section Keeping

variable {View : Type} {view : Journal → View}

theorem keeps_note
    (blind : ∀ journal records, view { journal with records := records } = view journal)
    (level : Level) (message : Cell) : Keeps view (note level message) := by
  intro journal
  simp only [note, run_bind, run_get]
  by_cases shown : journal.isOpenTo level = true
  · rw [if_pos shown, run_bind, run_ofExcept]
    cases journal.headed message with
    | error fault => rfl
    | ok text => exact blind journal _
  · rw [if_neg shown]
    rfl

theorem keeps_noteFormatted
    (blind : ∀ journal records, view { journal with records := records } = view journal)
    (level : Level) (message : Except Cell.Fault String) :
    Keeps view (noteFormatted level message) :=
  (keeps_ofExcept view message).bind fun text => keeps_note blind level (.text text)

end Keeping

private theorem keeps_setup_updateProgress (change : Progress → Progress) :
    Keeps Journal.setup (updateProgress change) :=
  fun _ => rfl

private theorem keeps_setup_addRows (rows : Cell) : Keeps Journal.setup (addRows rows) := by
  refine (keeps_get _).bind fun journal => ?_
  cases journal.progress with
  | none => exact keeps_pure _ _
  | some progress =>
      exact (keeps_ofExcept _ _).bind fun sum => keeps_setup_updateProgress _

theorem keeps_setup_entry (event : Event) : Keeps Journal.setup event.entry := by
  have blind (journal : Journal) (records : List Record) :
      Journal.setup { journal with records := records } = journal.setup := rfl
  have progressed (progress : Option Progress) : Keeps Journal.setup
      (modify fun journal => { journal with progress := progress } : Entry) :=
    fun _ => rfl
  have noted (level : Level) (message : Except Cell.Fault String) :
      Keeps Journal.setup (noteFormatted level message) := keeps_noteFormatted blind level message
  cases event with
  | requestValidated source partition column parallelism => exact noted _ _
  | probeCompleted column low high duration => exact noted _ _
  | rangeDivided low high count width parallelism => exact noted _ _
  | queriesBuilt count parallelism => exact noted _ _
  | connected kind database => exact noted _ _
  | exportStarted name total workers => exact (progressed _).bind fun _ => noted _ _
  | queryCompleted index rows duration =>
      refine (keeps_setup_updateProgress _).bind fun _ => ?_
      exact (keeps_setup_addRows rows).bind fun _ => noted _ _
  | queryFailed index reason =>
      exact (keeps_setup_updateProgress _).bind fun _ => noted _ _
  | exportCompleted rows duration => exact noted _ _
  | exportFailed reason => exact noted _ _
  | message level text => exact keeps_note blind level text
  | progressSet name total => exact progressed _
  | progressCleared => exact progressed _

theorem tell_setup (journal : Journal) (event : Event) :
    (journal.tell event).2.setup = journal.setup :=
  keeps_setup_entry event journal

theorem Journal.IsLegible.of_setup (legible : journal.IsLegible)
    (setup : told.setup = journal.setup) (progress : told.progress = journal.progress) :
    told.IsLegible := by
  obtain ⟨threshold, memory⟩ := Prod.mk.inj setup
  intro shown
  rw [Journal.isOpenTo, threshold] at shown
  obtain ⟨heading, found⟩ := legible shown
  refine ⟨heading, ?_⟩
  rw [← found, Journal.heading, Journal.heading, progress, memory]

/-- A journal that is told of an event at the usual level is left legible, and the event has a
text. -/
theorem isLegible_of_told {event : Event} (noted : event.entry = noteFormatted .info event.text)
    (ok : (journal.tell event).1 = .ok ()) :
    (∃ text, event.text = .ok text) ∧ (journal.tell event).2.IsLegible := by
  have written : Keeps Journal.progress (noteFormatted .info event.text) :=
    keeps_noteFormatted (fun _ _ => rfl) _ _
  have ran : (noteFormatted .info event.text).run journal = (.ok (), (journal.tell event).2) := by
    rw [← noted]
    exact Prod.ext ok rfl
  obtain ⟨text, legible⟩ := isLegible_of_noteFormatted ran
  exact ⟨text, legible.of_setup (tell_setup journal event) (written.of_run ran)⟩

section Telling

variable (kind : String) (database : Option String)

theorem tell_connected_ok (legible : journal.IsLegible) :
    (journal.tell (.connected kind database)).1 = .ok () :=
  legible.noteFormatted_ok (by decide) _

private theorem started_isSound (name : String) {total : Int}
    (writable : Numeral.IsWritable total) :
    (Progress.started (.text name) (.integer total)).IsSound := by
  have noneCompleted : Numeral.IsWritable 0 := Numeral.isWritable_of_small (by decide)
  have noRows : Int.natAbs 0 < Binary64.firstUnheld := Binary64.firstUnheld_pos
  exact ⟨⟨name, rfl⟩, ⟨total, rfl, writable⟩, noneCompleted, ⟨0, rfl, noRows⟩⟩

/-- An export that starts shows its own progress already. -/
theorem tell_exportStarted_run (name total workers : Cell) (journal : Journal) :
    journal.tell (.exportStarted name total workers) =
      (noteFormatted .info (Event.text (.exportStarted name total workers))).run
        { journal with progress := some (Progress.started name total) } := rfl

theorem text_exportStarted (name : Cell) {total workers : Int}
    (totalWritable : Numeral.IsWritable total) (workersWritable : Numeral.IsWritable workers) :
    Event.text (.exportStarted name (.integer total) (.integer workers)) =
      .ok ("Started export of " ++ Numeral.ofInt total ++ " queries with " ++
        Numeral.ofInt workers ++ " workers") := by
  simp only [Event.text, shown_integer totalWritable, shown_integer workersWritable]
  rfl

/-- The start of an export is told to a journal that shows its memory reading. -/
theorem tell_exportStarted (shows : journal.ShowsMemory) (name : String) {total workers : Int}
    (totalWritable : Numeral.IsWritable total) (workersWritable : Numeral.IsWritable workers) :
    ∃ told, journal.tell (.exportStarted (.text name) (.integer total) (.integer workers)) =
        (.ok (), told) ∧ told.setup = journal.setup ∧
      told.progress = some (Progress.started (.text name) (.integer total)) := by
  obtain ⟨started, begun⟩ : ∃ started : Journal, started =
      { journal with progress := some (Progress.started (.text name) (.integer total)) } :=
    ⟨_, rfl⟩
  have progress : started.progress =
      some (Progress.started (.text name) (.integer total)) := by rw [begun]
  obtain ⟨message, named⟩ : ∃ message, message =
      Event.text (.exportStarted (.text name) (.integer total) (.integer workers)) := ⟨_, rfl⟩
  have shown := named.trans (text_exportStarted (.text name) totalWritable workersWritable)
  have legible : started.IsLegible := by
    have startedShows : started.ShowsMemory := shows.of_setup (by rw [begun]; rfl)
    refine startedShows.isLegible ?_
    intro current found
    rw [progress] at found
    cases found
    exact started_isSound name totalWritable
  have written : ((noteFormatted .info message).run started).1 = .ok () := by
    rw [shown]
    exact legible.noteFormatted_ok (Nat.le_refl Level.info.weight) _
  have noted : Keeps Journal.progress (noteFormatted .info message) :=
    keeps_noteFormatted (fun _ _ => rfl) _ _
  have setup := tell_setup journal
    (.exportStarted (.text name) (.integer total) (.integer workers))
  rw [tell_exportStarted_run, ← begun, ← named] at setup ⊢
  exact ⟨((noteFormatted .info message).run started).2, Prod.ext written rfl, setup,
    (noted started).trans progress⟩

end Telling

end TableExport.Log
