import TableExport.Log.Logger
import TableExport.Proofs.Files.Opening
import TableExport.Proofs.Sequence

/-!
The construction of a logger. Places to write to are attached first and the level
is set last, so a name that belongs to something that is no level leaves a channel
half set up: it writes to the console and perhaps to a file, but has no level of
its own and hands its records on. Whatever is constructed later under the same
name takes the channel as it is.
-/

set_option autoImplicit false

namespace TableExport.Log

open TableExport.Options
open TableExport.Sequence
open TableExport.Text

def standardLevels : List (String × Nat) :=
  [("CRITICAL", 50), ("FATAL", 50), ("ERROR", 40), ("WARNING", 30), ("WARN", 30), ("INFO", 20),
    ("DEBUG", 10), ("NOTSET", 0)]

/-- The weight of the standard level with a name in any letter case; any other text means the
usual level. -/
def standardWeight (name : String) : Nat :=
  (standardLevels.lookup (raisedToAscii name)).getD Level.info.weight

/-- The environment asks for a level by the name of something that is no level. -/
def NamesNoLevel (environment : Environment) : Prop :=
  raisedToAscii (levelName environment) ∈ ["BASIC_FORMAT", "_STYLES"]

instance (environment : Environment) : Decidable (NamesNoLevel environment) :=
  inferInstanceAs (Decidable (_ ∈ _))

private theorem raiseChar_toLower (character : Char) :
    raiseChar character.toLower = raiseChar character := by
  by_cases upper : character.isUpper = true
  · have letters : ∀ place < 26,
        raiseChar (Char.ofNat (65 + place)).toLower = raiseChar (Char.ofNat (65 + place)) := by
      decide
    obtain ⟨low, high⟩ := of_decide_eq_true upper
    have from65 : 65 ≤ character.toNat := low
    have to90 : character.toNat ≤ 90 := high
    have same := letters (character.toNat - 65) (by omega)
    rwa [Nat.add_sub_cancel' from65, Char.ofNat_toNat] at same
  · have same : character.toLower = character := by
      unfold Char.toLower
      exact dif_neg fun capital => upper (decide_eq_true capital)
    rw [same]

/-- Names that differ only in the case of their letters stand for one level. -/
theorem standardWeight_eq_of_lowered {name other : String}
    (same : loweredAscii name = loweredAscii other) :
    standardWeight name = standardWeight other := by
  have raised (text : String) : raisedToAscii (loweredAscii text) = raisedToAscii text := by
    unfold raisedToAscii loweredAscii
    rw [String.toList_ofList, List.flatMap_map]
    simp only [raiseChar_toLower]
  rw [standardWeight, standardWeight, ← raised name, ← raised other, same]

private theorem namedWeight_of_level {environment : Environment}
    (level : ¬ NamesNoLevel environment) :
    namedWeight (levelName environment) = .ok (standardWeight (levelName environment)) := by
  unfold NamesNoLevel at level
  unfold namedWeight standardWeight
  generalize raisedToAscii (levelName environment) = word at level ⊢
  split
  all_goals first
    | rfl
    | exact absurd (by decide) level
    | rw [List.lookup_eq_none_iff.mpr (by simp_all [standardLevels])]; rfl

private theorem namedWeight_of_noLevel {environment : Environment}
    (noLevel : NamesNoLevel environment) :
    ∃ fault, namedWeight (levelName environment) = .error fault := by
  unfold NamesNoLevel at noLevel
  unfold namedWeight
  rw [List.mem_cons, List.mem_singleton] at noLevel
  rcases noLevel with same | same
  · exact ⟨.formatText, by rw [same]; rfl⟩
  · exact ⟨.styleTable, by rw [same]; rfl⟩

section SettingUp

variable {environment : Environment} {site : Site}

/-- A channel that has somewhere to write to is not set up again. -/
theorem setUp_of_attached (attached : site.channel.sinks ≠ []) :
    (setUp environment).run site = (.ok (), site) := by
  unfold setUp
  rw [run_bind, run_get]
  dsimp only
  rw [if_neg (mt List.isEmpty_iff.mp attached), run_pure]

def Site.concluded (ready : Site) : Except LevelFault Nat → Except LevelFault Unit × Site
  | .ok weight => (.ok (), ready.setWeight weight)
  | .error fault => (.error fault, ready)

private theorem setUp_of_bare (bare : site.channel.sinks = []) :
    (setUp environment).run site =
      (Site.openFile environment { site with channel := site.channel.attach .console }).concluded
        (namedWeight (levelName environment)) := by
  unfold setUp
  rw [run_bind, run_get]
  dsimp only
  rw [if_pos (List.isEmpty_iff.mpr bare)]
  cases named : namedWeight (levelName environment) with
  | ok weight => rfl
  | error fault => rfl

/-- A site whose channel has the console to write to, and behind it exactly the log file that could
be opened among the files from before; the file stands there. -/
structure Attaches (environment : Environment) (files : Files.Tree) (site : Site) : Prop where
  sinks : site.channel.sinks = [.console] ∨ ∃ path, site.channel.sinks = [.console, .file path]
  file : ∀ path, .file path ∈ site.channel.sinks ↔
    environment.value? "LOG_FILE" = some path ∧ ∃ grown, files.openLog path = .ok grown
  stands : ∀ path, .file path ∈ site.channel.sinks → site.files.StandsAt path

private theorem attaches_openFile (consoled : site.channel.sinks = [.console]) :
    Attaches environment site.files (site.openFile environment) := by
  unfold Site.openFile
  cases named : environment.value? "LOG_FILE" with
  | none =>
      refine ⟨.inl consoled, ?_, ?_⟩
      · simp [consoled, named]
      · simp [consoled]
  | some path =>
      dsimp only
      cases opened : site.files.openLog path with
      | error fault =>
          refine ⟨.inl consoled, ?_, ?_⟩
          · simp only [consoled, named, List.mem_singleton, reduceCtorEq, Option.some.injEq,
              false_iff, not_and, not_exists]
            rintro _ rfl grown opens
            rw [opened] at opens
            cases opens
          · simp [consoled]
      | ok grown =>
          have attached : (site.channel.attach (.file path)).sinks = [.console, .file path] := by
            rw [Channel.attach, consoled]
            rfl
          refine ⟨.inr ⟨path, attached⟩, ?_, ?_⟩
          · simp only [attached, named, List.mem_cons, reduceCtorEq, Sink.file.injEq,
              List.not_mem_nil, or_false, false_or, Option.some.injEq]
            intro other
            constructor
            · rintro rfl
              exact ⟨rfl, grown, opened⟩
            · rintro ⟨rfl, _⟩
              rfl
          · intro other inside
            rw [attached] at inside
            have same : other = path := by simpa using inside
            rw [same]
            exact Files.Tree.standsAt_of_openLog opened

/-- Opening a log file leaves the level and the handing on of records alone. -/
theorem openFile_channel (environment : Environment) (site : Site) :
    (site.openFile environment).channel.weight = site.channel.weight ∧
      (site.openFile environment).channel.propagates = site.channel.propagates := by
  unfold Site.openFile
  cases environment.value? "LOG_FILE" with
  | none => exact ⟨rfl, rfl⟩
  | some path =>
      dsimp only
      cases site.files.openLog path <;> exact ⟨rfl, rfl⟩

end SettingUp

structure IsConstructed (environment : Environment) (files : Files.Tree)
    (made : Except LevelFault Unit × Site) : Prop where
  succeeds : made.1 = .ok () ↔ ¬ NamesNoLevel environment
  attaches : Attaches environment files made.2
  weight : made.2.channel.weight =
    if NamesNoLevel environment then 0 else standardWeight (levelName environment)
  propagates : made.2.channel.propagates = true ↔ NamesNoLevel environment
  again : ∀ later site, site.channel = made.2.channel →
    construct later site = (.ok (), { site with journal := { site.journal with progress := none } })

theorem Attaches.construct {environment : Environment} {files : Files.Tree} {site other : Site}
    (attaches : Attaches environment files site) (same : other.channel = site.channel)
    (later : Environment) : construct later other =
      (.ok (), { other with journal := { other.journal with progress := none } }) := by
  apply setUp_of_attached
  rw [same]
  rcases attaches.sinks with alone | ⟨path, both⟩
  · rw [alone]
    exact List.cons_ne_nil _ _
  · rw [both]
    exact List.cons_ne_nil _ _

theorem Attaches.setWeight {environment : Environment} {files : Files.Tree} {site : Site}
    (attaches : Attaches environment files site) (weight : Nat) :
    Attaches environment files (site.setWeight weight) :=
  ⟨attaches.sinks, attaches.file, attaches.stands⟩

/-- What setting up makes of a channel that has been given its places to write to. -/
theorem Attaches.isConstructed {environment : Environment} {files : Files.Tree} {ready : Site}
    (attaches : Attaches environment files ready) (weight : ready.channel.weight = 0)
    (propagates : ready.channel.propagates = true) :
    IsConstructed environment files (ready.concluded (namedWeight (levelName environment))) := by
  by_cases noLevel : NamesNoLevel environment
  · obtain ⟨fault, failed⟩ := namedWeight_of_noLevel noLevel
    rw [failed]
    have fails : (Except.error fault : Except LevelFault Unit) ≠ .ok () := nofun
    exact
      { succeeds := iff_of_false fails fun level => level noLevel
        attaches := attaches
        weight := weight.trans (if_pos noLevel).symm
        propagates := iff_of_true propagates noLevel
        again := fun later _ same => attaches.construct same later }
  · -- the weight gets a name, or each step below looks it up in the table again
    obtain ⟨heavy, named⟩ : ∃ heavy, standardWeight (levelName environment) = heavy := ⟨_, rfl⟩
    rw [namedWeight_of_level noLevel, named]
    have kept := attaches.setWeight heavy
    exact
      { succeeds := iff_of_true rfl noLevel
        attaches := kept
        weight := named.symm.trans (if_neg noLevel).symm
        propagates := iff_of_false Bool.false_ne_true noLevel
        again := fun later _ same => kept.construct same later }

/-- A logger is constructed whatever the environment and the files are, but for a name of something
that is no level. Then the channel is left half set up, and is taken so from then on. The case of
the letters in the name of a level does not count. -/
theorem construct_fresh (environment : Environment) (memory : Option Int) (files : Files.Tree) :
    IsConstructed environment files (construct environment (Site.fresh memory files)) ∧
      (¬ NamesNoLevel environment →
        ∀ name, loweredAscii name = loweredAscii (levelName environment) →
          (construct environment (Site.fresh memory files)).2.channel.weight =
            standardWeight name) := by
  let consoled : Site :=
    { Site.fresh memory files with channel := Channel.fresh.attach .console }
  have attaches : Attaches environment files (consoled.openFile environment) :=
    @attaches_openFile environment consoled rfl
  obtain ⟨weight, propagates⟩ := openFile_channel environment consoled
  have ran : construct environment (Site.fresh memory files) = _ := setUp_of_bare rfl
  have made :
      IsConstructed environment files (construct environment (Site.fresh memory files)) := by
    rw [ran]
    exact attaches.isConstructed weight propagates
  refine ⟨made, fun level name same => ?_⟩
  rw [made.weight, if_neg level, standardWeight_eq_of_lowered same]

/-- The default format of messages has a name like a level: the construction fails, and the next one
takes over a channel without a level of its own that hands its records on. -/
theorem construct_of_format_name :
    construct [("DBEXPORT_LOG_LEVEL", "BASIC_FORMAT")] (Site.fresh none .empty) =
        (.error .formatText,
          { Site.fresh none .empty with channel := ⟨[.console], 0, true⟩ }) ∧
      (construct [] { Site.fresh none .empty with channel := ⟨[.console], 0, true⟩ }).1 = .ok () ∧
      NamesNoLevel [("DBEXPORT_LOG_LEVEL", "BASIC_FORMAT")] :=
  ⟨rfl, rfl, by decide⟩

end TableExport.Log
