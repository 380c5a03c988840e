import TableExport.Proofs.Sequence.Effects
import TableExport.Session

/-!
What each step of a session does to it. Telling changes the journal alone, and
printing the printed text alone; an opening is kept once the work over it is
done, with the closing of the connection as its last call.
-/

set_option autoImplicit false

namespace TableExport

open TableExport.Connection
open TableExport.Database
open TableExport.Log

/-- A setting without variables in which no time passes. -/
def Setting.timeless (database : Behaviour) : Setting :=
  { environment := []
    now := ⟨⟨2027, 8, 1, by decide, by decide, by decide, by decide, by decide, by decide⟩,
      0, 0, by decide⟩
    database := database
    probeTime := .zero
    queryTime := .zero
    totalTime := .zero }

/-- A session without files whose journal keeps no messages. -/
def Session.empty : Session :=
  { journal := ⟨100, none, none, []⟩
    files := Files.Tree.empty
    openings := []
    parts := []
    printed := "" }

namespace Work

theorem tell_run (event : Event) (session : Session) :
    (tell event).run session =
      ((session.journal.tell event).1.mapError Failure.cell,
        { session with journal := (session.journal.tell event).2 }) := by
  simp only [tell, Sequence.run_bind, Sequence.run_get, Sequence.run_set,
    Sequence.run_ofExcept]

theorem print_run (text : String) (session : Session) :
    (print text).run session =
      (.ok (), { session with printed := session.printed ++ text }) := rfl

private theorem keepOpening_run (opening : Opening) (session : Session) :
    (keepOpening opening).run session =
      (.ok (), { session with openings := session.openings ++ [opening] }) := rfl

theorem planAlone_run {Value : Type} (planning : Planning Value) (session : Session) :
    (planAlone planning).run session =
      ((planning.run ⟨session.journal, []⟩).1,
        { session with journal := (planning.run ⟨session.journal, []⟩).2.journal }) := by
  rcases planned : planning.run ⟨session.journal, []⟩ with ⟨outcome, exchange⟩
  simp only [planAlone, Sequence.run_bind, Sequence.run_get, planned, Sequence.run_set,
    Sequence.run_ofExcept]

theorem planOver_run {Value : Type} (target : Target) (planning : Planning Value)
    (session : Session) :
    (planOver target planning).run session =
      ((planning.run ⟨session.journal, []⟩).1,
        { session with
          journal := (planning.run ⟨session.journal, []⟩).2.journal
          openings := session.openings ++
            [⟨target, (planning.run ⟨session.journal, []⟩).2.calls ++ [.closeConnection]⟩] }) := by
  rcases planned : planning.run ⟨session.journal, []⟩ with ⟨outcome, exchange⟩
  simp only [planOver, Sequence.run_bind, Sequence.run_get, planned, Sequence.run_set,
    Sequence.run_ofExcept, keepOpening_run]

section Opening

variable {setting : Setting} {config : Config} {session : Session}

theorem connect_run_unsupported {failure : Failure}
    (attempted : attempt setting.database config session.openings.length =
      .unsupported failure) :
    (connect setting config).run session = (.error failure, session) := by
  simp only [connect, Sequence.run_bind, Sequence.run_get, attempted]
  rfl

theorem connect_run_refused {target : Target} {failure : Failure}
    (attempted : attempt setting.database config session.openings.length =
      .refused target failure) :
    (connect setting config).run session =
      (.error failure,
        { session with openings := session.openings ++ [⟨target, []⟩] }) := by
  simp only [connect, Sequence.run_bind, Sequence.run_get, attempted]
  rfl

theorem connect_run_absent {kind : DatabaseKind} {target : Target}
    (attempted : attempt setting.database config session.openings.length =
      .absent kind target) :
    (connect setting config).run session =
      (((session.journal.tell (.connected kind.name config.database)).1.mapError
          Failure.cell).map fun _ => none,
        { session with
          journal := (session.journal.tell (.connected kind.name config.database)).2
          openings := session.openings ++ [⟨target, []⟩] }) := by
  simp only [connect, Sequence.run_bind, Sequence.run_get, attempted, keepOpening_run, tell_run]
  cases (session.journal.tell (.connected kind.name config.database)).1 with
  | error fault => rfl
  | ok _ => rfl

theorem connect_run_ready {kind : DatabaseKind} {target : Target}
    (attempted : attempt setting.database config session.openings.length =
      .ready kind target)
    (told : (session.journal.tell (.connected kind.name config.database)).1 = .ok ()) :
    (connect setting config).run session =
      (.ok (some target),
        { session with
          journal := (session.journal.tell (.connected kind.name config.database)).2 }) := by
  simp only [connect, tellOpened, Sequence.run_bind, Sequence.run_get, attempted,
    Sequence.run_attempt, tell_run, told]
  rfl

theorem connect_run_untold {kind : DatabaseKind} {target : Target} {fault : Cell.Fault}
    (attempted : attempt setting.database config session.openings.length =
      .ready kind target)
    (untold : (session.journal.tell (.connected kind.name config.database)).1 = .error fault) :
    (connect setting config).run session =
      (.error (.cell fault),
        { session with
          journal := (session.journal.tell (.connected kind.name config.database)).2
          openings := session.openings ++ [⟨target, []⟩] }) := by
  simp only [connect, tellOpened, Sequence.run_bind, Sequence.run_get, attempted,
    Sequence.run_attempt, tell_run, untold]
  rfl

end Opening

/-- A view of a session that does not look at the journal. -/
def IsBlindToJournal {View : Type} (view : Session → View) : Prop :=
  ∀ session journal, view { session with journal := journal } = view session

theorem keeps_tell {View : Type} {view : Session → View} (blind : IsBlindToJournal view)
    (event : Event) : Sequence.Keeps view (tell event) := by
  intro session
  rw [tell_run]
  exact blind session _

theorem failsOnly_tell {way : Failure → Prop} (held : ∀ fault, way (.cell fault))
    (event : Event) : Sequence.FailsOnly way (tell event) := by
  intro session failure after ran
  rw [tell_run] at ran
  obtain ⟨same, _⟩ := Prod.mk.inj ran
  exact Sequence.refusesOnly_mapError held _ failure same

def IsBlindToOpenings {View : Type} (view : Session → View) : Prop :=
  ∀ session openings, view { session with openings := openings } = view session

private theorem view_journal_openings {View : Type} {view : Session → View}
    (blind : IsBlindToJournal view) (unseen : IsBlindToOpenings view) (session : Session)
    (journal : Journal) (openings : List Opening) :
    view { session with journal := journal, openings := openings } = view session :=
  (blind { session with openings := openings } journal).trans (unseen session openings)

theorem keeps_connect {View : Type} {view : Session → View} (blind : IsBlindToJournal view)
    (unseen : IsBlindToOpenings view) (setting : Setting) (config : Config) :
    Sequence.Keeps view (connect setting config) := by
  intro session
  rcases attempted : attempt setting.database config session.openings.length with
    failure | ⟨target, failure⟩ | ⟨kind, target⟩ | ⟨kind, target⟩
  · rw [connect_run_unsupported attempted]
  · rw [connect_run_refused attempted]
    exact unseen session _
  · rw [connect_run_absent attempted]
    exact view_journal_openings blind unseen session _ _
  · rcases told : (session.journal.tell (.connected kind.name config.database)).1 with fault | _
    · rw [connect_run_untold attempted told]
      exact view_journal_openings blind unseen session _ _
    · rw [connect_run_ready attempted told]
      exact blind session _

theorem keeps_planOver {View Value : Type} {view : Session → View}
    (blind : IsBlindToJournal view) (unseen : IsBlindToOpenings view) (target : Target)
    (planning : Planning Value) : Sequence.Keeps view (planOver target planning) := by
  intro session
  rw [planOver_run]
  exact view_journal_openings blind unseen session _ _

theorem keeps_planAlone {View Value : Type} {view : Session → View}
    (blind : IsBlindToJournal view) (planning : Planning Value) :
    Sequence.Keeps view (planAlone planning) := by
  intro session
  rw [planAlone_run]
  exact blind session _

theorem failsOnly_planAlone {Value : Type} {way : Failure → Prop} {planning : Planning Value}
    (fails : Sequence.FailsOnly way planning) :
    Sequence.FailsOnly way (planAlone planning) := by
  intro session failure after ran
  rw [planAlone_run] at ran
  obtain ⟨same, _⟩ := Prod.mk.inj ran
  exact fails _ failure _ (Prod.ext same rfl)

theorem failsOnly_planOver {Value : Type} {way : Failure → Prop} {planning : Planning Value}
    (fails : Sequence.FailsOnly way planning) (target : Target) :
    Sequence.FailsOnly way (planOver target planning) := by
  intro session failure after ran
  rw [planOver_run] at ran
  obtain ⟨same, _⟩ := Prod.mk.inj ran
  exact fails _ failure _ (Prod.ext same rfl)

end Work

end TableExport
