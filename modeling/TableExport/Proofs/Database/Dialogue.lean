import TableExport.Database.Dialogue
import TableExport.Proofs.Sequence

/-!
Dialogues over one connection. A dialogue with a cursor makes the same kinds of
calls whatever becomes of it: none at all when the cursor is refused, else one
statement, some fetches and the closing of the cursor.
-/

set_option autoImplicit false

namespace TableExport.Database

def Call.IsFetch : Call → Prop
  | .fetchOne => True
  | .fetchMany _ => True
  | _ => False

inductive Asked (behaviour : Behaviour) : Option String → List Call → Prop
  | nothing : Asked behaviour none []
  | refused {sql reason : String} (cursor : behaviour.cursorError = some reason) :
      Asked behaviour (some sql) []
  | served {sql : String} {fetches : List Call} (cursor : behaviour.cursorError = none)
      (fetching : ∀ call ∈ fetches, call.IsFetch) :
      Asked behaviour (some sql) (.execute sql :: fetches ++ [.closeCursor])

structure Behaviour.Answers (behaviour : Behaviour) : Prop where
  cursor : behaviour.cursorError = none
  execute : behaviour.executeError = none
  fetch : behaviour.fetchError = none
  close : behaviour.closeError = none

def Dialogue.boundsCalls (sql : String) : List Call :=
  [.execute sql, .fetchOne, .closeCursor]

/-- The calls that a database meets when it is asked for bounds: none when it refuses the cursor,
and no fetch when it refuses the statement. -/
def Behaviour.callsForBounds (behaviour : Behaviour) (sql : String) : List Call :=
  match behaviour.cursorError, behaviour.executeError with
  | some _, _ => []
  | none, some _ => [.execute sql, .closeCursor]
  | none, none => Dialogue.boundsCalls sql

namespace Dialogue

private theorem call_run (made : Call) (calls : List Call) :
    (call made).run calls = (.ok (), calls ++ [made]) := rfl

private theorem refuseFor_run_ok_iff {reason : Option String} {calls after : List Call} :
    (refuseFor reason).run calls = (.ok (), after) ↔ reason = none ∧ after = calls := by
  cases reason with
  | none =>
      rw [refuseFor, Sequence.run_pure, Prod.mk.injEq]
      constructor
      · rintro ⟨_, rfl⟩
        exact ⟨rfl, rfl⟩
      · rintro ⟨_, rfl⟩
        exact ⟨rfl, rfl⟩
  | some text =>
      constructor
      · intro impossible
        cases impossible
      · rintro ⟨impossible, _⟩
        cases impossible

private theorem execute_ok {behaviour : Behaviour} {sql : String} {table : Option Table}
    {calls after : List Call}
    (ran : (execute behaviour sql).run calls = (.ok table, after)) :
    behaviour.executeError = none ∧ after = calls ++ [.execute sql] := by
  simp only [execute, Sequence.run_bind_ok_iff] at ran
  obtain ⟨_, called, calling, _, allowed, permitted, answered⟩ := ran
  obtain ⟨unrefused, stays⟩ := refuseFor_run_ok_iff.mp permitted
  refine ⟨unrefused, ?_⟩
  rw [stays, ← (Prod.mk.inj calling).2] at answered
  by_cases asks : asksBounds sql
  · rw [if_pos asks] at answered
    cases answered
    rfl
  · rw [if_neg asks] at answered
    cases reply : behaviour.reply sql with
    | ok found =>
        rw [reply] at answered
        cases answered
        rfl
    | error text =>
        rw [reply] at answered
        cases answered

private theorem fetchOne_ok {behaviour : Behaviour} {row : Option (List Cell)}
    {calls after : List Call}
    (ran : (fetchOne behaviour).run calls = (.ok row, after)) :
    behaviour.fetchError = none ∧ row = behaviour.row ∧ after = calls ++ [.fetchOne] := by
  simp only [fetchOne, Sequence.run_bind_ok_iff] at ran
  obtain ⟨_, called, calling, _, allowed, permitted, fetched⟩ := ran
  obtain ⟨unrefused, stays⟩ := refuseFor_run_ok_iff.mp permitted
  rw [stays, ← (Prod.mk.inj calling).2] at fetched
  cases fetched
  exact ⟨unrefused, rfl, rfl⟩

/-- Work with a cursor succeeds with what the work gives, and then closes the cursor. -/
theorem withCursor_ok {Value : Type} {behaviour : Behaviour} {work : Dialogue Value}
    {value : Value} {calls after : List Call}
    (ran : (withCursor behaviour work).run calls = (.ok value, after)) :
    behaviour.cursorError = none ∧ behaviour.closeError = none ∧
      ∃ worked, work.run calls = (.ok value, worked) ∧
        after = worked ++ [.closeCursor] := by
  simp only [withCursor, Sequence.run_bind_ok_iff] at ran
  obtain ⟨_, opened, permitted, outcome, worked, lifted, _, closed, called, _, left,
    closing, finished⟩ := ran
  obtain ⟨unrefused, opens⟩ := refuseFor_run_ok_iff.mp permitted
  obtain ⟨closes, leaves⟩ := refuseFor_run_ok_iff.mp closing
  rw [opens, Sequence.run_lift] at lifted
  obtain ⟨sameOutcome, sameWorked⟩ := Prod.mk.inj lifted
  rw [call_run] at called
  cases outcome with
  | error refusal => cases finished
  | ok found =>
      cases finished
      refine ⟨unrefused, closes, worked, Prod.ext (Except.ok.inj sameOutcome) sameWorked, ?_⟩
      rw [leaves, ← (Prod.mk.inj called).2]

theorem askBounds_ok {behaviour : Behaviour} {sql : String} {row : Option (List Cell)}
    {calls after : List Call}
    (ran : (askBounds behaviour sql).run calls = (.ok row, after)) :
    behaviour.Answers ∧ row = behaviour.row ∧ after = calls ++ boundsCalls sql := by
  obtain ⟨cursor, close, worked, asked, closed⟩ := withCursor_ok ran
  rw [Sequence.run_bind_ok_iff] at asked
  obtain ⟨table, executed, execution, fetching⟩ := asked
  obtain ⟨execute, first⟩ := execute_ok execution
  obtain ⟨fetch, sameRow, second⟩ := fetchOne_ok fetching
  refine ⟨⟨cursor, execute, fetch, close⟩, sameRow, ?_⟩
  rw [closed, second, first, boundsCalls, List.append_assoc, List.append_assoc]
  rfl

/-- A database that refuses nothing answers a statement for bounds with its row. -/
theorem askBounds_of_answers {behaviour : Behaviour} (answers : behaviour.Answers)
    {sql : String} (asks : asksBounds sql = true) (calls : List Call) :
    (askBounds behaviour sql).run calls = (.ok behaviour.row, calls ++ boundsCalls sql) := by
  simp only [askBounds, withCursor, execute, fetchOne, answers.cursor, answers.execute,
    answers.fetch, answers.close, refuseFor, Sequence.run_bind, Sequence.run_pure,
    Sequence.run_attempt, call_run, if_pos asks, boundsCalls, List.append_assoc]
  rfl

/-! ### Whatever becomes of it -/

/-- Work over a connection that adds nothing but fetches to its calls. -/
def OnlyFetches {Value : Type} (work : Dialogue Value) : Prop :=
  ∀ calls, ∃ fetches, (work.run calls).2 = calls ++ fetches ∧ ∀ call ∈ fetches, call.IsFetch

section Fetching

variable {Value Next : Type}

private theorem onlyFetches_pure (value : Value) : OnlyFetches (pure value) :=
  fun calls => ⟨[], (List.append_nil calls).symm, nofun⟩

private theorem onlyFetches_throw (refusal : Refusal) :
    OnlyFetches (throw refusal : Dialogue Value) :=
  fun calls => ⟨[], (List.append_nil calls).symm, nofun⟩

private theorem onlyFetches_refuseFor (reason : Option String) :
    OnlyFetches (refuseFor reason) := by
  cases reason with
  | none => exact onlyFetches_pure ()
  | some text => exact onlyFetches_throw _

theorem OnlyFetches.bind {work : Dialogue Value} {next : Value → Dialogue Next}
    (first : work.OnlyFetches) (later : ∀ value, (next value).OnlyFetches) :
    OnlyFetches (work >>= next) := by
  intro calls
  obtain ⟨fetches, made, fetching⟩ := first calls
  rw [Sequence.run_bind]
  rcases ran : work.run calls with ⟨refusal | value, middle⟩
  · rw [ran] at made
    exact ⟨fetches, made, fetching⟩
  · rw [ran] at made
    obtain ⟨others, madeLater, fetchingLater⟩ := later value middle
    refine ⟨fetches ++ others, ?_, List.forall_mem_append.mpr ⟨fetching, fetchingLater⟩⟩
    dsimp only at made
    rw [madeLater, made, List.append_assoc]

private theorem onlyFetches_fetchOne (behaviour : Behaviour) :
    (fetchOne behaviour).OnlyFetches := by
  have called : (call .fetchOne).OnlyFetches :=
    fun calls => ⟨[.fetchOne], rfl, List.forall_mem_singleton.mpr trivial⟩
  exact called.bind fun _ =>
    (onlyFetches_refuseFor behaviour.fetchError).bind fun _ => onlyFetches_pure _

private theorem onlyFetches_fetchBatches (columns : List String) (size : Int)
    (rows : List (List Cell)) : (fetchBatches columns size rows).OnlyFetches := by
  unfold fetchBatches
  refine OnlyFetches.bind ?_ fun _ => ?_
  · refine fun calls => ⟨_, rfl, fun call member => ?_⟩
    rw [List.eq_of_mem_replicate member]
    exact trivial
  · split
    · exact onlyFetches_throw _
    · split
      · exact onlyFetches_pure _
      · exact onlyFetches_throw _

private theorem onlyFetches_fetchAll (size : Given Int) (table : Table) :
    (fetchAll size table).OnlyFetches := by
  cases size with
  | value size => exact onlyFetches_fetchBatches table.columns size table.rows
  | struck =>
      have called : (call (.fetchMany .struck)).OnlyFetches :=
        fun calls => ⟨[.fetchMany .struck], rfl, List.forall_mem_singleton.mpr trivial⟩
      exact called.bind fun _ => onlyFetches_throw _

end Fetching

theorem execute_calls (behaviour : Behaviour) (sql : String) (calls : List Call) :
    ((execute behaviour sql).run calls).2 = calls ++ [.execute sql] := by
  simp only [execute, Sequence.run_bind, call_run]
  cases behaviour.executeError with
  | some reason => rfl
  | none =>
      simp only [refuseFor, Sequence.run_pure]
      by_cases asks : asksBounds sql
      · rw [if_pos asks]
        rfl
      · rw [if_neg asks]
        cases behaviour.reply sql with
        | ok table => rfl
        | error reason => rfl

private theorem fetchOne_calls (behaviour : Behaviour) (calls : List Call) :
    ((fetchOne behaviour).run calls).2 = calls ++ [.fetchOne] := by
  simp only [fetchOne, Sequence.run_bind, call_run]
  cases behaviour.fetchError with
  | some reason => rfl
  | none => rfl

private theorem withCursor_calls_refused {Value : Type} {behaviour : Behaviour} {reason : String}
    (cursor : behaviour.cursorError = some reason) (work : Dialogue Value)
    (calls : List Call) : ((withCursor behaviour work).run calls).2 = calls := by
  simp only [withCursor, cursor, Sequence.run_bind]
  rfl

private theorem withCursor_calls {Value : Type} {behaviour : Behaviour}
    (cursor : behaviour.cursorError = none) (work : Dialogue Value) (calls : List Call) :
    ((withCursor behaviour work).run calls).2 = (work.run calls).2 ++ [.closeCursor] := by
  simp only [withCursor, cursor, Sequence.run_bind, refuseFor, Sequence.run_pure,
    Sequence.run_attempt, call_run]
  cases behaviour.closeError with
  | some reason => rfl
  | none =>
      cases (work.run calls).1 with
      | error refusal => rfl
      | ok value => rfl

theorem askBounds_calls {sql : String} (asks : asksBounds sql = true) (behaviour : Behaviour)
    (calls : List Call) :
    ((askBounds behaviour sql).run calls).2 = calls ++ behaviour.callsForBounds sql := by
  cases cursor : behaviour.cursorError with
  | some reason =>
      rw [askBounds, withCursor_calls_refused cursor, Behaviour.callsForBounds, cursor,
        List.append_nil]
  | none =>
      rw [askBounds, withCursor_calls cursor, Sequence.run_bind]
      cases refused : behaviour.executeError with
      | some reason =>
          simp only [execute, refused, refuseFor, Sequence.run_bind, call_run,
            Behaviour.callsForBounds, cursor]
          exact List.append_assoc _ _ _
      | none =>
          simp only [execute, refused, refuseFor, Sequence.run_bind, call_run, if_pos asks,
            Sequence.run_pure, fetchOne_calls, Behaviour.callsForBounds, cursor, boundsCalls,
            List.append_assoc]
          rfl

/-- One statement is asked over a cursor, and the cursor is closed whatever comes of it. -/
theorem asked_withCursor {Value : Type} {next : Option Table → Dialogue Value}
    (fetches : ∀ table, (next table).OnlyFetches) (behaviour : Behaviour) (sql : String) :
    Asked behaviour (some sql)
      ((withCursor behaviour (execute behaviour sql >>= next)).run []).2 := by
  cases cursor : behaviour.cursorError with
  | some reason =>
      rw [withCursor_calls_refused cursor]
      exact .refused cursor
  | none =>
      have executed := execute_calls behaviour sql []
      rw [withCursor_calls cursor, Sequence.run_bind]
      rcases ran : (execute behaviour sql).run [] with ⟨refusal | table, middle⟩
      · rw [ran] at executed
        have unfetched : ∀ call ∈ ([] : List Call), call.IsFetch := nofun
        rw [show middle = [.execute sql] from executed]
        exact .served cursor unfetched
      · rw [ran] at executed
        obtain ⟨fetched, made, fetching⟩ := fetches table middle
        rw [made, show middle = [.execute sql] from executed]
        exact .served cursor fetching

theorem asked_askBounds (behaviour : Behaviour) (sql : String) :
    Asked behaviour (some sql) ((askBounds behaviour sql).run []).2 :=
  asked_withCursor (fun _ => onlyFetches_fetchOne behaviour) behaviour sql

theorem asked_askRows (behaviour : Behaviour) (sql : String) (size : Given Int) :
    Asked behaviour (some sql) (askRows behaviour sql size).outcome.2 := by
  refine asked_withCursor (fun table => ?_) behaviour sql
  cases table with
  | none => exact onlyFetches_throw _
  | some table => exact onlyFetches_fetchAll size table

end Dialogue

end TableExport.Database
