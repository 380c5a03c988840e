/-!
Work that may fail over a state, one piece after the other. A failure ends the
sequence and keeps the state it left behind. The laws here say what a run of a
sequence comes to; nothing is said about what the work does.
-/

set_option autoImplicit false

namespace TableExport.Sequence

variable {Fault State Value Next : Type}

theorem ok_bind (value : Value) (next : Value → Except Fault Next) :
    (Except.ok value >>= next) = next value := rfl

theorem bind_ok_iff (outcome : Except Fault Value) (next : Value → Except Fault Next)
    (result : Next) :
    (outcome >>= next) = .ok result ↔
      ∃ value, outcome = .ok value ∧ next value = .ok result := by
  cases outcome with
  | error fault =>
      constructor
      · intro impossible
        cases impossible
      · rintro ⟨value, impossible, _⟩
        cases impossible
  | ok value =>
      constructor
      · intro later
        exact ⟨value, rfl, later⟩
      · rintro ⟨other, same, later⟩
        cases same
        exact later

theorem checked_ok_iff {condition : Prop} [Decidable condition] (check : Except Fault Unit)
    (work : Except Fault Next) (result : Next) :
    (if condition then check >>= fun _ => work else work) = .ok result ↔
      (condition → check = .ok ()) ∧ work = .ok result := by
  by_cases holds : condition
  · rw [if_pos holds, bind_ok_iff, forall_prop_of_true holds]
    exact ⟨fun ⟨_, passed, later⟩ => ⟨passed, later⟩, fun ⟨passed, later⟩ => ⟨_, passed, later⟩⟩
  · rw [if_neg holds, and_iff_right fun impossible => absurd impossible holds]

theorem throw_ok_iff (fault : Fault) (value : Value) :
    (throw fault : Except Fault Value) = .ok value ↔ False :=
  iff_of_false nofun id

theorem mapError_ok {Other : Type} (change : Fault → Other) (value : Value) :
    (Except.ok value).mapError change = .ok value := rfl

theorem mapError_ok_iff {Other : Type} (change : Fault → Other)
    (outcome : Except Fault Value) (value : Value) :
    outcome.mapError change = .ok value ↔ outcome = .ok value := by
  cases outcome with
  | error fault =>
      constructor
      · intro impossible
        cases impossible
      · intro impossible
        cases impossible
  | ok found =>
      constructor
      · intro same
        cases same
        rfl
      · intro same
        cases same
        rfl

theorem ok_of_toOption {outcome : Except Fault Value} {value : Value}
    (found : outcome.toOption = some value) : outcome = .ok value := by
  cases outcome with
  | error fault => cases found
  | ok other =>
      cases found
      rfl

theorem mapM_ok {work : Value → Except Fault Next} {expected : Value → Next}
    (known : ∀ value result, work value = .ok result → result = expected value)
    {values : List Value} {results : List Next} (traversed : values.mapM work = .ok results) :
    results = values.map expected := by
  induction values generalizing results with
  | nil =>
      cases traversed
      rfl
  | cons value rest inductionHypothesis =>
      rw [List.mapM_cons, bind_ok_iff] at traversed
      obtain ⟨first, found, later⟩ := traversed
      rw [bind_ok_iff] at later
      obtain ⟨others, traversedRest, same⟩ := later
      cases same
      rw [List.map_cons, known value first found, inductionHypothesis traversedRest]

/-- A traversal succeeds with a map where each piece of its work does. -/
theorem mapM_eq_map {work : Value → Except Fault Next} {expected : Value → Next}
    {values : List Value} (each : ∀ value ∈ values, work value = .ok (expected value)) :
    values.mapM work = .ok (values.map expected) := by
  induction values with
  | nil => rfl
  | cons value rest inductionHypothesis =>
      have later := inductionHypothesis
        (fun other member => each other (List.mem_cons_of_mem _ member))
      rw [List.mapM_cons, each value List.mem_cons_self, later]
      rfl

theorem run_bind (work : ExceptT Fault (StateM State) Value)
    (next : Value → ExceptT Fault (StateM State) Next) (state : State) :
    (work >>= next).run state =
      match work.run state with
      | (.ok value, after) => (next value).run after
      | (.error fault, after) => (.error fault, after) := by
  change ExceptT.bindCont next (ExceptT.run work state).1
    (ExceptT.run work state).2 = _
  rcases ExceptT.run work state with ⟨_ | _, after⟩
  · rfl
  · rfl

theorem run_pure (value : Value) (state : State) :
    (pure value : ExceptT Fault (StateM State) Value).run state =
      (.ok value, state) := rfl

theorem run_get (state : State) :
    (get : ExceptT Fault (StateM State) State).run state =
      (.ok state, state) := rfl

theorem run_set (state other : State) :
    (set other : ExceptT Fault (StateM State) PUnit).run state =
      (.ok ⟨⟩, other) := rfl

theorem run_lift (work : StateM State Value) (state : State) :
    (ExceptT.lift work : ExceptT Fault (StateM State) Value).run state =
      (.ok (work.run state).1, (work.run state).2) := rfl

/-- Work that is only attempted never fails; its outcome is handed on. -/
theorem run_attempt (work : ExceptT Fault (StateM State) Value) (state : State) :
    (ExceptT.lift work.run : ExceptT Fault (StateM State) (Except Fault Value)).run state =
      (.ok (work.run state).1, (work.run state).2) := rfl

theorem run_ofExcept (outcome : Except Fault Value) (state : State) :
    (ofExcept outcome : ExceptT Fault (StateM State) Value).run state =
      (outcome, state) := by
  cases outcome with
  | ok value => rfl
  | error fault => rfl

/-- A sequence succeeds exactly when both of its pieces do. -/
theorem run_bind_ok_iff (work : ExceptT Fault (StateM State) Value)
    (next : Value → ExceptT Fault (StateM State) Next) (state after : State)
    (result : Next) :
    (work >>= next).run state = (.ok result, after) ↔
      ∃ value middle, work.run state = (.ok value, middle) ∧
        (next value).run middle = (.ok result, after) := by
  rw [run_bind]
  rcases ran : work.run state with ⟨fault | value, middle⟩
  · constructor
    · intro impossible
      cases impossible
    · rintro ⟨value, other, impossible, _⟩
      cases impossible
  · constructor
    · intro later
      exact ⟨value, middle, rfl, later⟩
    · rintro ⟨other, left, same, later⟩
      cases same
      exact later

/-- A pair of an outcome and a state is a success when the outcome is. -/
theorem run_ofExcept_ok_iff (outcome : Except Fault Value) (state after : State)
    (value : Value) :
    (ofExcept outcome : ExceptT Fault (StateM State) Value).run state =
        (.ok value, after) ↔
      outcome = .ok value ∧ after = state := by
  rw [run_ofExcept, Prod.mk.injEq]
  exact and_congr_right fun _ => eq_comm

theorem run_of_outcome {ran : Except Fault Value × State} {value : Value}
    (found : ran.1.toOption = some value) : ran = (.ok value, ran.2) :=
  Prod.ext (ok_of_toOption found) rfl

theorem run_of_error {ran : Except Fault Value × State} {fault : Fault}
    (failed : ran.1 = .error fault) : ran = (.error fault, ran.2) :=
  Prod.ext failed rfl

theorem run_of_toOption {ran : Except Fault Value × State} {value : Value} {after : State}
    (found : (ran.1.toOption, ran.2) = (some value, after)) : ran = (.ok value, after) := by
  obtain ⟨same, stays⟩ := Prod.mk.inj found
  exact Prod.ext (ok_of_toOption same) stays

end TableExport.Sequence
