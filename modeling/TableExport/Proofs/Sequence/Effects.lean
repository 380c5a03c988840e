import TableExport.Proofs.Sequence

/-!
What work over a state keeps, and how it can fail. A view of the state is kept by
a sequence when each of its pieces keeps it, whatever the outcome; and a sequence
fails in the ways in which its pieces fail.
-/

set_option autoImplicit false

namespace TableExport.Sequence

variable {Fault State Value Next View : Type}

/-- Work that leaves a view of the state as it is, whatever comes of it. -/
def Keeps (view : State → View) (work : ExceptT Fault (StateM State) Value) : Prop :=
  ∀ state, view (work.run state).2 = view state

def FailsOnly (way : Fault → Prop) (work : ExceptT Fault (StateM State) Value) : Prop :=
  ∀ state fault after, work.run state = (.error fault, after) → way fault

def RefusesOnly (way : Fault → Prop) (outcome : Except Fault Value) : Prop :=
  ∀ fault, outcome = .error fault → way fault

theorem keeps_pure (view : State → View) (value : Value) :
    Keeps view (pure value : ExceptT Fault (StateM State) Value) :=
  fun _ => rfl

theorem keeps_get (view : State → View) :
    Keeps view (get : ExceptT Fault (StateM State) State) :=
  fun _ => rfl

theorem keeps_throw (view : State → View) (fault : Fault) :
    Keeps view (throw fault : ExceptT Fault (StateM State) Value) :=
  fun _ => rfl

theorem keeps_ofExcept (view : State → View) (outcome : Except Fault Value) :
    Keeps view (ofExcept outcome : ExceptT Fault (StateM State) Value) := by
  intro state
  rw [run_ofExcept]

theorem Keeps.bind {view : State → View} {work : ExceptT Fault (StateM State) Value}
    {next : Value → ExceptT Fault (StateM State) Next} (first : Keeps view work)
    (later : ∀ value, Keeps view (next value)) : Keeps view (work >>= next) := by
  intro state
  have kept := first state
  rw [run_bind]
  rcases ran : work.run state with ⟨fault | value, middle⟩
  · rw [ran] at kept
    exact kept
  · rw [ran] at kept
    exact (later value middle).trans kept

theorem Keeps.forM {view : State → View} {work : Value → ExceptT Fault (StateM State) PUnit}
    (each : ∀ value, Keeps view (work value)) (values : List Value) :
    Keeps view (values.forM work) := by
  induction values with
  | nil => exact keeps_pure view _
  | cons value rest inductionHypothesis =>
      exact (each value).bind fun _ => inductionHypothesis

theorem view_bind {view : State → View} {next : Value → ExceptT Fault (StateM State) Next}
    (later : ∀ value, Keeps view (next value)) (work : ExceptT Fault (StateM State) Value)
    (state : State) : view ((work >>= next).run state).2 = view (work.run state).2 := by
  rw [run_bind]
  rcases work.run state with ⟨fault | value, middle⟩
  · rfl
  · exact later value middle

theorem Keeps.of_run {view : State → View} {work : ExceptT Fault (StateM State) Value}
    (kept : Keeps view work) {state after : State} {outcome : Except Fault Value}
    (ran : work.run state = (outcome, after)) : view after = view state := by
  have same := kept state
  rw [ran] at same
  exact same

theorem refusesOnly_ok (way : Fault → Prop) (value : Value) :
    RefusesOnly way (Except.ok value) := by
  intro fault impossible
  cases impossible

theorem refusesOnly_error {way : Fault → Prop} {fault : Fault} (held : way fault) :
    RefusesOnly way (Except.error fault : Except Fault Value) := by
  intro other same
  cases same
  exact held

theorem refusesOnly_mapError {Other : Type} {way : Fault → Prop} {change : Other → Fault}
    (held : ∀ fault, way (change fault)) (outcome : Except Other Value) :
    RefusesOnly way (outcome.mapError change) := by
  cases outcome with
  | error fault => exact refusesOnly_error (held fault)
  | ok value => exact refusesOnly_ok way value

theorem RefusesOnly.bind {way : Fault → Prop} {outcome : Except Fault Value}
    {next : Value → Except Fault Next} (first : RefusesOnly way outcome)
    (later : ∀ value, RefusesOnly way (next value)) : RefusesOnly way (outcome >>= next) := by
  cases outcome with
  | error fault => exact refusesOnly_error (first fault rfl)
  | ok value => exact later value

theorem RefusesOnly.mapM {way : Fault → Prop} {work : Value → Except Fault Next}
    (each : ∀ value, RefusesOnly way (work value)) (values : List Value) :
    RefusesOnly way (values.mapM work) := by
  induction values with
  | nil => exact refusesOnly_ok way []
  | cons value rest inductionHypothesis =>
      rw [List.mapM_cons]
      exact (each value).bind fun first =>
        inductionHypothesis.bind fun others => refusesOnly_ok way (first :: others)

/-- What is refused in one way only, and is refused, is that fault. -/
theorem RefusesOnly.eq_error {fault : Fault} {outcome : Except Fault Value}
    (refuses : RefusesOnly (· = fault) outcome) (fails : ∀ value, outcome ≠ .ok value) :
    outcome = .error fault := by
  cases outcome with
  | error other => exact congrArg Except.error (refuses other rfl)
  | ok value => exact absurd rfl (fails value)

theorem failsOnly_pure (way : Fault → Prop) (value : Value) :
    FailsOnly way (pure value : ExceptT Fault (StateM State) Value) := by
  intro state fault after ran
  cases ran

theorem failsOnly_get (way : Fault → Prop) :
    FailsOnly way (get : ExceptT Fault (StateM State) State) := by
  intro state fault after ran
  cases ran

theorem failsOnly_modify (way : Fault → Prop) (change : State → State) :
    FailsOnly way (modify change : ExceptT Fault (StateM State) PUnit) := by
  intro state fault after ran
  cases ran

theorem failsOnly_throw {way : Fault → Prop} {fault : Fault} (held : way fault) :
    FailsOnly way (throw fault : ExceptT Fault (StateM State) Value) := by
  intro state other after ran
  cases ran
  exact held

theorem failsOnly_ofExcept {way : Fault → Prop} {outcome : Except Fault Value}
    (refuses : RefusesOnly way outcome) :
    FailsOnly way (ofExcept outcome : ExceptT Fault (StateM State) Value) := by
  intro state fault after ran
  rw [run_ofExcept] at ran
  exact refuses fault (Prod.mk.inj ran).1

theorem FailsOnly.bind {way : Fault → Prop} {work : ExceptT Fault (StateM State) Value}
    {next : Value → ExceptT Fault (StateM State) Next} (first : FailsOnly way work)
    (later : ∀ value, FailsOnly way (next value)) : FailsOnly way (work >>= next) := by
  intro state fault after ran
  rw [run_bind] at ran
  rcases worked : work.run state with ⟨other | value, middle⟩
  · rw [worked] at ran
    obtain ⟨same, _⟩ := Prod.mk.inj ran
    cases same
    exact first state _ middle worked
  · rw [worked] at ran
    exact later value middle fault after ran

theorem FailsOnly.forM {way : Fault → Prop} {work : Value → ExceptT Fault (StateM State) PUnit}
    (each : ∀ value, FailsOnly way (work value)) (values : List Value) :
    FailsOnly way (values.forM work) := by
  induction values with
  | nil => exact failsOnly_pure way _
  | cons value rest inductionHypothesis =>
      exact (each value).bind fun _ => inductionHypothesis

end TableExport.Sequence
