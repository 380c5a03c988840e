import TableExport.Proofs.Sequence

/-!
Two pieces of work, run side by side. From states that are related they lead to
the same fault or to values that are alike, and to states that are related again,
perhaps in another way. Where it is the same way they agree; and a sequence
agrees with another when their pieces do.
-/

set_option autoImplicit false

namespace TableExport.Sequence

variable {Fault State Value Other Next Later : Type}

inductive AlikeOutcomes (alike : Value → Other → Prop) :
    Except Fault Value → Except Fault Other → Prop
  | ok {left : Value} {right : Other} (same : alike left right) :
      AlikeOutcomes alike (.ok left) (.ok right)
  | error (fault : Fault) : AlikeOutcomes alike (.error fault) (.error fault)

/-- Two pieces of work that lead from states that are related in one way to states that are
related in another, and come to outcomes that are alike. -/
def Lead (before after : State → State → Prop) (alike : Value → Other → Prop)
    (first : ExceptT Fault (StateM State) Value)
    (second : ExceptT Fault (StateM State) Other) : Prop :=
  ∀ left right, before left right →
    AlikeOutcomes alike (first.run left).1 (second.run right).1 ∧
      after (first.run left).2 (second.run right).2

/-- Two pieces of work that keep states related and come to outcomes that are alike. -/
abbrev Agree (related : State → State → Prop) (alike : Value → Other → Prop)
    (first : ExceptT Fault (StateM State) Value)
    (second : ExceptT Fault (StateM State) Other) : Prop :=
  Lead related related alike first second

theorem AlikeOutcomes.eq {left right : Except Fault Value}
    (same : AlikeOutcomes Eq left right) : left = right := by
  cases same with
  | ok same => rw [same]
  | error fault => rfl

theorem alikeOutcomes_refl {alike : Value → Value → Prop} (each : ∀ value, alike value value)
    (outcome : Except Fault Value) : AlikeOutcomes alike outcome outcome := by
  cases outcome with
  | error fault => exact .error fault
  | ok value => exact .ok (each value)

theorem AlikeOutcomes.imp {alike weaker : Value → Other → Prop} {left : Except Fault Value}
    {right : Except Fault Other} (same : AlikeOutcomes alike left right)
    (weakens : ∀ one other, alike one other → weaker one other) :
    AlikeOutcomes weaker left right := by
  cases same with
  | ok values => exact .ok (weakens _ _ values)
  | error fault => exact .error fault

theorem AlikeOutcomes.mapError {alike : Value → Other → Prop} {left : Except Fault Value}
    {right : Except Fault Other} (same : AlikeOutcomes alike left right)
    (change : Fault → Next) :
    AlikeOutcomes alike (left.mapError change) (right.mapError change) := by
  cases same with
  | ok values => exact .ok values
  | error fault => exact .error (change fault)

section Working

variable {related : State → State → Prop} {alike : Value → Other → Prop}

theorem agree_pure {left : Value} {right : Other} (same : alike left right) :
    Agree related alike (pure left : ExceptT Fault (StateM State) Value) (pure right) :=
  fun _ _ held => ⟨.ok same, held⟩

theorem agree_throw (fault : Fault) :
    Agree related alike (throw fault : ExceptT Fault (StateM State) Value) (throw fault) :=
  fun _ _ held => ⟨.error fault, held⟩

theorem agree_get :
    Agree related related (get : ExceptT Fault (StateM State) State) get :=
  fun _ _ held => ⟨.ok held, held⟩

theorem agree_set {left right : State} (held : related left right) :
    Agree related Eq (set left : ExceptT Fault (StateM State) PUnit) (set right) :=
  fun _ _ _ => ⟨.ok rfl, held⟩

theorem agree_modify {first second : State → State}
    (keeps : ∀ left right, related left right → related (first left) (second right)) :
    Agree related Eq (modify first : ExceptT Fault (StateM State) PUnit) (modify second) :=
  fun left right held => ⟨.ok rfl, keeps left right held⟩

theorem agree_ofExcept {left : Except Fault Value} {right : Except Fault Other}
    (same : AlikeOutcomes alike left right) :
    Agree related alike (ofExcept left : ExceptT Fault (StateM State) Value)
      (ofExcept right) := by
  intro before after held
  rw [run_ofExcept, run_ofExcept]
  exact ⟨same, held⟩

theorem agree_ofExcept_same (outcome : Except Fault Value) :
    Agree related Eq (ofExcept outcome : ExceptT Fault (StateM State) Value)
      (ofExcept outcome) :=
  agree_ofExcept (alikeOutcomes_refl (fun _ => rfl) outcome)

theorem Lead.bind {before middle after : State → State → Prop} {further : Next → Later → Prop}
    {first : ExceptT Fault (StateM State) Value} {second : ExceptT Fault (StateM State) Other}
    {left : Value → ExceptT Fault (StateM State) Next}
    {right : Other → ExceptT Fault (StateM State) Later}
    (lead : Lead before middle alike first second)
    (stops : ∀ one other, middle one other → after one other)
    (next : ∀ one other, alike one other → Lead middle after further (left one) (right other)) :
    Lead before after further (first >>= left) (second >>= right) := by
  intro start startToo held
  obtain ⟨same, kept⟩ := lead start startToo held
  rw [run_bind, run_bind]
  rcases ran : first.run start with ⟨outcome, reached⟩
  rcases ranToo : second.run startToo with ⟨outcomeToo, reachedToo⟩
  rw [ran, ranToo] at same kept
  cases same with
  | ok values => exact next _ _ values reached reachedToo kept
  | error fault => exact ⟨.error fault, stops _ _ kept⟩

theorem Agree.bind {further : Next → Later → Prop}
    {first : ExceptT Fault (StateM State) Value} {second : ExceptT Fault (StateM State) Other}
    {left : Value → ExceptT Fault (StateM State) Next}
    {right : Other → ExceptT Fault (StateM State) Later}
    (agree : Agree related alike first second)
    (next : ∀ one other, alike one other → Agree related further (left one) (right other)) :
    Agree related further (first >>= left) (second >>= right) :=
  Lead.bind agree (fun _ _ held => held) next

theorem Agree.bind_same {further : Next → Later → Prop}
    {first second : ExceptT Fault (StateM State) Value}
    {left : Value → ExceptT Fault (StateM State) Next}
    {right : Value → ExceptT Fault (StateM State) Later} (agree : Agree related Eq first second)
    (next : ∀ value, Agree related further (left value) (right value)) :
    Agree related further (first >>= left) (second >>= right) := by
  refine agree.bind fun value _ equal => ?_
  cases equal
  exact next value

theorem Lead.attempt {before after : State → State → Prop}
    {first : ExceptT Fault (StateM State) Value} {second : ExceptT Fault (StateM State) Other}
    (lead : Lead before after alike first second) :
    Lead before after (AlikeOutcomes alike)
      (ExceptT.lift first.run : ExceptT Fault (StateM State) (Except Fault Value))
      (ExceptT.lift second.run) := by
  intro left right held
  obtain ⟨same, kept⟩ := lead left right held
  rw [run_attempt, run_attempt]
  exact ⟨.ok same, kept⟩

theorem Lead.of_run_ok {before after : State → State → Prop}
    {first : ExceptT Fault (StateM State) Value} {second : ExceptT Fault (StateM State) Other}
    {left right reached : State} {value : Value} (lead : Lead before after alike first second)
    (held : before left right) (ran : first.run left = (.ok value, reached)) :
    ∃ other reachedToo, second.run right = (.ok other, reachedToo) ∧ alike value other ∧
      after reached reachedToo := by
  obtain ⟨same, kept⟩ := lead left right held
  rcases ranToo : second.run right with ⟨outcome, reachedToo⟩
  rw [ran, ranToo] at same kept
  cases same with
  | ok values => exact ⟨_, reachedToo, rfl, values, kept⟩

end Working

end TableExport.Sequence
