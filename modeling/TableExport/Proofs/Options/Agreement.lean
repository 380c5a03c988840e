import TableExport.Proofs.Options.Changes
import TableExport.Proofs.Sequence.Agreement

/-!
Options that agree in all but the option of one flag. They still agree when one
more flag is acted on, and they are the same as soon as the flag itself is: a
value that is given takes the place of whatever stood there. A command line that
mentions the flag is therefore read alike over both.
-/

set_option autoImplicit false

namespace TableExport.Options

open TableExport.Sequence

/-- Options that agree in every option but the one of a flag. -/
def AgreeBut (flag : Flag) (first second : Options) : Prop :=
  ∀ other, other ≠ flag → held first other = held second other

section Valued

variable (options : Options) {flag : Flag} (clustered : Bool)

private theorem actOn_own (unhelpful : flag ≠ .help) (unswitched : ∀ switch, flag ≠ .switch switch)
    (text : String) (rest : List Argument) :
    actOn options (.flag flag clustered (some text) :: rest) =
      (apply options flag (given text) >>= fun options => actOn options rest) := by
  rw [actOn]
  · exact unhelpful
  · exact unswitched

private theorem actOn_next (unhelpful : flag ≠ .help) (unswitched : ∀ switch, flag ≠ .switch switch)
    (text : String) (rest : List Argument) :
    actOn options (.flag flag clustered none :: .value text :: rest) =
      (apply options flag (.value text) >>= fun options => actOn options rest) := by
  rw [actOn]
  · exact unhelpful
  · exact unswitched

private theorem actOn_valueless (unhelpful : flag ≠ .help)
    (unswitched : ∀ switch, flag ≠ .switch switch) {rest : List Argument}
    (valueless : ∀ text later, rest ≠ .value text :: later) :
    actOn options (.flag flag clustered none :: rest) =
      .error (.usage (.valueMissing flag)) := by
  rw [actOn]
  · exact unhelpful
  · exact unswitched
  · exact valueless

end Valued

namespace AgreeBut

variable {flag : Flag} {first second : Options}

theorem act (agree : AgreeBut flag first second) (change : Change) :
    AgreeBut flag (change.act first) (change.act second) := by
  intro other different
  rw [Change.held_act, Change.held_act, agree other different]

theorem apply (agree : AgreeBut flag first second) (other : Flag) (value : Given String) :
    AlikeOutcomes (AgreeBut flag) (apply first other value) (apply second other value) := by
  rcases apply_cases other value with ⟨exit, ends⟩ | ⟨change, _, acts, _⟩
  · rw [ends, ends]
    exact .error exit
  · rw [acts, acts]
    exact .ok (agree.act change)

theorem act_eq (agree : AgreeBut flag first second) {change : Change} (own : change.flag = flag) :
    change.act first = change.act second := by
  apply ext_of_held
  intro other
  rw [Change.held_act, Change.held_act]
  by_cases same : other = change.flag
  · rw [if_pos same, if_pos same]
  · rw [if_neg same, if_neg same]
    exact agree other (own ▸ same)

private theorem apply_eq (agree : AgreeBut flag first second) (value : Given String) :
    Options.apply first flag value = Options.apply second flag value := by
  rcases apply_cases flag value with ⟨exit, ends⟩ | ⟨change, own, acts, _⟩
  · rw [ends, ends]
  · rw [acts, acts, agree.act_eq own]

private theorem apply_bind_eq {Result : Type} {next : Options → Except Exit Result}
    (agree : AgreeBut flag first second) (acted : Flag) (value : Given String)
    (later : acted ≠ flag → ∀ one other, AgreeBut flag one other → next one = next other) :
    (Options.apply first acted value >>= next) = (Options.apply second acted value >>= next) := by
  by_cases same : acted = flag
  · subst same
    rw [agree.apply_eq]
  · have alike := agree.apply acted value
    revert alike
    generalize Options.apply first acted value = one
    generalize Options.apply second acted value = other
    intro alike
    cases alike with
    | error exit => rfl
    | ok changed => exact later same _ _ changed

/-- Arguments that mention the flag are acted on alike. Up to the flag the options agree in all
else; from there on they are the same. -/
theorem actOn_eq {arguments : List Argument} (agree : AgreeBut flag first second)
    (mentioned : ∃ clustered own, .flag flag clustered own ∈ arguments) :
    actOn first arguments = actOn second arguments := by
  obtain ⟨clustered, own, member⟩ := mentioned
  fun_induction actOn first arguments generalizing second with
  | case1 options => cases member
  | case2 options text rest inductionHypothesis
  | case3 options rest inductionHypothesis
  | case4 options text rest inductionHypothesis =>
      have inside : .flag flag clustered own ∈ rest := by simpa using member
      rw [actOn, inductionHypothesis agree inside]
  | case8 options acted turned rest inductionHypothesis =>
      rw [actOn]
      rcases List.mem_cons.mp member with same | inside
      · cases same
        have turned : options.turnOn acted = second.turnOn acted :=
          act_eq agree (Eq.refl (Change.switch acted).flag)
        rw [turned]
      · exact inductionHypothesis (act agree (.switch acted)) inside
  | case10 options acted joined text rest unhelpful unswitched inductionHypothesis =>
      rw [actOn_own second joined unhelpful unswitched]
      apply agree.apply_bind_eq
      intro different one other changed
      apply inductionHypothesis one changed
      apply (List.mem_cons.mp member).resolve_left
      rintro ⟨⟩
      exact different rfl
  | case11 options acted joined text rest unhelpful unswitched inductionHypothesis =>
      rw [actOn_next second joined unhelpful unswitched]
      apply agree.apply_bind_eq
      intro different one other changed
      apply inductionHypothesis one changed
      have behind : .flag flag clustered own ∈ .value text :: rest := by
        apply (List.mem_cons.mp member).resolve_left
        rintro ⟨⟩
        exact different rfl
      simpa using behind
  -- the rest fail, whatever the options are
  | case5 => rfl
  | case6 => rfl
  | case7 options joined rest text unclustered => exact (if_neg unclustered).symm
  | case9 => rfl
  | case12 options acted joined rest unhelpful unswitched valueless =>
      rw [actOn_valueless second joined unhelpful unswitched valueless]

end AgreeBut

/-- A command line mentions a flag when one of its arguments, in front of any separator, is
recognized as the flag, in full or cut short. -/
def Mentions (flag : Flag) (arguments : List String) : Prop :=
  ∃ argument ∈ arguments.takeWhile (· ≠ separatorMark),
    ∃ clustered own, recognized argument = .ok (.flag flag clustered own)

private theorem mem_of_mentions {flag : Flag} {arguments : List String} {told : List Argument}
    (mentions : Mentions flag arguments) (recognizes : recognizedAll arguments = .ok told) :
    ∃ clustered own, .flag flag clustered own ∈ told := by
  obtain ⟨argument, member, clustered, own, recognizedHere⟩ := mentions
  refine ⟨clustered, own, ?_⟩
  induction arguments generalizing told with
  | nil => cases member
  | cons head rest inductionHypothesis =>
      by_cases separator : head = separatorMark
      · simp [separator] at member
      · rw [recognizedAll, if_neg separator, bind_ok_iff] at recognizes
        obtain ⟨first, recognizedFirst, later⟩ := recognizes
        obtain ⟨others, recognizedRest, same⟩ := (bind_ok_iff _ _ _).mp later
        cases same
        rw [List.takeWhile_cons_of_pos (by simpa using separator), List.mem_cons] at member
        rcases member with rfl | inside
        · rw [recognizedHere] at recognizedFirst
          cases recognizedFirst
          exact List.mem_cons_self
        · exact List.mem_cons_of_mem _ (inductionHypothesis recognizedRest inside)

/-- Over options that agree in all but one flag, a command line that mentions the flag is read
alike. -/
theorem AgreeBut.readOver_eq {flag : Flag} {first second : Options} {arguments : List String}
    (agree : AgreeBut flag first second) (mentions : Mentions flag arguments) :
    readOver first arguments = readOver second arguments := by
  unfold readOver
  cases recognizes : recognizedAll arguments with
  | error fault => rfl
  | ok told =>
      rw [mapError_ok, ok_bind, ok_bind, agree.actOn_eq (mem_of_mentions mentions recognizes)]

end TableExport.Options
