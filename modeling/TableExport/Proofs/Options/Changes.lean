import TableExport.Options.CommandLine
import TableExport.Proofs.Sequence

/-!
What a flag does to options, in one form for all flags. A change gives the option
of one flag a value and leaves the options of all others. Whatever a flag is
given, it makes such a change, or it ends the reading, for all options alike.
-/

set_option autoImplicit false

namespace TableExport.Options

open TableExport.Text

inductive Held where
  | nothing
  | text (value : Option (Given String))
  | count (value : Option (Given Int))
  | switch (on : Bool)

def held (options : Options) : Flag → Held
  | .help => .nothing
  | .text flag => .text (getText options flag)
  | .count flag => .count (getCount options flag)
  | .switch flag => .switch (isOn options flag)

theorem ext_of_held {first second : Options}
    (same : ∀ flag, held first flag = held second flag) : first = second := by
  have text (flag : TextFlag) : getText first flag = getText second flag :=
    Held.text.inj (same (.text flag))
  have count (flag : CountFlag) : getCount first flag = getCount second flag :=
    Held.count.inj (same (.count flag))
  have switch (flag : SwitchFlag) : isOn first flag = isOn second flag :=
    Held.switch.inj (same (.switch flag))
  cases first
  cases second
  rw [Options.mk.injEq]
  exact ⟨text .connectionUrl, text .username, text .password, text .passwordFile, text .table,
    text .sqlFile, count .limit, text .partition, text .partitionColumn, text .partitionPeriod,
    text .splitColumn, count .queryParallelism, switch .skipPartitionCheck,
    text .minPartitionPeriod, Option.some.inj (count .fetchSize), text .output,
    Option.some.inj (count .maxWorkers), switch .dryRun⟩

inductive Change where
  | text (flag : TextFlag) (value : Given String)
  | count (flag : CountFlag) (value : Given Int)
  | switch (flag : SwitchFlag)

namespace Change

def flag : Change → Flag
  | .text flag _ => .text flag
  | .count flag _ => .count flag
  | .switch flag => .switch flag

def value : Change → Held
  | .text _ value => .text (some value)
  | .count _ value => .count (some value)
  | .switch _ => .switch true

def act (options : Options) : Change → Options
  | .text flag value => options.setText flag value
  | .count flag value => options.setCount flag value
  | .switch flag => options.turnOn flag

theorem held_act (options : Options) (change : Change) (other : Flag) :
    held (change.act options) other =
      if other = change.flag then change.value else held options other := by
  cases change with
  | text flag value =>
      rcases other with _ | other | other | other
      · cases flag <;> rfl
      · cases flag <;> cases other <;> rfl
      · cases flag <;> rfl
      · cases flag <;> rfl
  | count flag value =>
      rcases other with _ | other | other | other
      · cases flag <;> rfl
      · cases flag <;> rfl
      · cases flag <;> cases other <;> rfl
      · cases flag <;> rfl
  | switch flag =>
      rcases other with _ | other | other | other
      · cases flag <;> rfl
      · cases flag <;> rfl
      · cases flag <;> rfl
      · cases flag <;> cases other <;> rfl

end Change

def Change.IsRead (change : Change) : Prop :=
  ∀ flag count, change = .count flag (.value count) → ∃ text, Numeral.readInt? text = some count

/-- A flag makes one change to all options, in which a count is the value of a text, or it ends
the reading of all. -/
theorem apply_cases (flag : Flag) (value : Given String) :
    (∃ exit, ∀ options, apply options flag value = .error exit) ∨
      ∃ change : Change, change.flag = flag ∧
        (∀ options, apply options flag value = .ok (change.act options)) ∧ change.IsRead := by
  cases flag with
  | help => exact .inl ⟨.help, fun _ => rfl⟩
  | text flag => exact .inr ⟨.text flag value, rfl, fun _ => rfl, nofun⟩
  | switch flag => exact .inr ⟨.switch flag, rfl, fun _ => rfl, nofun⟩
  | count flag =>
      cases value with
      | struck => exact .inr ⟨.count flag .struck, rfl, fun _ => rfl, nofun⟩
      | value text =>
          cases found : Numeral.readInt? text with
          | none =>
              refine .inl ⟨.usage (.notInteger flag text), fun options => ?_⟩
              simp only [apply, readCount, found]
              rfl
          | some count =>
              refine .inr ⟨.count flag (.value count), rfl, fun options => ?_, ?_⟩
              · simp only [apply, readCount, found]
                rfl
              · rintro _ _ ⟨⟩
                exact ⟨text, found⟩

section Acting

variable {Holds : Options → Prop}
  (keeps : ∀ options (change : Change), Holds options → change.IsRead →
    Holds (change.act options))
include keeps

private theorem apply_keeps {options changed : Options} {flag : Flag} {value : Given String}
    (holds : Holds options) (applied : apply options flag value = .ok changed) :
    Holds changed := by
  rcases apply_cases flag value with ⟨exit, ends⟩ | ⟨change, _, acts, counts⟩
  · rw [ends] at applied
    cases applied
  · rw [acts] at applied
    cases applied
    exact keeps options change holds counts

/-- What every change keeps still holds when a command line has been acted on. -/
theorem actOn_keeps {options acted : Options} {arguments : List Argument}
    {strays : List String} (holds : Holds options)
    (read : actOn options arguments = .ok (acted, strays)) : Holds acted := by
  fun_induction actOn options arguments generalizing strays with
  | case1 options =>
      cases read
      exact holds
  | case2 options text rest inductionHypothesis
  | case3 options rest inductionHypothesis
  | case4 options text rest inductionHypothesis =>
      -- arguments that belong to no flag change nothing
      obtain ⟨⟨other, more⟩, acting, same⟩ := (Sequence.bind_ok_iff _ _ _).mp read
      cases same
      exact inductionHypothesis holds acting
  | case8 options flag clustered rest inductionHypothesis =>
      exact inductionHypothesis (keeps options (.switch flag) holds nofun) read
  | case10 options flag clustered text rest _ _ inductionHypothesis
  | case11 options flag clustered text rest _ _ inductionHypothesis =>
      obtain ⟨changed, applied, acting⟩ := (Sequence.bind_ok_iff _ _ _).mp read
      exact inductionHypothesis changed (apply_keeps keeps holds applied) acting
  | case5 | case6 | case7 | case9 | case12 =>
      -- these end the reading
      cases read

end Acting

end TableExport.Options
