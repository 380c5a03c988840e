import TableExport.Proofs.Options.Changes
import TableExport.Proofs.Sequence
import TableExport.Proofs.Text.Numeral

/-!
Counts that come from a command line or from the environment. Reading refuses a
count with more digits than can be written out, so every count of options that
were read has a display. Options that are put together by hand need not be so.
-/

set_option autoImplicit false

namespace TableExport.Options

open TableExport.Text

def HasWritableCounts (options : Options) : Prop :=
  ∀ flag count, getCount options flag = some (.value count) → Numeral.IsWritable count

private theorem hasWritableCounts_act {options : Options} {change : Change}
    (writable : options.HasWritableCounts)
    (given : ∀ flag count, change = .count flag (.value count) → Numeral.IsWritable count) :
    (change.act options).HasWritableCounts := by
  intro flag count found
  have held := Change.held_act options change (.count flag)
  rw [Options.held, found] at held
  split at held
  · cases change with
    | text => cases held
    | switch => cases held
    | count other value =>
        cases held
        exact given other count rfl
  · exact writable flag count (Held.count.inj held).symm

private theorem isWritable_of_environment_count {environment : Environment} {flag : CountFlag}
    {given : Option (Given Int)} (read : environment.count flag = .ok given) :
    ∀ count, given = some (.value count) → Numeral.IsWritable count := by
  intro count same
  unfold Environment.count at read
  cases value : environment.value? flag.suffix with
  | none =>
      rw [value] at read
      cases read
      cases same
  | some text =>
      rw [value] at read
      dsimp only at read
      cases found : Numeral.readInt? text with
      | none =>
          rw [found] at read
          cases read
      | some other =>
          rw [found] at read
          cases read
          cases same
          exact Numeral.isWritable_of_readInt? found

private theorem hasWritableCounts_ofEnvironment {environment : Environment} {options : Options}
    (read : ofEnvironment environment = .ok options) : options.HasWritableCounts := by
  simp only [ofEnvironment, Sequence.bind_ok_iff] at read
  obtain ⟨fetchSize, fetchSizeRead, limit, limitRead, parallelism, parallelismRead,
    maxWorkers, maxWorkersRead, same⟩ := read
  cases same
  intro flag count held
  cases flag with
  | limit => exact isWritable_of_environment_count limitRead count held
  | queryParallelism => exact isWritable_of_environment_count parallelismRead count held
  | fetchSize =>
      cases fetchSize with
      | none =>
          cases held
          exact Numeral.isWritable_of_small (by decide)
      | some value => exact isWritable_of_environment_count fetchSizeRead count held
  | maxWorkers =>
      cases maxWorkers with
      | none =>
          cases held
          exact Numeral.isWritable_of_small (by decide)
      | some value => exact isWritable_of_environment_count maxWorkersRead count held

private theorem hasWritableCounts_actOn {options acted : Options} {arguments : List Argument}
    {strays : List String} (writable : options.HasWritableCounts)
    (read : actOn options arguments = .ok (acted, strays)) : acted.HasWritableCounts := by
  refine actOn_keeps (fun _ change held counts => ?_) writable read
  apply hasWritableCounts_act held
  intro flag count same
  obtain ⟨text, found⟩ := counts flag count same
  exact Numeral.isWritable_of_readInt? found

theorem hasWritableCounts_of_read {environment : Environment} {arguments : List String}
    {options : Options} (found : read environment arguments = .options options) :
    options.HasWritableCounts := by
  unfold read at found
  cases given : ofEnvironment environment with
  | error failure =>
      rw [given] at found
      cases found
  | ok first =>
      rw [given] at found
      dsimp only at found
      cases outcome : readOver first arguments with
      | error exit =>
          rw [outcome] at found
          cases found
      | ok second =>
          rw [outcome] at found
          cases found
          simp only [readOver, Sequence.bind_ok_iff] at outcome
          obtain ⟨recognized, _, ⟨acted, strays⟩, acting, finished⟩ := outcome
          have writable :=
            hasWritableCounts_actOn (hasWritableCounts_ofEnvironment given) acting
          by_cases understood : strays.isEmpty
          · rw [if_pos understood] at finished
            cases finished
            exact writable
          · rw [if_neg understood] at finished
            cases finished

end TableExport.Options
