import TableExport.Proofs.Cell.Bounded
import TableExport.Proofs.Log.Tracking
import TableExport.Proofs.Plan.Calls
import TableExport.Proofs.Plan.Division

/-!
The bounds of a column as a database answers them. When no call is refused and the
row begins with two cells that count as numbers, the range goes from the integer
below the first to the integer above the second; everything else is a failure of
the database. The numbers of the row are known to leave one digit to spare, and
nothing is claimed about a row of a single cell. The parts of the range enclose the
bounds, if the count that is asked for has a text where the message shows it.
-/

set_option autoImplicit false

namespace TableExport

open TableExport.Text
open TableExport.Number
open TableExport.Database
open TableExport.Log

/-- A database whose row of bounds, if it has one and the row is not empty, begins with two cells
below a power of ten. -/
def Database.Behaviour.BoundsBelow (digits : Nat) (behaviour : Behaviour) : Prop :=
  behaviour.row = none ∨ behaviour.row = some [] ∨
    ∃ low high rest, behaviour.row = some (low :: high :: rest) ∧
      low.IsBelow digits ∧ high.IsBelow digits

structure Database.Behaviour.GivesBounds (behaviour : Behaviour) : Prop where
  answers : behaviour.Answers
  row : ∃ low high rest, behaviour.row = some (low :: high :: rest) ∧
    low.IsNumeric ∧ high.IsNumeric

structure Database.Behaviour.Bounds (behaviour : Behaviour) (least greatest : ℚ) : Prop where
  answers : behaviour.Answers
  row : ∃ low high rest, behaviour.row = some (low :: high :: rest) ∧
    low.boundNumber? = some least ∧ high.boundNumber? = some greatest

def KeyRange.around (least greatest : ℚ) : KeyRange :=
  ⟨⌊least⌋, ⌈greatest⌉⟩

theorem Database.Behaviour.givesBounds_iff {behaviour : Behaviour} :
    behaviour.GivesBounds ↔ ∃ least greatest, behaviour.Bounds least greatest := by
  constructor
  · rintro ⟨answers, low, high, rest, cells, lowNumeric, highNumeric⟩
    obtain ⟨least, lowHeld⟩ := Cell.isNumeric_iff.mp lowNumeric
    obtain ⟨greatest, highHeld⟩ := Cell.isNumeric_iff.mp highNumeric
    exact ⟨least, greatest, answers, low, high, rest, cells, lowHeld, highHeld⟩
  · rintro ⟨least, greatest, answers, low, high, rest, cells, lowHeld, highHeld⟩
    exact ⟨answers, low, high, rest, cells, Cell.isNumeric_iff.mpr ⟨least, lowHeld⟩,
      Cell.isNumeric_iff.mpr ⟨greatest, highHeld⟩⟩

private theorem Database.Behaviour.not_bounds {behaviour : Behaviour}
    (short : ∀ low high rest, behaviour.row ≠ some (low :: high :: rest)) (least greatest : ℚ) :
    ¬ behaviour.Bounds least greatest := by
  intro bounds
  obtain ⟨low, high, rest, cells, _⟩ := bounds.row
  exact short low high rest cells

private theorem Database.Behaviour.Bounds.eq_around {behaviour : Behaviour}
    {least greatest other otherToo : ℚ} (bounds : behaviour.Bounds least greatest)
    (boundsToo : behaviour.Bounds other otherToo) :
    KeyRange.around least greatest = KeyRange.around other otherToo := by
  obtain ⟨low, high, rest, cells, lowHeld, highHeld⟩ := bounds.row
  obtain ⟨_, _, _, cellsToo, lowHeldToo, highHeldToo⟩ := boundsToo.row
  rw [cells] at cellsToo
  cases cellsToo
  cases lowHeld.symm.trans lowHeldToo
  cases highHeld.symm.trans highHeldToo
  rfl

namespace Planning

open TableExport.Sequence

variable {behaviour : Behaviour} {exchange : Exchange} {digits : Nat}

/-! ### The range of an answer -/

private theorem rangeBetween_cases {low high : Cell} (lowBelow : low.IsBelow digits)
    (highBelow : high.IsBelow digits) (few : digits < Numeral.digitLimit) (column : String) :
    ((low.boundNumber? = none ∨ high.boundNumber? = none) ∧
        ∃ cause, rangeBetween column low high = .error (.database cause)) ∨
      ∃ least greatest, low.boundNumber? = some least ∧ high.boundNumber? = some greatest ∧
        rangeBetween column low high = .ok (.around least greatest) ∧
        (KeyRange.around least greatest).Within digits := by
  have fewer : (digits : Int) ≤ Decimal.lengthLimit := by
    unfold Numeral.digitLimit at few
    unfold Decimal.lengthLimit
    omega
  obtain ⟨lowText, lowQuoted⟩ := lowBelow.quoted_isOk (Nat.le_of_lt few)
  obtain ⟨highText, highQuoted⟩ := highBelow.quoted_isOk (Nat.le_of_lt few)
  have notNumber :
      notNumeric column low high = .database (.notNumeric column lowText highText) := by
    simp only [notNumeric, lowQuoted, highQuoted]
  have lowShort := lowBelow.isTooLong_eq fewer
  have highShort := highBelow.isTooLong_eq fewer
  simp only [rangeBetween, lowShort, highShort, Bool.false_eq_true, if_false]
  cases lowHeld : low.boundNumber? with
  | none =>
      have missing : low.floor? = none := Cell.rounded?_of_not_boundNumber? lowHeld _
      simp only [missing]
      exact .inl ⟨.inl trivial, _, congrArg Except.error notNumber⟩
  | some least =>
      have first : low.floor? = some ⌊least⌋ :=
        Cell.rounded?_of_boundNumber? isRounding_fdiv lowHeld lowShort
      cases highHeld : high.boundNumber? with
      | none =>
          have missing : high.ceiling? = none := Cell.rounded?_of_not_boundNumber? highHeld _
          simp only [first, missing]
          exact .inl ⟨.inr trivial, _, congrArg Except.error notNumber⟩
      | some greatest =>
          have second : high.ceiling? = some ⌈greatest⌉ :=
            Cell.rounded?_of_boundNumber? isRounding_quotientUp highHeld highShort
          simp only [first, second]
          exact .inr ⟨least, greatest, rfl, rfl, rfl,
            lowBelow.natAbs_rounded?_le isRounding_fdiv
              (fun _ _ inOrder => Int.floor_mono inOrder) first,
            highBelow.natAbs_rounded?_le isRounding_quotientUp
              (fun _ _ inOrder => Int.ceil_mono inOrder) second⟩

private theorem asksBounds_boundsStatement (filtered column : String) :
    Dialogue.asksBounds (boundsStatement filtered column) = true := by
  unfold Dialogue.asksBounds boundsStatement
  simp only [String.append_assoc, String.toList_append (s := "SELECT MIN(")]
  exact List.isPrefixOf_iff_prefix.mpr (List.prefix_append _ _)

/-- What a database answers gives a range, or it is a failure of the database. -/
theorem rangeOfAnswer_cases (below : behaviour.BoundsBelow digits)
    (few : digits < Numeral.digitLimit) (filtered column : String) (calls : List Call) :
    ((∀ least greatest, ¬ behaviour.Bounds least greatest) ∧
        ∃ cause, rangeOfAnswer column (boundsStatement filtered column)
          ((Dialogue.askBounds behaviour (boundsStatement filtered column)).run calls).1 =
            .error (.database cause)) ∨
      ∃ least greatest, behaviour.Bounds least greatest ∧
        rangeOfAnswer column (boundsStatement filtered column)
          ((Dialogue.askBounds behaviour (boundsStatement filtered column)).run calls).1 =
            .ok (.around least greatest) ∧
        (KeyRange.around least greatest).Within digits := by
  rcases answered : (Dialogue.askBounds behaviour (boundsStatement filtered column)).run
    calls with ⟨refusal | row, after⟩
  · refine .inl ⟨fun least greatest bounds => ?_, _, rfl⟩
    rw [Dialogue.askBounds_of_answers bounds.answers
      (asksBounds_boundsStatement filtered column)] at answered
    cases answered
  · obtain ⟨answers, rfl, _⟩ := Dialogue.askBounds_ok answered
    rcases below with missing | empty | ⟨low, high, rest, cells, lowBelow, highBelow⟩
    · have short : ∀ least greatest, ¬ behaviour.Bounds least greatest :=
        Database.Behaviour.not_bounds fun _ _ _ found => nomatch missing.symm.trans found
      rw [missing]
      exact .inl ⟨short, _, rfl⟩
    · have short : ∀ least greatest, ¬ behaviour.Bounds least greatest :=
        Database.Behaviour.not_bounds fun _ _ _ found => nomatch empty.symm.trans found
      rw [empty]
      exact .inl ⟨short, _, rfl⟩
    · rw [cells]
      rcases rangeBetween_cases lowBelow highBelow few column with
        ⟨missing, refused⟩ | ⟨least, greatest, lowHeld, highHeld, between, within⟩
      · refine .inl ⟨fun least greatest bounds => ?_, refused⟩
        obtain ⟨first, second, others, found, lowHeld, highHeld⟩ := bounds.row
        rw [cells] at found
        cases found
        rw [lowHeld, highHeld] at missing
        exact missing.elim nofun nofun
      · exact .inr ⟨least, greatest, ⟨answers, low, high, rest, cells, lowHeld, highHeld⟩,
          between, within⟩

/-! ### The probe -/

private theorem probeCompleted_shown {range : KeyRange} (within : range.Within digits)
    (few : digits < Numeral.digitLimit) (column : String) (duration : Binary64) :
    ∃ text, (Event.probeCompleted (.text column) (.integer range.low) (.integer range.high)
      (.real duration)).text = .ok text := by
  obtain ⟨time, shownTime⟩ := durationText_real duration
  have shownColumn : (Cell.text column).shown = .ok column := rfl
  simp only [Event.text, shownColumn, shown_integer (within.isWritable_low few),
    shown_integer (within.isWritable_high few), shownTime]
  exact ⟨_, rfl⟩

/-- A probe finds the range around the bounds, or it fails with the database. -/
theorem probe_cases (sound : exchange.journal.IsSound) (below : behaviour.BoundsBelow digits)
    (few : digits < Numeral.digitLimit) (filtered column : String) (duration : Binary64) :
    ((∀ least greatest, ¬ behaviour.Bounds least greatest) ∧
        ∃ cause after, (probe behaviour filtered column (.real duration)).run exchange =
          (.error (.database cause), after)) ∨
      ∃ least greatest, behaviour.Bounds least greatest ∧
        ∃ after, (probe behaviour filtered column (.real duration)).run exchange =
          (.ok (.around least greatest), after) ∧
          (KeyRange.around least greatest).Within digits ∧ after.journal.IsSound := by
  simp only [probe, run_bind, converse_run, run_ofExcept]
  rcases rangeOfAnswer_cases below few filtered column exchange.calls with
    ⟨fails, cause, refused⟩ | ⟨least, greatest, bounds, read, within⟩
  · simp only [refused]
    exact .inl ⟨fails, cause, _, rfl⟩
  · obtain ⟨text, shown⟩ := probeCompleted_shown within few column duration
    have heard : Journal.IsSound (Exchange.journal ⟨exchange.journal,
        ((Dialogue.askBounds behaviour (boundsStatement filtered column)).run
          exchange.calls).2⟩) := sound
    obtain ⟨after, told, stays⟩ := tell_run_of_sound heard rfl shown
    simp only [read, told, run_pure]
    exact .inr ⟨least, greatest, bounds, after, rfl, within, stays⟩

private theorem probe_ok_iff (sound : exchange.journal.IsSound)
    (below : behaviour.BoundsBelow digits)
    (few : digits < Numeral.digitLimit) (filtered column : String) (duration : Binary64)
    (range : KeyRange) :
    ((probe behaviour filtered column (.real duration)).run exchange).1 = .ok range ↔
      ∃ least greatest, behaviour.Bounds least greatest ∧ range = .around least greatest := by
  rcases probe_cases sound below few filtered column duration with
    ⟨fails, cause, after, ran⟩ | ⟨least, greatest, bounds, after, ran, _⟩
  · rw [ran]
    constructor
    · intro impossible
      cases impossible
    · rintro ⟨least, greatest, bounds, _⟩
      exact absurd bounds (fails least greatest)
  · rw [ran]
    constructor
    · intro found
      exact ⟨least, greatest, bounds, (Except.ok.inj found).symm⟩
    · rintro ⟨other, otherToo, boundsToo, rfl⟩
      rw [bounds.eq_around boundsToo]

/-! ### The parts of the range -/

/-- The parts of a range around two bounds begin at the lower one or below it, and end at the
upper one or above it. -/
theorem divided_around_covers {least greatest : ℚ} (ordered : least ≤ greatest)
    (parallelism : Int) :
    ∃ first last, ((KeyRange.around least greatest).divided parallelism).head? = some first ∧
      ((KeyRange.around least greatest).divided parallelism).getLast? = some last ∧
      (first.low : ℚ) ≤ least ∧ greatest ≤ last.high := by
  have rounded : ⌊least⌋ ≤ ⌈greatest⌉ :=
    Int.le_trans (Int.floor_le_floor ordered) (Int.floor_le_ceil greatest)
  have tiling : KeyRange.Tiling (KeyRange.around least greatest).low
      ((KeyRange.around least greatest).divided parallelism)
      (KeyRange.around least greatest).high :=
    KeyRange.tiling_divided rounded parallelism
  refine ⟨_, _, List.head?_eq_some_head tiling.ne_nil, List.getLast?_eq_some_getLast tiling.ne_nil,
    ?_, ?_⟩
  · rw [tiling.head_low]
    exact Int.floor_le least
  · rw [tiling.getLast_high]
    exact Int.le_ceil greatest

/-- The message about the parts of more than one key shows the count that was asked for. -/
theorem divide_around_ok {least greatest : ℚ} {parallelism : Int}
    (within : (KeyRange.around least greatest).Within digits) (few : digits < Numeral.digitLimit)
    (ordered : least ≤ greatest) (positive : 1 ≤ parallelism)
    (writable : ⌊least⌋ < ⌈greatest⌉ → Numeral.IsWritable parallelism)
    (sound : exchange.journal.IsSound) :
    ∃ parts first last,
      ((divide (.around least greatest) parallelism).run exchange).1 = .ok parts ∧
      parts.head? = some first ∧ parts.getLast? = some last ∧
      (first.low : ℚ) ≤ least ∧ greatest ≤ last.high := by
  obtain ⟨first, last, begins, ends, low, high⟩ := divided_around_covers ordered parallelism
  have ran : ((divide (.around least greatest) parallelism).run exchange).1 =
      .ok ((KeyRange.around least greatest).divided parallelism) := by
    by_cases long : ⌊least⌋ < ⌈greatest⌉
    · obtain ⟨after, ran, _⟩ := divide_run_of_within within few sound positive (writable long)
      exact congrArg Prod.fst ran
    · exact congrArg Prod.fst (divide_run_of_not_lt exchange positive long)
  exact ⟨_, first, last, ran, begins, ends, low, high⟩

/-- A probe finds the range around the bounds exactly when the database refuses nothing and its
row begins with two cells that count as numbers, and it fails with the database otherwise. It
asks its one statement and fetches once unless it is refused before, closes the cursor and leaves
the connection open. The parts of the range hold both bounds, where the count of parts that was
asked for has a text. -/
theorem probe_settles (behaviour : Behaviour) (filtered column : String) (duration : Binary64)
    (exchange : Exchange) (digits : Nat) (few : digits < Numeral.digitLimit)
    (below : behaviour.BoundsBelow digits) (sound : exchange.journal.IsSound) :
    (∀ range, ((probe behaviour filtered column (.real duration)).run exchange).1 = .ok range ↔
      ∃ least greatest, behaviour.Bounds least greatest ∧ range = .around least greatest) ∧
    ((∀ least greatest, ¬ behaviour.Bounds least greatest) →
      ∃ cause, ((probe behaviour filtered column (.real duration)).run exchange).1 =
        .error (.database cause)) ∧
    ((probe behaviour filtered column (.real duration)).run exchange).2.calls =
      exchange.calls ++ behaviour.callsForBounds (boundsStatement filtered column) ∧
    ∀ least greatest, behaviour.Bounds least greatest → least ≤ greatest →
      ∀ parallelism, 1 ≤ parallelism →
        (⌊least⌋ < ⌈greatest⌉ → Numeral.IsWritable parallelism) →
        ∀ dividing : Exchange, dividing.journal.IsSound → ∃ parts first last,
          ((divide (.around least greatest) parallelism).run dividing).1 = .ok parts ∧
          parts.head? = some first ∧ parts.getLast? = some last ∧
          (first.low : ℚ) ≤ least ∧ greatest ≤ last.high := by
  refine ⟨probe_ok_iff sound below few filtered column duration, ?_, ?_, ?_⟩
  · intro fails
    rcases probe_cases sound below few filtered column duration with
      ⟨_, cause, after, ran⟩ | ⟨least, greatest, bounds, _⟩
    · exact ⟨cause, congrArg Prod.fst ran⟩
    · exact absurd bounds (fails least greatest)
  · rw [probe_calls, Dialogue.askBounds_calls (asksBounds_boundsStatement filtered column)]
  · intro least greatest bounds ordered parallelism positive writable dividing heard
    rcases probe_cases sound below few filtered column duration with
      ⟨fails, _⟩ | ⟨other, otherToo, boundsToo, _, _, within, _⟩
    · exact absurd bounds (fails least greatest)
    · rw [← bounds.eq_around boundsToo] at within
      exact divide_around_ok within few ordered positive writable heard

def halfBounds : Behaviour :=
  { Behaviour.silent with
    row := some [.decimal (.finite true 25 (-1)), .integer 10, .text "ten"] }

private theorem halfBounds_bounds : halfBounds.Bounds (-5 / 2) 10 := by
  refine ⟨⟨rfl, rfl, rfl, rfl⟩, _, _, _, rfl, ?_, ?_⟩
  · simp only [Cell.boundNumber?, Cell.number?, Decimal.number?, withSign]
    norm_num
  · simp only [Cell.boundNumber?, Cell.number?]
    norm_num

theorem probe_settles_half_bounds :
    ((probe halfBounds "SELECT * FROM t" "x" (.real (.finite false 0 0))).run
      ⟨⟨10, none, none, []⟩, []⟩).1 = .ok ⟨-3, 10⟩ ∧
    ((probe halfBounds "SELECT * FROM t" "x" (.real (.finite false 0 0))).run
      ⟨⟨10, none, none, []⟩, []⟩).2.calls =
        [.execute "SELECT MIN(x), MAX(x) FROM (SELECT * FROM t)", .fetchOne, .closeCursor] ∧
    ∃ parts first last,
      ((divide ⟨-3, 10⟩ 4).run ⟨⟨10, none, none, []⟩, []⟩).1 = .ok parts ∧
      parts.head? = some first ∧ parts.getLast? = some last ∧
      (first.low : ℚ) ≤ -5 / 2 ∧ (10 : ℚ) ≤ last.high := by
  have below : halfBounds.BoundsBelow 2 := by
    refine .inr (.inr ⟨_, _, _, rfl, ?_, ?_⟩)
    · rintro number ⟨⟩
      norm_num [withSign]
    · rintro number ⟨⟩
      norm_num
  have idle : Journal.IsSound (Exchange.journal ⟨⟨10, none, none, []⟩, []⟩) :=
    isSound_of_idle rfl rfl
  have around : KeyRange.around (-5 / 2) 10 = ⟨-3, 10⟩ := by
    norm_num [KeyRange.around]
  obtain ⟨found, _, calls, covers⟩ := probe_settles halfBounds "SELECT * FROM t" "x"
    (.finite false 0 0) ⟨⟨10, none, none, []⟩, []⟩ 2 (by decide) below idle
  refine ⟨(found _).mpr ⟨_, _, halfBounds_bounds, around.symm⟩, calls, ?_⟩
  have four : Numeral.IsWritable 4 := Numeral.isWritable_of_small (by decide)
  have parted := covers _ _ halfBounds_bounds (by norm_num) 4 (by decide) (fun _ => four) _ idle
  rw [around] at parted
  exact parted

def unitBounds : Behaviour :=
  { Behaviour.silent with row := some [.integer 0, .integer 1] }

private theorem unitBounds_bounds : unitBounds.Bounds 0 1 := by
  refine ⟨⟨rfl, rfl, rfl, rfl⟩, _, _, _, rfl, ?_, ?_⟩
  · simp only [Cell.boundNumber?, Cell.number?]
    norm_num
  · simp only [Cell.boundNumber?, Cell.number?]
    norm_num

/-- No parts hold the bounds when as many are asked for as the least number without a text. -/
theorem divide_unit_bounds_untold :
    unitBounds.Bounds 0 1 ∧
    ((probe unitBounds "SELECT * FROM t" "x" (.real (.finite false 0 0))).run
      ⟨⟨10, none, none, []⟩, []⟩).1 = .ok ⟨0, 1⟩ ∧
    1 ≤ (Numeral.firstUnwritable : Int) ∧
    ((divide ⟨0, 1⟩ Numeral.firstUnwritable).run ⟨⟨10, none, none, []⟩, []⟩).1 =
      .error .untold := by
  have positive : 1 ≤ (Numeral.firstUnwritable : Int) := by decide +kernel
  have unwritable : ¬ Numeral.IsWritable Numeral.firstUnwritable := by
    unfold Numeral.IsWritable
    rw [Int.natAbs_natCast]
    exact Nat.lt_irrefl _
  have found : ((probe unitBounds "SELECT * FROM t" "x" (.real (.finite false 0 0))).run
      ⟨⟨10, none, none, []⟩, []⟩).1 = .ok ⟨0, 1⟩ := ok_of_toOption (by decide +kernel)
  exact ⟨unitBounds_bounds, found, positive,
    congrArg Prod.fst (divide_run_of_unwritable positive unwritable (by decide))⟩

end Planning

end TableExport
