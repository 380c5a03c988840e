import Mathlib.Order.Bounds.Basic
import TableExport.Admission
import TableExport.Proofs.Cell.Value
import TableExport.Proofs.Plan.Statements

/-!
Which rows the statements of a split select between them. The bounds of a column
are widened to integers and the parts between them end and start at integers, so
the parts leave out what lies strictly between the end of one and the start of
the next; a row without a value satisfies no comparison and is left out as well.
Every other row is selected once, and none is selected twice.
-/

set_option autoImplicit false

namespace TableExport

open TableExport.Text
open TableExport.Query
open TableExport.Database
open TableExport.Number

def KeyRange.selects (range : KeyRange) (key : Cell) : Bool :=
  match key.number? with
  | some value => decide (range.Holds value)
  | none => false

def numbersIn (column : List Cell) : Set ℚ :=
  {value | ∃ key ∈ column, key.number? = some value}

structure IsBounds (column : List Cell) (low high : Cell) : Prop where
  numeric : ∀ key ∈ column, key = .null ∨ ∃ value, key.number? = some value
  empty : (∀ key ∈ column, key.number? = none) → low = .null ∧ high = .null
  extreme : (numbersIn column).Nonempty → ∃ least greatest,
    low.number? = some least ∧ IsLeast (numbersIn column) least ∧
      high.number? = some greatest ∧ IsGreatest (numbersIn column) greatest

private theorem isBounds_of_mem {column : List Cell} {low high : Cell} {least greatest : ℚ}
    (lowMember : low ∈ column) (highMember : high ∈ column)
    (lowHeld : low.number? = some least) (highHeld : high.number? = some greatest)
    (between : ∀ key ∈ column, key = .null ∨
      ∃ value, key.number? = some value ∧ least ≤ value ∧ value ≤ greatest) :
    IsBounds column low high := by
  constructor
  · intro key member
    rcases between key member with null | ⟨value, held, _⟩
    · exact .inl null
    · exact .inr ⟨value, held⟩
  · intro empty
    rw [empty low lowMember] at lowHeld
    cases lowHeld
  · intro _
    have enclosed : ∀ value ∈ numbersIn column, least ≤ value ∧ value ≤ greatest := by
      rintro value ⟨key, member, held⟩
      rcases between key member with rfl | ⟨other, sameKey, bounds⟩
      · cases held
      · rw [held] at sameKey
        cases sameKey
        exact bounds
    refine ⟨least, greatest, lowHeld, ⟨⟨low, lowMember, lowHeld⟩, ?_⟩, highHeld,
      ⟨high, highMember, highHeld⟩, ?_⟩
    · intro value member
      exact (enclosed value member).1
    · intro value member
      exact (enclosed value member).2

namespace Planning

private theorem rangeBetween_ok {column : String} {low high : Cell} {range : KeyRange}
    (between : rangeBetween column low high = .ok range) :
    low.floor? = some range.low ∧ high.ceiling? = some range.high := by
  unfold rangeBetween at between
  by_cases lowLong : low.isTooLong
  · rw [if_pos lowLong] at between
    cases between
  · rw [if_neg lowLong] at between
    cases lowFound : low.floor? with
    | none =>
        rw [lowFound] at between
        cases between
    | some least =>
        rw [lowFound] at between
        dsimp only at between
        by_cases highLong : high.isTooLong
        · rw [if_pos highLong] at between
          cases between
        · rw [if_neg highLong] at between
          cases highFound : high.ceiling? with
          | none =>
              rw [highFound] at between
              cases between
          | some greatest =>
              rw [highFound] at between
              cases between
              exact ⟨rfl, rfl⟩

theorem mem_rangeBetween {column : List Cell} {name : String} {low high : Cell}
    {range : KeyRange} (bounds : IsBounds column low high)
    (between : rangeBetween name low high = .ok range) {value : ℚ}
    (member : value ∈ numbersIn column) :
    (range.low : ℚ) ≤ value ∧ value ≤ range.high := by
  obtain ⟨lowFound, highFound⟩ := rangeBetween_ok between
  obtain ⟨least, greatest, lowHeld, isLeast, highHeld, isGreatest⟩ :=
    bounds.extreme ⟨value, member⟩
  constructor
  · rw [Cell.floor?_eq lowHeld lowFound]
    exact le_trans (Int.floor_le least) (isLeast.2 member)
  · rw [Cell.ceiling?_eq highHeld highFound]
    exact le_trans (isGreatest.2 member) (Int.le_ceil greatest)

private theorem countP_selects_of_none {ranges : List KeyRange} {key : Cell}
    (absent : key.number? = none) :
    ranges.countP (fun range => range.selects key) = 0 := by
  apply List.countP_eq_zero.mpr
  intro range _ selected
  simp only [KeyRange.selects, absent, Bool.false_eq_true] at selected

/-- A key between the bounds is selected once, unless it lies in a gap between two parts. -/
theorem countP_selects_of_some {whole : KeyRange} {parallelism : Int} {key : Cell}
    {value : ℚ} (held : key.number? = some value)
    (within : (whole.low : ℚ) ≤ value ∧ value ≤ whole.high) :
    (whole.divided parallelism).countP (fun range => range.selects key) =
      if ∀ range ∈ (whole.divided parallelism).tail, ¬ range.Follows value then 1 else 0 := by
  have ordered : whole.low ≤ whole.high := by
    exact_mod_cast le_trans within.1 within.2
  have counted := (KeyRange.tiling_divided ordered parallelism).countP_holds value
  simp only [KeyRange.selects, held]
  rw [counted]
  exact if_congr (and_iff_right within) rfl rfl

/-- The statements of a split select no row twice, and they select a row once exactly when
its key is a number that lies in no gap between two parts. -/
theorem statements_select_once_iff {behaviour : Behaviour} {request : Request}
    {duration low high : Cell} {rest column : List Cell} {built : List String}
    {exchange after : Exchange}
    (split : request.isSplit = true)
    (answered : behaviour.row = some (low :: high :: rest))
    (bounds : IsBounds column low high)
    (ran : (statements (some behaviour) request duration).run exchange =
      (.ok built, after)) :
    ∃ filtered limit whole parallelism,
      request.filteredStatement = .ok filtered ∧ request.limitClause = .ok limit ∧
      request.parallelism = some parallelism ∧
      rangeBetween request.shownSplitColumn low high = .ok whole ∧
      built = (whole.divided parallelism).map
        (rangedText filtered request.shownSplitColumn limit) ∧
      ∀ key ∈ column,
        (whole.divided parallelism).countP (fun range => range.selects key) ≤ 1 ∧
        ((whole.divided parallelism).countP (fun range => range.selects key) = 1 ↔
          ∃ value, key.number? = some value ∧
            ∀ range ∈ (whole.divided parallelism).tail, ¬ range.Follows value) := by
  obtain ⟨filtered, limit, other, first, second, more, whole, parallelism, stated, limited,
    connected, count, _, row, between, same, _⟩ := statements_split_ok split ran
  cases connected
  rw [answered] at row
  cases row
  refine ⟨filtered, limit, whole, parallelism, stated, limited, count, between, same, ?_⟩
  intro key member
  cases held : key.number? with
  | none =>
      -- no comparison holds of a key without a number
      rw [countP_selects_of_none held]
      refine ⟨Nat.zero_le 1, ?_⟩
      constructor
      · intro impossible
        cases impossible
      · rintro ⟨value, impossible, _⟩
        cases impossible
  | some value =>
      have within := mem_rangeBetween bounds between ⟨key, member, held⟩
      rw [countP_selects_of_some held within]
      by_cases covered : ∀ range ∈ (whole.divided parallelism).tail, ¬ range.Follows value
      · rw [if_pos covered]
        exact ⟨Nat.le_refl 1, iff_of_true rfl ⟨value, rfl, covered⟩⟩
      · rw [if_neg covered]
        refine ⟨Nat.zero_le 1, iff_of_false Nat.zero_ne_one ?_⟩
        rintro ⟨other, sameValue, free⟩
        cases sameValue
        exact covered free

theorem statements_select_once_iff_with_null :
    ∃ request built after, ∃ ranges : List KeyRange,
      (statements (some { Behaviour.silent with row := some [.integer 1, .integer 10] })
        request (.integer 0)).run ⟨⟨100, none, none, []⟩, []⟩ = (.ok built, after) ∧
      built.length = ranges.length ∧
      ∀ key ∈ [Cell.integer 10, .null, .integer 1],
        ranges.countP (fun range => range.selects key) ≤ 1 ∧
        (ranges.countP (fun range => range.selects key) = 1 ↔
          ∃ value, key.number? = some value ∧
            ∀ range ∈ ranges.tail, ¬ range.Follows value) := by
  have ran : (statements
      (some { Behaviour.silent with row := some [.integer 1, .integer 10] })
        { source := .table ⟨"t", by decide⟩
          tableName := some "t"
          limit := none
          partition := none
          partitionColumn := none
          partitionPeriod := Calendar.Period.oneDay
          splitColumn := some (.value "x")
          parallelism := some 2 } (.integer 0)).run ⟨⟨100, none, none, []⟩, []⟩ =
        (.ok ["SELECT * FROM t WHERE 1=1 AND x >= 1 AND x <= 5",
            "SELECT * FROM t WHERE 1=1 AND x >= 6 AND x <= 10"],
          ⟨⟨100, none, none, []⟩,
            [.execute "SELECT MIN(x), MAX(x) FROM (SELECT * FROM t WHERE 1=1)", .fetchOne,
              .closeCursor]⟩) :=
    Sequence.run_of_toOption (by decide +kernel)
  have bounds : IsBounds [.integer 10, .null, .integer 1] (.integer 1) (.integer 10) := by
    refine isBounds_of_mem (by decide) (by decide) rfl rfl ?_
    intro key member
    simp only [List.mem_cons, List.not_mem_nil, or_false] at member
    rcases member with rfl | rfl | rfl
    · exact .inr ⟨_, rfl, by norm_num, by norm_num⟩
    · exact .inl rfl
    · exact .inr ⟨_, rfl, by norm_num, by norm_num⟩
  obtain ⟨_, _, whole, parallelism, _, _, _, _, same, selected⟩ :=
    statements_select_once_iff rfl rfl bounds ran
  refine ⟨_, _, _, whole.divided parallelism, ran, ?_, selected⟩
  rw [same, List.length_map]

/-- Of the keys 0.5 and 1.5 two parts leave out the first, which is the least one. -/
theorem fractional_key_unselected :
    ∃ request built after, ∃ ranges : List KeyRange,
      admitted { Options.defaults with
          table := some (.value "t")
          splitColumn := some (.value "x")
          parallelism := some (.value 2) } Files.Tree.empty
        ⟨⟨2027, 8, 1, by decide, by decide, by decide, by decide, by decide, by decide⟩,
          0, 0, by decide⟩ = .ok request ∧
      request.isSplit = true ∧ request.limit = none ∧
      IsBounds [.decimal (.finite false 5 (-1)), .decimal (.finite false 15 (-1))]
        (.decimal (.finite false 5 (-1))) (.decimal (.finite false 15 (-1))) ∧
      (statements (some { Behaviour.silent with
          row := some [.decimal (.finite false 5 (-1)), .decimal (.finite false 15 (-1))] })
        request (.integer 0)).run ⟨⟨100, none, none, []⟩, []⟩ = (.ok built, after) ∧
      built = ranges.map (rangedText "SELECT * FROM t WHERE 1=1" "x" "") ∧
      ∀ range ∈ ranges, range.selects (.decimal (.finite false 5 (-1))) = false := by
  have least : (Cell.decimal (.finite false 5 (-1))).number? = some (1 / 2) := by
    norm_num [Cell.number?, Decimal.number?, withSign]
  have greatest : (Cell.decimal (.finite false 15 (-1))).number? = some (3 / 2) := by
    norm_num [Cell.number?, Decimal.number?, withSign]
  refine ⟨{ source := .table ⟨"t", by decide⟩
            tableName := some "t"
            limit := none
            partition := none
            partitionColumn := none
            partitionPeriod := Calendar.Period.oneDay
            splitColumn := some (.value "x")
            parallelism := some 2 },
    ["SELECT * FROM t WHERE 1=1 AND x >= 0 AND x <= 0",
      "SELECT * FROM t WHERE 1=1 AND x >= 1 AND x <= 2"],
    ⟨⟨100, none, none, []⟩,
      [.execute "SELECT MIN(x), MAX(x) FROM (SELECT * FROM t WHERE 1=1)", .fetchOne,
        .closeCursor]⟩,
    [⟨0, 0⟩, ⟨1, 2⟩], ?_, rfl, rfl, ?_, ?_, by decide, ?_⟩
  · exact Sequence.ok_of_toOption (by decide +kernel)
  · refine isBounds_of_mem (by decide) (by decide) least greatest ?_
    intro key member
    simp only [List.mem_cons, List.not_mem_nil, or_false] at member
    rcases member with rfl | rfl
    · exact .inr ⟨_, least, by norm_num, by norm_num⟩
    · exact .inr ⟨_, greatest, by norm_num, by norm_num⟩
  · exact Sequence.run_of_toOption (by decide +kernel)
  · intro range member
    simp only [List.mem_cons, List.not_mem_nil, or_false] at member
    simp only [KeyRange.selects, least, KeyRange.Holds]
    rcases member with rfl | rfl
    all_goals norm_num

end Planning

end TableExport
