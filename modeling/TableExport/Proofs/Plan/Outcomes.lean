import TableExport.Proofs.Admission.Windows
import TableExport.Proofs.Calendar.Moments
import TableExport.Proofs.Plan.Bounds
import TableExport.Proofs.Plan.Statements

/-!
How the plan of an admitted request ends. The checks leave it a positive count of
parts, and numbers with one digit to spare leave it texts for its messages; so a
probe that gives a range gives statements, and a probe that gives none is a
failure of the database. What remains are two numbers that the checks let through
whatever their length, and a window that ends outside the calendar. Each of these
has its own failure, and every end of a plan comes with the condition it stands
under.
-/

set_option autoImplicit false

namespace TableExport

open TableExport.Text
open TableExport.Number
open TableExport.Query
open TableExport.Database
open TableExport.Log

/-- A database whose row of bounds, if it has one, is two cells below a power of ten. -/
def Database.Behaviour.AnswersBelow (digits : Nat) (behaviour : Behaviour) : Prop :=
  behaviour.row = none ∨
    ∃ low high, behaviour.row = some [low, high] ∧ low.IsBelow digits ∧ high.IsBelow digits

private theorem Database.Behaviour.AnswersBelow.boundsBelow {digits : Nat} {behaviour : Behaviour}
    (below : behaviour.AnswersBelow digits) : behaviour.BoundsBelow digits := by
  rcases below with missing | ⟨low, high, cells, lowBelow, highBelow⟩
  · exact .inl missing
  · exact .inr (.inr ⟨low, high, [], cells, lowBelow, highBelow⟩)

/-- A window that is asked for and has no end in the calendar. -/
def Query.Request.LacksWindow (request : Request) : Prop :=
  ∃ column partition, request.Selects column partition ∧
    ∀ stop, ¬ partition.date.IsShifted request.partitionPeriod.totalMonths
      request.partitionPeriod.days stop

structure Query.Request.IsStated (request : Request) : Prop where
  window : ¬ request.LacksWindow
  limit : ∀ limit, request.limit = some limit → Numeral.IsWritable limit

namespace Planning

open TableExport.Sequence

variable {connection : Option Behaviour} {behaviour : Behaviour} {request : Request}
variable {exchange : Exchange} {digits : Nat} {range : KeyRange} {parallelism : Int}

/-! ### Messages about counts -/

private theorem isReduced_of_pos (positive : 1 ≤ parallelism) (count : Int) :
    Event.isReduced (.integer count) (.integer parallelism) =
      .ok (decide (count < parallelism)) := by
  have something : (Cell.integer parallelism).isSomething = true :=
    bne_iff_ne.mpr (by omega)
  rw [Event.isReduced, if_pos something, less_integer]

private theorem queriesBuilt_shown {count : Int} (positive : 1 ≤ parallelism)
    (countWritable : Numeral.IsWritable count) (writable : Numeral.IsWritable parallelism) :
    ∃ text, (Event.queriesBuilt (.integer count) (.integer parallelism)).text = .ok text := by
  simp only [Event.text, isReduced_of_pos positive, ok_bind, shown_integer countWritable,
    shown_integer writable]
  by_cases fewer : decide (count < parallelism) = true
  · rw [if_pos fewer]
    exact ⟨_, rfl⟩
  · rw [if_neg fewer]
    exact ⟨_, rfl⟩

private theorem queriesBuilt_unshown {count : Int} (positive : 1 ≤ parallelism)
    (fewer : count < parallelism) (unwritable : ¬ Numeral.IsWritable parallelism) :
    (Event.queriesBuilt (.integer count) (.integer parallelism)).text =
      .error (.numeral .tooManyToWrite) := by
  simp only [Event.text, isReduced_of_pos positive, ok_bind, if_pos (decide_eq_true fewer)]
  apply RefusesOnly.eq_error
  · refine RefusesOnly.bind (countText_refuses count) fun _ => ?_
    exact RefusesOnly.bind (countText_refuses parallelism) fun _ => refusesOnly_ok _ _
  · intro text shown
    simp only [bind_ok_iff] at shown
    obtain ⟨_, _, _, found, _⟩ := shown
    exact unwritable (isWritable_of_shown found)

/-! ### The parts of a range -/

private theorem rangedStatement_of_within (within : range.Within digits)
    (few : digits < Numeral.digitLimit) (filtered column limit : String) :
    rangedStatement filtered column limit range =
      .ok (rangedText filtered column limit range) := by
  have low := Numeral.write_of_isWritable (within.isWritable_low few)
  have high := Numeral.write_of_isWritable (within.isWritable_high few)
  have condition : range.condition column = .ok (column ++ " >= " ++ Numeral.ofInt range.low ++
      " AND " ++ column ++ " <= " ++ Numeral.ofInt range.high) := by
    rw [KeyRange.condition, bind_ok_iff]
    refine ⟨_, low, ?_⟩
    rw [bind_ok_iff]
    exact ⟨_, high, rfl⟩
  unfold rangedStatement rangedText
  rw [condition]
  simp only [String.append_assoc]

private theorem mapM_rangedStatement (within : range.Within digits)
    (few : digits < Numeral.digitLimit)
    (parallelism : Int) (filtered column limit : String) :
    (range.divided parallelism).mapM (rangedStatement filtered column limit) =
      .ok ((range.divided parallelism).map (rangedText filtered column limit)) :=
  mapM_eq_map fun part member =>
    rangedStatement_of_within (within.divided parallelism part member) few filtered column limit

/-! ### Parts of a request that may have no text -/

private theorem partitionCondition_refuses {failure : Failure}
    (refused : request.partitionCondition = .error failure) :
    ∃ fault, failure = .calendar fault := by
  unfold Request.partitionCondition at refused
  split at refused
  · cases refused
  · cases refused
  · exact ⟨_, (Except.error.inj refused).symm⟩

/-- A request that selects whenever it has a column is filtered unless it lacks its window. -/
theorem filteredStatement_cases
    (selecting : ∀ column, request.partitionColumn = some column →
      ∃ partition, request.Selects column partition) :
    (request.LacksWindow ∧ ∃ fault, request.filteredStatement = .error (.calendar fault)) ∨
      (¬ request.LacksWindow ∧ ∃ filtered, request.filteredStatement = .ok filtered) := by
  cases found : request.partitionCondition with
  | error failure =>
      obtain ⟨fault, rfl⟩ := partitionCondition_refuses found
      refine .inl ⟨?_, fault, by rw [Request.filteredStatement, found]; rfl⟩
      cases byColumn : request.partitionColumn with
      | none =>
          have whole : request.partitionCondition = .ok "" := by
            simp only [Request.partitionCondition, Request.window?, byColumn]
          rw [whole] at found
          cases found
      | some column =>
          obtain ⟨partition, selects⟩ := selecting column byColumn
          refine ⟨column, partition, selects, fun stop shifted => ?_⟩
          rw [selects.partitionCondition_ok_iff.mpr ⟨stop, shifted, rfl⟩] at found
          cases found
  | ok condition =>
      refine .inr ⟨?_, _, by rw [Request.filteredStatement, found]; rfl⟩
      rintro ⟨column, partition, selects, endless⟩
      obtain ⟨stop, shifted, _⟩ := selects.partitionCondition_ok_iff.mp found
      exact endless stop shifted

private theorem limitClause_cases (request : Request) :
    (∃ limit, request.limit = some limit ∧ ¬ Numeral.IsWritable limit ∧
        request.limitClause = .error (.numeral .tooManyToWrite)) ∨
      ((∀ limit, request.limit = some limit → Numeral.IsWritable limit) ∧
        ∃ clause, request.limitClause = .ok clause) := by
  cases limited : request.limit with
  | none => exact .inr ⟨nofun, "", by simp only [Request.limitClause, limited]⟩
  | some limit =>
      by_cases writable : Numeral.IsWritable limit
      · refine .inr ⟨?_, " LIMIT " ++ Numeral.ofInt limit, ?_⟩
        · intro other same
          cases same
          exact writable
        · simp only [Request.limitClause, limited, Numeral.write_of_isWritable writable]
      · refine .inl ⟨limit, rfl, writable, ?_⟩
        simp only [Request.limitClause, limited, Numeral.write_of_not_isWritable writable]

/-! ### Statements -/

private theorem statements_run_of_whole {filtered limit : String}
    (filtering : request.filteredStatement = .ok filtered)
    (limiting : request.limitClause = .ok limit) (split : request.isSplit = false)
    (uncounted : request.parallelism = none) (sound : exchange.journal.IsSound)
    (connection : Option Behaviour) (duration : Cell) :
    ∃ after, (statements connection request duration).run exchange =
      (.ok [filtered ++ limit], after) := by
  have reduced : Event.isReduced (.integer 1) .null = .ok false := rfl
  have one : (Cell.integer 1).shown = .ok (Numeral.ofInt 1) :=
    shown_integer (Numeral.isWritable_of_small (by decide))
  have shown : ∃ text, (Event.queriesBuilt (.integer 1) .null).text = .ok text := by
    simp only [Event.text, reduced, one, ok_bind]
    exact ⟨_, rfl⟩
  obtain ⟨text, shown⟩ := shown
  obtain ⟨after, told, _⟩ := tell_run_of_sound sound rfl shown
  refine ⟨after, ?_⟩
  simp only [statements, split, Bool.false_eq_true, if_false, uncounted, Option.elim_none,
    List.length_singleton, Nat.cast_one, run_bind, run_ofExcept, run_pure, filtering, limiting,
    told]

private theorem statements_run_of_unconnected {filtered limit : String}
    (filtering : request.filteredStatement = .ok filtered)
    (limiting : request.limitClause = .ok limit) (split : request.isSplit = true)
    (exchange : Exchange) (duration : Cell) :
    (statements none request duration).run exchange =
      (.error (.connectionRequired request.shownSplitColumn), exchange) := by
  simp only [statements, split, if_true, splitRanges, run_bind, run_ofExcept, filtering,
    limiting]
  rfl

/-- Over a connection a split plan fails with the database, or its count decides. -/
theorem statements_split_cases {filtered limit : String}
    (filtering : request.filteredStatement = .ok filtered)
    (limiting : request.limitClause = .ok limit) (split : request.isSplit = true)
    (count : request.parallelism = some parallelism) (positive : 1 ≤ parallelism)
    (sound : exchange.journal.IsSound) (below : behaviour.AnswersBelow digits)
    (few : digits < Numeral.digitLimit) (duration : Binary64) :
    (¬ behaviour.GivesBounds ∧
        ∃ cause, ((statements (some behaviour) request (.real duration)).run exchange).1 =
          .error (.database cause)) ∨
      (behaviour.GivesBounds ∧ ¬ Numeral.IsWritable parallelism ∧
        ((statements (some behaviour) request (.real duration)).run exchange).1 =
          .error .untold) ∨
      (behaviour.GivesBounds ∧ Numeral.IsWritable parallelism ∧
        ∃ built, ((statements (some behaviour) request (.real duration)).run exchange).1 =
          .ok built ∧ built ≠ []) := by
  simp only [statements, split, if_true, splitRanges, run_bind, run_ofExcept, filtering,
    limiting, count, Option.elim_some]
  rcases probe_cases sound below.boundsBelow few filtered request.shownSplitColumn duration with
    ⟨fails, cause, after, refused⟩ | ⟨least, greatest, bounds, probed, found, within, stays⟩
  · simp only [refused]
    refine .inl ⟨fun gives => ?_, cause, rfl⟩
    obtain ⟨least, greatest, bounds⟩ := Behaviour.givesBounds_iff.mp gives
    exact fails least greatest bounds
  · have gives := Behaviour.givesBounds_iff.mpr ⟨least, greatest, bounds⟩
    generalize KeyRange.around least greatest = range at found within
    refine .inr ?_
    simp only [found]
    by_cases writable : Numeral.IsWritable parallelism
    · refine .inr ⟨gives, writable, ?_⟩
      obtain ⟨divided, ran, kept⟩ := divide_run_of_within within few stays positive writable
      have atMost := KeyRange.length_divided_le range positive
      have countWritable : Numeral.IsWritable ((range.divided parallelism).length : Int) := by
        unfold Numeral.IsWritable at writable ⊢
        omega
      obtain ⟨text, shown⟩ := queriesBuilt_shown positive countWritable writable
      obtain ⟨after, told, _⟩ := tell_run_of_sound kept rfl shown
      simp only [ran, mapM_rangedStatement within few, List.length_map, told, run_pure]
      exact ⟨_, rfl, mt List.map_eq_nil_iff.mp (KeyRange.divided_ne_nil range parallelism)⟩
    · refine .inl ⟨gives, writable, ?_⟩
      by_cases long : range.low < range.high
      · simp only [divide_run_of_unwritable positive writable long]
      · -- a single part is built, and its message shows that more were asked for
        have more : 1 < parallelism := by
          apply Int.not_le.mp
          intro small
          exact writable (Numeral.isWritable_of_small (by omega))
        have told : (tell (.queriesBuilt (.integer 1) (.integer parallelism))).run probed =
            (.error .untold, probed) :=
          tell_run_of_unshown rfl (queriesBuilt_unshown positive more writable) probed
        have single := mapM_rangedStatement within few parallelism filtered
          request.shownSplitColumn limit
        rw [KeyRange.divided_of_not_lt long, List.map_singleton] at single
        simp only [divide_run_of_not_lt probed positive long, KeyRange.divided_of_not_lt long,
          single, List.length_singleton, Nat.cast_one, told]

inductive Ends (connection : Option Behaviour) (request : Request) :
    Except Failure (List String) → Prop
  | windowless {fault : Calendar.Fault} :
      request.LacksWindow → Ends connection request (.error (.calendar fault))
  | limitTooLong {limit : Int} :
      ¬ request.LacksWindow → request.limit = some limit → ¬ Numeral.IsWritable limit →
      Ends connection request (.error (.numeral .tooManyToWrite))
  | whole {text : String} :
      request.IsStated → request.isSplit = false → Ends connection request (.ok [text])
  | unconnected :
      request.IsStated → request.isSplit = true → connection = none →
      Ends connection request (.error (.connectionRequired request.shownSplitColumn))
  | refused {behaviour : Behaviour} {cause : DatabaseCause} :
      request.IsStated → request.isSplit = true → connection = some behaviour →
      ¬ behaviour.GivesBounds → Ends connection request (.error (.database cause))
  | countTooLong {behaviour : Behaviour} {parallelism : Int} :
      request.IsStated → request.isSplit = true → connection = some behaviour →
      behaviour.GivesBounds → request.parallelism = some parallelism →
      ¬ Numeral.IsWritable parallelism → Ends connection request (.error .untold)
  | split {behaviour : Behaviour} {parallelism : Int} {built : List String} :
      request.IsStated → request.isSplit = true → connection = some behaviour →
      behaviour.GivesBounds → request.parallelism = some parallelism →
      Numeral.IsWritable parallelism → built ≠ [] → Ends connection request (.ok built)

/-- A connection is missed exactly where a stated request is split without one. -/
theorem Ends.connectionRequired_iff {outcome : Except Failure (List String)}
    (ends : Ends connection request outcome) :
    (∃ column, outcome = .error (.connectionRequired column)) ↔
      request.IsStated ∧ request.isSplit = true ∧ connection = none := by
  constructor
  · rintro ⟨column, rfl⟩
    cases ends with
    | unconnected stated split absent => exact ⟨stated, split, absent⟩
  · rintro ⟨stated, split, absent⟩
    cases ends with
    | windowless lacks => exact absurd lacks stated.window
    | limitTooLong _ limited unwritable => exact absurd (stated.limit _ limited) unwritable
    | whole _ whole =>
        rw [whole] at split
        cases split
    | unconnected => exact ⟨_, rfl⟩
    | refused _ _ connected =>
        rw [connected] at absent
        cases absent
    | countTooLong _ _ connected =>
        rw [connected] at absent
        cases absent
    | split _ _ connected =>
        rw [connected] at absent
        cases absent

theorem split_of_admitted {options : Options} {files : Files.Tree} {now : Calendar.Instant}
    (accepted : admitted options files now = .ok request) :
    (request.isSplit = false ∧ request.parallelism = none) ∨
      (request.isSplit = true ∧
        ∃ parallelism, request.parallelism = some parallelism ∧ 1 ≤ parallelism) := by
  have carried := Condition.carries_of_admitted accepted
  have decided : Condition.Decides options files now Condition.all (admitted options files now) :=
    Condition.decides_admitted
  have paired : options.splitColumn.isSome ↔ options.parallelism.isSome :=
    decided.met request accepted .splitColumn (by decide)
  have counted : Condition.Positive options.parallelism :=
    decided.met request accepted .parallelism (by decide)
  unfold Request.isSplit
  rw [carried.splitColumn, carried.parallelism]
  cases given : options.parallelism with
  | none => exact .inl ⟨Bool.and_false _, rfl⟩
  | some count =>
      obtain ⟨parallelism, rfl, positive⟩ := counted count given
      rw [given] at paired
      exact .inr ⟨Bool.and_eq_true_iff.mpr ⟨paired.mpr rfl, rfl⟩, parallelism, rfl, positive⟩

/-- The ends of a plan whose request has a text for its window and its limit. -/
theorem ends_of_stated {filtered limit : String} {options : Options} {files : Files.Tree}
    {now : Calendar.Instant} {duration : Binary64}
    (accepted : admitted options files now = .ok request) (stated : request.IsStated)
    (filtering : request.filteredStatement = .ok filtered)
    (limiting : request.limitClause = .ok limit) (sound : exchange.journal.IsSound)
    (few : digits < Numeral.digitLimit)
    (answered : ∀ behaviour, connection = some behaviour → behaviour.AnswersBelow digits) :
    Ends connection request
      ((statements connection request (.real duration)).run exchange).1 := by
  rcases split_of_admitted accepted with
    ⟨whole, uncounted⟩ | ⟨split, parallelism, count, positive⟩
  · obtain ⟨after, ran⟩ := statements_run_of_whole filtering limiting whole uncounted sound
      connection (.real duration)
    rw [ran]
    exact .whole stated whole
  · cases connection with
    | none =>
        rw [statements_run_of_unconnected filtering limiting split]
        exact .unconnected stated split rfl
    | some behaviour =>
        rcases statements_split_cases filtering limiting split count positive sound
          (answered behaviour rfl) few duration with
          ⟨fails, cause, ended⟩ | ⟨gives, unwritable, ended⟩ |
            ⟨gives, writable, built, ended, connected⟩
        · rw [ended]
          exact .refused stated split rfl fails
        · rw [ended]
          exact .countTooLong stated split rfl gives count unwritable
        · rw [ended]
          exact .split stated split rfl gives count writable connected

/-- Every plan of an admitted request ends with statements, with a failure of the database
when it is split, or for want of a connection, exactly when it is split without one; or its
window has no end in the calendar, or its limit or its count of parts has too many digits.
A count of parts that is not positive never gets this far. -/
theorem statements_ends {options : Options} {files : Files.Tree} {now : Calendar.Instant}
    {duration : Binary64} (accepted : admitted options files now = .ok request)
    (sound : exchange.journal.IsSound) (few : digits < Numeral.digitLimit)
    (answered : ∀ behaviour, connection = some behaviour → behaviour.AnswersBelow digits) :
    Ends connection request
        ((statements connection request (.real duration)).run exchange).1 ∧
      ((∃ column, ((statements connection request (.real duration)).run exchange).1 =
          .error (.connectionRequired column)) ↔
        request.IsStated ∧ request.isSplit = true ∧ connection = none) ∧
      ∀ shown, ((statements connection request (.real duration)).run exchange).1 ≠
        .error (.partsNotPositive shown) := by
  have carried := Condition.carries_of_admitted accepted
  have selecting : ∀ column, request.partitionColumn = some column →
      ∃ partition, request.Selects column partition := fun column byColumn =>
    Condition.selects_of_admitted accepted (carried.partitionColumn.symm.trans byColumn)
  have ends : Ends connection request
      ((statements connection request (.real duration)).run exchange).1 := by
    rcases filteredStatement_cases selecting with
      ⟨lacks, fault, filtering⟩ | ⟨window, filtered, filtering⟩
    · simp only [statements, run_bind, run_ofExcept, filtering]
      exact .windowless lacks
    · rcases limitClause_cases request with
        ⟨limit, limited, unwritable, limiting⟩ | ⟨writable, limit, limiting⟩
      · simp only [statements, run_bind, run_ofExcept, filtering, limiting]
        exact .limitTooLong window limited unwritable
      · exact ends_of_stated accepted ⟨window, writable⟩ filtering limiting sound few answered
  refine ⟨ends, ends.connectionRequired_iff, fun shown same => ?_⟩
  rw [same] at ends
  cases ends

def idOptions : Options :=
  { Options.defaults with
    table := some (.value "visits")
    splitColumn := some (.value "id")
    parallelism := some (.value 2) }

theorem statements_ends_over_two_keys :
    ∃ request,
      admitted idOptions Files.Tree.empty (lastOfJanuary.atHour 12) = .ok request ∧
      request.isSplit = true ∧
      Ends (some { Behaviour.silent with row := some [.integer 1, .integer 5] }) request
        ((statements (some { Behaviour.silent with row := some [.integer 1, .integer 5] })
          request (.real (.finite false 0 0))).run ⟨⟨10, none, none, []⟩, []⟩).1 ∧
      ¬ ∃ column,
        ((statements (some { Behaviour.silent with row := some [.integer 1, .integer 5] })
          request (.real (.finite false 0 0))).run ⟨⟨10, none, none, []⟩, []⟩).1 =
            .error (.connectionRequired column) := by
  have accepted : admitted idOptions Files.Tree.empty (lastOfJanuary.atHour 12) =
      .ok { source := .table ⟨"visits", by decide⟩
            tableName := some "visits"
            limit := none
            partition := none
            partitionColumn := none
            partitionPeriod := Calendar.Period.oneDay
            splitColumn := some (.value "id")
            parallelism := some 2 } := ok_of_toOption (by decide +kernel)
  have answered : ∀ behaviour,
      some { Behaviour.silent with row := some [.integer 1, .integer 5] } = some behaviour →
        behaviour.AnswersBelow 1 := by
    rintro behaviour ⟨⟩
    refine .inr ⟨_, _, rfl, ?_, ?_⟩
    · rintro number ⟨⟩
      norm_num
    · rintro number ⟨⟩
      norm_num
  have idle : Journal.IsSound (Exchange.journal ⟨⟨10, none, none, []⟩, []⟩) :=
    isSound_of_idle rfl rfl
  obtain ⟨ends, connectionless, _⟩ := statements_ends accepted idle (by decide) answered
  refine ⟨_, accepted, rfl, ends, ?_⟩
  rw [connectionless]
  rintro ⟨_, _, impossible⟩
  cases impossible

def lastDayOptions : Options :=
  { Options.defaults with
    table := some (.value "visits")
    partition := some (.value "9999-12-31")
    partitionColumn := some (.value "day") }

/-- The last day of the calendar is admitted as a partition, and a plan without a split
fails for the day behind it. -/
theorem last_day_windowless :
    ∃ request,
      admitted lastDayOptions Files.Tree.empty (lastOfJanuary.atHour 12) = .ok request ∧
      request.isSplit = false ∧
      ((statements none request (.real (.finite false 0 0))).run
        ⟨⟨10, none, none, []⟩, []⟩).1 = .error (.calendar .beyondCalendar) := by
  have accepted : admitted lastDayOptions Files.Tree.empty (lastOfJanuary.atHour 12) =
      .ok (requestOn (Calendar.Date.last.atHour 0) .oneDay) := ok_of_toOption (by decide +kernel)
  exact ⟨_, accepted, rfl, rfl⟩

end Planning

end TableExport
