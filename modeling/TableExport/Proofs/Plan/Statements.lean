import TableExport.Proofs.KeyRange.Division
import TableExport.Proofs.Plan.Probe

/-!
The statements of a plan that succeeds. Without a split there is one, and the
connection is never looked at. With a split there is one for each part of the
probed range; the parts ascend, and because an integer can be read off its text,
no statement occurs twice. The probe sees the window of the partition and never
the limit.
-/

set_option autoImplicit false

namespace TableExport

open TableExport.Text
open TableExport.Query
open TableExport.Database
open TableExport.Log

namespace Query

def rangedText (filtered column limit : String) (range : KeyRange) : String :=
  filtered ++ " AND " ++ column ++ " >= " ++ Numeral.ofInt range.low ++ " AND " ++ column ++
    " <= " ++ Numeral.ofInt range.high ++ limit

private theorem rangedStatement_ok {filtered column limit text : String} {range : KeyRange}
    (stated : rangedStatement filtered column limit range = .ok text) :
    text = rangedText filtered column limit range := by
  unfold rangedStatement at stated
  cases found : range.condition column with
  | error fault =>
      rw [found] at stated
      cases stated
  | ok condition =>
      rw [found] at stated
      simp only [KeyRange.condition, Sequence.bind_ok_iff, Numeral.write_eq_ok_iff] at found
      obtain ⟨low, ⟨_, sameLow⟩, high, ⟨_, sameHigh⟩, sameCondition⟩ := found
      cases sameCondition
      cases stated
      rw [rangedText, sameLow, sameHigh]
      simp only [String.append_assoc]

private theorem low_eq_of_rangedText_eq {filtered column limit : String} {first second : KeyRange}
    (same : rangedText filtered column limit first =
      rangedText filtered column limit second) :
    first.low = second.low := by
  -- the numeral ends at the space in front of the next word
  have separator : " AND " = " " ++ "AND " := by decide
  unfold rangedText at same
  rw [separator] at same
  simp only [String.append_assoc, String.append_right_inj] at same
  exact Numeral.eq_of_ofInt_append_eq same

private theorem nodup_rangedTexts (filtered column limit : String) {ranges : List KeyRange}
    (ascending : ranges.Pairwise fun earlier later => earlier.low < later.low) :
    (ranges.map (rangedText filtered column limit)).Nodup := by
  apply List.pairwise_map.mpr
  apply ascending.imp
  intro earlier later less same
  exact Int.ne_of_lt less (low_eq_of_rangedText_eq same)

end Query

namespace Planning

private theorem divide_ok {whole : KeyRange} {parallelism : Int} {parts : List KeyRange}
    {exchange after : Exchange}
    (ran : (divide whole parallelism).run exchange = (.ok parts, after)) :
    0 < parallelism ∧ parts = whole.divided parallelism ∧ after.calls = exchange.calls := by
  by_cases refused : parallelism ≤ 0
  · simp only [divide, if_pos refused, Sequence.run_bind_ok_iff] at ran
    obtain ⟨_, _, _, _, _, impossible, _⟩ := ran
    cases impossible
  · have positive : 0 < parallelism := Int.not_le.mp refused
    simp only [divide, if_neg refused] at ran
    by_cases long : whole.low < whole.high
    · simp only [if_pos long, Sequence.run_bind_ok_iff] at ran
      obtain ⟨_, told, telling, finished⟩ := ran
      cases finished
      exact ⟨positive, rfl, calls_of_tell telling⟩
    · simp only [if_neg long] at ran
      cases ran
      exact ⟨positive, rfl, rfl⟩

theorem splitRanges_ok {connection : Option Behaviour} {request : Request} {duration : Cell}
    {parts : List KeyRange} {filtered : String} {exchange after : Exchange}
    (stated : request.filteredStatement = .ok filtered)
    (ran : (splitRanges connection request duration).run exchange = (.ok parts, after)) :
    ∃ behaviour low high rest range parallelism,
      connection = some behaviour ∧ request.parallelism = some parallelism ∧
      0 < parallelism ∧ behaviour.row = some (low :: high :: rest) ∧
      rangeBetween request.shownSplitColumn low high = .ok range ∧
      parts = range.divided parallelism ∧
      after.calls = exchange.calls ++
        Dialogue.boundsCalls (boundsStatement filtered request.shownSplitColumn) := by
  cases connection with
  | none => cases ran
  | some behaviour =>
      simp only [splitRanges, stated, Sequence.run_bind_ok_iff,
        Sequence.run_ofExcept_ok_iff] at ran
      obtain ⟨_, _, ⟨sameStatement, stays⟩, range, probed, probing, divided⟩ := ran
      cases Except.ok.inj sameStatement
      rw [stays] at probing
      obtain ⟨low, high, rest, row, between, calls⟩ := probe_ok probing
      cases count : request.parallelism with
      | none =>
          rw [count] at divided
          cases divided
      | some parallelism =>
          rw [count] at divided
          obtain ⟨positive, sameParts, sameCalls⟩ := divide_ok divided
          exact ⟨behaviour, low, high, rest, range, parallelism, rfl, rfl, positive, row,
            between, sameParts, sameCalls.trans calls⟩

private theorem filteredStatement_ok {request : Request} {filtered : String}
    (stated : request.filteredStatement = .ok filtered) :
    ∃ condition, request.partitionCondition = .ok condition ∧
      filtered = request.source.statement ++ condition := by
  unfold Request.filteredStatement at stated
  rw [Sequence.bind_ok_iff] at stated
  obtain ⟨condition, found, same⟩ := stated
  cases same
  exact ⟨condition, found, rfl⟩

private theorem statements_connection_irrelevant {request : Request}
    (whole : request.isSplit = false) (first second : Option Behaviour) (duration : Cell) :
    statements first request duration = statements second request duration := by
  unfold statements
  simp only [whole, Bool.false_eq_true, if_false]

/-- Without a split a plan that succeeds has one statement and made no call. -/
theorem statements_whole_ok {connection : Option Behaviour} {request : Request}
    {duration : Cell} {built : List String} {exchange after : Exchange}
    (whole : request.isSplit = false)
    (ran : (statements connection request duration).run exchange = (.ok built, after)) :
    ∃ filtered limit, request.filteredStatement = .ok filtered ∧
      request.limitClause = .ok limit ∧ built = [filtered ++ limit] ∧
      after.calls = exchange.calls := by
  simp only [statements, whole, Bool.false_eq_true, if_false, Sequence.run_bind_ok_iff,
    Sequence.run_ofExcept_ok_iff] at ran
  obtain ⟨filtered, _, ⟨stated, rfl⟩, limit, _, ⟨limited, rfl⟩, _, _, chosen, _, told,
    telling, finished⟩ := ran
  cases chosen
  obtain ⟨sameBuilt, sameExchange⟩ := Prod.mk.inj finished
  cases sameBuilt
  refine ⟨filtered, limit, stated, limited, rfl, ?_⟩
  rw [← sameExchange]
  exact calls_of_tell telling

/-- With a split a plan that succeeds has a statement for each part of the range. -/
theorem statements_split_ok {connection : Option Behaviour} {request : Request}
    {duration : Cell} {built : List String} {exchange after : Exchange}
    (split : request.isSplit = true)
    (ran : (statements connection request duration).run exchange = (.ok built, after)) :
    ∃ filtered limit behaviour low high rest range parallelism,
      request.filteredStatement = .ok filtered ∧ request.limitClause = .ok limit ∧
      connection = some behaviour ∧ request.parallelism = some parallelism ∧
      0 < parallelism ∧ behaviour.row = some (low :: high :: rest) ∧
      rangeBetween request.shownSplitColumn low high = .ok range ∧
      built = (range.divided parallelism).map
        (rangedText filtered request.shownSplitColumn limit) ∧
      after.calls = exchange.calls ++
        Dialogue.boundsCalls (boundsStatement filtered request.shownSplitColumn) := by
  simp only [statements, split, if_true, Sequence.run_bind_ok_iff,
    Sequence.run_ofExcept_ok_iff] at ran
  obtain ⟨filtered, _, ⟨stated, rfl⟩, limit, _, ⟨limited, rfl⟩, parts, _,
    divided, _, probed, ⟨traversed, sameExchange⟩, _, told, telling, finished⟩ := ran
  obtain ⟨sameBuilt, sameAfter⟩ := Prod.mk.inj finished
  cases sameBuilt
  obtain ⟨behaviour, low, high, rest, range, parallelism, connected, count, positive, row,
    between, sameParts, calls⟩ := splitRanges_ok stated divided
  have texts := Sequence.mapM_ok (fun _ _ => rangedStatement_ok) traversed
  refine ⟨filtered, limit, behaviour, low, high, rest, range, parallelism, stated, limited,
    connected, count, positive, row, between, ?_, ?_⟩
  · rw [texts, sameParts]
  · rw [← sameAfter, calls_of_tell telling, sameExchange, calls]

/-- A plan that succeeds. Without a split it is one statement, whatever the connection;
with a split it is one statement for each part of the range that the probe found. -/
theorem statements_eq_of_ok {connection : Option Behaviour} {request : Request}
    {duration : Cell} {built : List String} {exchange after : Exchange}
    (ran : (statements connection request duration).run exchange = (.ok built, after)) :
    ∃ condition limit,
      request.partitionCondition = .ok condition ∧ request.limitClause = .ok limit ∧
      (request.isSplit = false →
        built = [request.source.statement ++ condition ++ limit] ∧
        after.calls = exchange.calls ∧
        ∀ other, (statements other request duration).run exchange = (.ok built, after)) ∧
      (request.isSplit = true →
        ∃ behaviour low high rest range parallelism,
          connection = some behaviour ∧ request.parallelism = some parallelism ∧
          after.calls = exchange.calls ++
            [.execute ("SELECT MIN(" ++ request.shownSplitColumn ++ "), MAX(" ++
                request.shownSplitColumn ++ ") FROM (" ++
                (request.source.statement ++ condition) ++ ")"),
              .fetchOne, .closeCursor] ∧
          behaviour.row = some (low :: high :: rest) ∧
          rangeBetween request.shownSplitColumn low high = .ok range ∧
          built = (range.divided parallelism).map
            (rangedText (request.source.statement ++ condition) request.shownSplitColumn
              limit) ∧
          (range.divided parallelism).Pairwise
            (fun earlier later => earlier.low < later.low) ∧
          built ≠ [] ∧ (built.length : Int) ≤ parallelism ∧ built.Nodup) := by
  cases split : request.isSplit with
  | false =>
      obtain ⟨filtered, limit, stated, limited, same, calls⟩ := statements_whole_ok split ran
      obtain ⟨condition, found, rfl⟩ := filteredStatement_ok stated
      refine ⟨condition, limit, found, limited, ?_, nofun⟩
      intro _
      refine ⟨same, calls, ?_⟩
      intro other
      rw [statements_connection_irrelevant split other connection]
      exact ran
  | true =>
      obtain ⟨filtered, limit, behaviour, low, high, rest, range, parallelism, stated, limited,
        connected, count, positive, row, between, same, calls⟩ :=
        statements_split_ok split ran
      obtain ⟨condition, found, rfl⟩ := filteredStatement_ok stated
      refine ⟨condition, limit, found, limited, nofun, ?_⟩
      intro _
      refine ⟨behaviour, low, high, rest, range, parallelism, connected, count, calls, row,
        between, same, KeyRange.pairwise_divided range parallelism, ?_, ?_, ?_⟩
      · rw [same]
        exact mt List.map_eq_nil_iff.mp (KeyRange.divided_ne_nil range parallelism)
      · rw [same, List.length_map]
        exact KeyRange.length_divided_le range positive
      · rw [same]
        exact nodup_rangedTexts _ _ _ (KeyRange.pairwise_divided range parallelism)

theorem statements_eq_of_ok_two_parts :
    ∃ request built after,
      (statements (some { Behaviour.silent with row := some [.integer 1, .integer 10] })
        request (.integer 0)).run ⟨⟨100, none, none, []⟩, []⟩ = (.ok built, after) ∧
      after.calls =
        [.execute "SELECT MIN(x), MAX(x) FROM (SELECT * FROM t WHERE 1=1)", .fetchOne,
          .closeCursor] ∧
      built.Nodup := by
  have ran : (statements
      (some { Behaviour.silent with row := some [.integer 1, .integer 10] })
        { source := .table ⟨"t", by decide⟩
          tableName := some "t"
          limit := some 5
          partition := none
          partitionColumn := none
          partitionPeriod := Calendar.Period.oneDay
          splitColumn := some (.value "x")
          parallelism := some 2 } (.integer 0)).run ⟨⟨100, none, none, []⟩, []⟩ =
        (.ok ["SELECT * FROM t WHERE 1=1 AND x >= 1 AND x <= 5 LIMIT 5",
            "SELECT * FROM t WHERE 1=1 AND x >= 6 AND x <= 10 LIMIT 5"],
          ⟨⟨100, none, none, []⟩,
            [.execute "SELECT MIN(x), MAX(x) FROM (SELECT * FROM t WHERE 1=1)", .fetchOne,
              .closeCursor]⟩) :=
    Sequence.run_of_toOption (by decide +kernel)
  obtain ⟨condition, limit, _, _, _, split⟩ := statements_eq_of_ok ran
  obtain ⟨_, _, _, _, _, _, _, _, _, _, _, _, _, _, _, distinct⟩ := split rfl
  exact ⟨_, _, _, ran, rfl, distinct⟩

end Planning

end TableExport
