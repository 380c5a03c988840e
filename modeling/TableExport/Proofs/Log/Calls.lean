import TableExport.Log.Call
import TableExport.Proofs.Log.Levels
import TableExport.Proofs.Log.Standing

/-!
Runs of calls by name. After any calls whatever, also ones that came to nothing,
a journal holds the export that stands after the events they told of; and each
record that a call leaves is written behind this export as it stands once the
call itself is taken into account.
-/

set_option autoImplicit false

namespace TableExport.Log

open TableExport.Text
open TableExport.Number
open TableExport.Sequence

structure NamedCall where
  name : String
  arguments : Arguments
deriving DecidableEq, Repr

def NamedCall.event? (call : NamedCall) : Option Event :=
  match messageLevel? call.name, callSignature? call.name with
  | none, some signature =>
      (signature.values call.arguments).toOption.bind (callEvent? signature.name)
  | _, _ => none

def NamedCall.written? (call : NamedCall) : Option (Level × Except Cell.Fault String) :=
  match messageLevel? call.name with
  | some level =>
      ((messageSignature call.name).values call.arguments).toOption.map fun values =>
        (level, (values.headD .null).shown)
  | none => call.event?.bind fun event => event.level?.map fun level => (level, event.text)

/-- A journal after calls, whatever came of each of them. -/
def Journal.calls (journal : Journal) (calls : List NamedCall) : Journal :=
  calls.foldl (fun journal call => (journal.call call.name call.arguments).2) journal

/-! ### What stands in front of a message -/

/-- The fields in front of a message tell of the export that stands: its name; where its total is
positive, how many of its statements are completed; and the rows, where they are positive too. -/
inductive Heads : Option Standing → List String → Prop where
  | idle : Heads none []
  | named {standing : Standing} {name : String} (nameShown : standing.name.shown = .ok name)
      (unsized : standing.total.greater (.integer 0) = .ok false) :
      Heads (some standing) ["EXPORT:" ++ name]
  | counted {standing : Standing} {name total : String}
      (nameShown : standing.name.shown = .ok name)
      (sized : standing.total.greater (.integer 0) = .ok true)
      (totalShown : standing.total.shown = .ok total) (rowless : standing.rows ≤ 0) :
      Heads (some standing)
        ["EXPORT:" ++ name, "QUERIES:" ++ Numeral.ofNat standing.completed ++ "/" ++ total]
  | measured {standing : Standing} {name total rows : String}
      (nameShown : standing.name.shown = .ok name)
      (sized : standing.total.greater (.integer 0) = .ok true)
      (totalShown : standing.total.shown = .ok total) (filled : 0 < standing.rows)
      (rowsShown : rowsText (.integer standing.rows) = .ok rows) :
      Heads (some standing)
        ["EXPORT:" ++ name, "QUERIES:" ++ Numeral.ofNat standing.completed ++ "/" ++ total,
          "ROWS:" ++ rows]

/-- The text in front of a message: the fields and the memory reading, in brackets. -/
def front (fields : List String) (memory : String) : String :=
  "[" ++ String.intercalate "] [" (fields ++ ["MEM:" ++ memory]) ++ "]"

private theorem ofNat_of_countText {count : Nat} {text : String}
    (shown : countText count = .ok text) :
    text = Numeral.ofNat count := by
  unfold countText at shown
  rw [shown_integer (isWritable_of_shown shown)] at shown
  cases shown
  rfl

private theorem rowParts_cases {standing : Standing} {parts : List String}
    (shown : standing.progress.rowParts = .ok parts) :
    (standing.rows ≤ 0 ∧ parts = []) ∨
      0 < standing.rows ∧ ∃ rows, rowsText (.integer standing.rows) = .ok rows ∧
        parts = ["ROWS:" ++ rows] := by
  simp only [Progress.rowParts, Standing.progress, Cell.ofQuantity, greater_integer, ok_bind,
    decide_eq_true_eq] at shown
  split at shown
  · rename_i filled
    rw [bind_ok_iff] at shown
    obtain ⟨rows, rowsShown, same⟩ := shown
    cases same
    exact .inr ⟨filled, rows, rowsShown, rfl⟩
  · rename_i rowless
    cases shown
    exact .inl ⟨Int.not_lt.mp rowless, rfl⟩

private theorem heads_of_parts {standing : Standing} {parts : List String}
    (shown : standing.progress.parts = .ok parts) : Heads (some standing) parts := by
  simp only [Progress.parts, bind_ok_iff] at shown
  obtain ⟨name, nameShown, sized, compared, rest⟩ := shown
  cases sized with
  | false =>
      cases rest
      exact .named nameShown compared
  | true =>
      rw [if_pos rfl] at rest
      simp only [bind_ok_iff] at rest
      obtain ⟨completed, counted, total, totalShown, rows, rowsShown, same⟩ := rest
      cases same
      rw [ofNat_of_countText counted]
      rcases rowParts_cases rowsShown with ⟨rowless, rfl⟩ | ⟨filled, text, textShown, rfl⟩
      · exact .counted nameShown compared totalShown rowless
      · exact .measured nameShown compared totalShown filled textShown

/-- What a journal writes in front of a message heads the export that it holds. -/
theorem heading_heads {journal : Journal} {current : Option Standing} {heading : String}
    (holds : journal.progress = current.map Standing.progress)
    (found : journal.heading = .ok heading) :
    ∃ fields memory, Heads current fields ∧ memoryText journal.memory = .ok memory ∧
      heading = front fields memory := by
  unfold Journal.heading at found
  rw [holds] at found
  cases current with
  | none =>
      obtain ⟨_, ⟨⟩, rest⟩ := (bind_ok_iff _ _ _).mp found
      obtain ⟨memory, read, same⟩ := (bind_ok_iff _ _ _).mp rest
      cases same
      exact ⟨[], memory, .idle, read, rfl⟩
  | some standing =>
      obtain ⟨parts, shown, rest⟩ := (bind_ok_iff _ _ _).mp found
      obtain ⟨memory, read, same⟩ := (bind_ok_iff _ _ _).mp rest
      cases same
      exact ⟨parts, memory, heads_of_parts shown, read, rfl⟩

/-! ### Writing -/

inductive Wrote {Fault : Type} (journal : Journal) (level : Level)
    (message : Except Cell.Fault String) : Except Fault Unit × Journal → Prop where
  | nothing {outcome : Except Fault Unit}
      (quiet : outcome = .ok () → journal.isOpenTo level = false) :
      Wrote journal level message (outcome, journal)
  | record {heading text : String} {asksFailure : Bool}
      (kept : journal.isOpenTo level = true) (headed : journal.heading = .ok heading)
      (shown : message = .ok text) :
      Wrote journal level message
        (.ok (), journal.keepAsking level (heading ++ " " ++ text) asksFailure)

private theorem wrote_of_failure {Fault : Type} {journal : Journal} {level : Level}
    {message : Except Cell.Fault String} (fault : Fault) :
    Wrote journal level message (.error fault, journal) :=
  .nothing fun succeeded => by cases succeeded

private theorem headed_cases {journal : Journal} {message : Cell} {line : String}
    (headed : journal.headed message = .ok line) :
    ∃ heading text, journal.heading = .ok heading ∧ message.shown = .ok text ∧
      line = heading ++ " " ++ text := by
  unfold Journal.headed at headed
  obtain ⟨heading, found, rest⟩ := (bind_ok_iff _ _ _).mp headed
  obtain ⟨text, shown, same⟩ := (bind_ok_iff _ _ _).mp rest
  cases same
  exact ⟨heading, text, found, shown, rfl⟩

private theorem wrote_note (journal : Journal) (level : Level) (message : Cell) :
    Wrote journal level message.shown ((note level message).run journal) := by
  by_cases kept : journal.isOpenTo level = true
  · cases headed : journal.headed message with
    | error fault =>
        have ran : (note level message).run journal = (.error fault, journal) := by
          simp only [note, run_bind, run_get, if_pos kept, headed, run_ofExcept]
        rw [ran]
        exact wrote_of_failure fault
    | ok line =>
        obtain ⟨heading, text, found, shown, rfl⟩ := headed_cases headed
        rw [note_run_open kept headed]
        exact .record kept found shown
  · rw [note_run_closed kept]
    exact .nothing fun _ => Bool.eq_false_iff.mpr kept

private theorem wrote_noteFormatted (journal : Journal) (level : Level)
    (message : Except Cell.Fault String) :
    Wrote journal level message ((noteFormatted level message).run journal) := by
  cases message with
  | error fault => exact wrote_of_failure fault
  | ok text => exact wrote_note journal level (.text text)

private theorem wrote_of_remark {journal told : Journal} {level : Level} {message : Cell}
    {requests : List (String × Cell)} (ran : journal.remark level message requests = .ok told) :
    Wrote journal level message.shown ((.ok (), told) : Except CallFault Unit × Journal) := by
  unfold Journal.remark at ran
  split at ran
  · cases ran
  split at ran
  · rename_i dropped
    cases ran
    exact .nothing fun _ => by rwa [Bool.not_eq_true'] at dropped
  rename_i kept
  rw [Bool.not_eq_true', Bool.not_eq_false] at kept
  split at ran
  · cases ran
  rename_i line headed
  obtain ⟨heading, text, found, shown, rfl⟩ := headed_cases headed
  split at ran
  · cases ran
  · cases ran
  · cases ran
    exact .record kept found shown

theorem Wrote.mapError {First Second : Type} {journal told : Journal} {level : Level}
    {message : Except Cell.Fault String} {outcome : Except First Unit}
    (wrote : Wrote journal level message (outcome, told)) (change : First → Second) :
    Wrote journal level message (outcome.mapError change, told) := by
  cases wrote with
  | nothing quiet => exact .nothing fun ok => quiet ((mapError_ok_iff change outcome ()).mp ok)
  | record kept headed shown => exact .record kept headed shown

theorem Wrote.progress {Fault : Type} {journal : Journal} {level : Level}
    {message : Except Cell.Fault String} {ran : Except Fault Unit × Journal}
    (wrote : Wrote journal level message ran) : ran.2.progress = journal.progress := by
  cases wrote with
  | nothing => rfl
  | record => rfl

private theorem writing_of_unnoted {event : Event} (unnoted : event.level? = none) :
    event.writing = pure () := by
  unfold Event.writing
  split
  · cases unnoted
  · rw [unnoted]

private theorem wrote_writing (journal : Journal) {event : Event} {level : Level}
    (noted : event.level? = some level) :
    Wrote journal level event.text (event.writing.run journal) := by
  unfold Event.writing
  split
  · cases noted
    exact wrote_note journal _ _
  · rw [noted]
    exact wrote_noteFormatted journal level event.text

/-! ### One call -/

inductive Emits (current : Option Standing) (journal : Journal) (call : NamedCall) :
    Except CallFault Unit × List Record → Prop where
  | nothing {outcome : Except CallFault Unit}
      (quiet : outcome = .ok () → ∀ level message, call.written? = some (level, message) →
        journal.isOpenTo level = false) :
      Emits current journal call (outcome, journal.records)
  | record {level : Level} {message memory : String} {fields : List String} {asksFailure : Bool}
      (written : call.written? = some (level, .ok message))
      (kept : journal.isOpenTo level = true) (heads : Heads current fields)
      (read : memoryText journal.memory = .ok memory) :
      Emits current journal call
        (.ok (), journal.records ++
          [⟨level, redact (front fields memory ++ " " ++ message), asksFailure⟩])

section Calling

variable {journal : Journal} {current : Option Standing} {call : NamedCall}

theorem emits_of_wrote {changed : Journal} {level : Level} {message : Except Cell.Fault String}
    {ran : Except CallFault Unit × Journal}
    (holds : changed.progress = current.map Standing.progress)
    (setup : changed.setup = journal.setup) (records : changed.records = journal.records)
    (written : call.written? = some (level, message)) (wrote : Wrote changed level message ran) :
    Emits current journal call (ran.1, ran.2.records) := by
  obtain ⟨threshold, memory⟩ := Prod.mk.inj setup
  have opens (level : Level) : changed.isOpenTo level = journal.isOpenTo level := by
    rw [Journal.isOpenTo, Journal.isOpenTo, threshold]
  cases wrote with
  | nothing quiet =>
      rw [records]
      refine .nothing fun ok other text writtenToo => ?_
      rw [written] at writtenToo
      cases writtenToo
      rw [← opens]
      exact quiet ok
  | record kept headed shown =>
      obtain ⟨fields, reading, heads, read, rfl⟩ := heading_heads holds headed
      rw [shown] at written
      rw [memory] at read
      rw [opens] at kept
      dsimp only [Journal.keepAsking]
      rw [records]
      exact .record written kept heads read

/-- What an event makes of the export is what a call that tells of it does, and nothing else is. -/
def NamedCall.next (call : NamedCall) (current : Option Standing) : Option Standing :=
  match call.event? with
  | none => current
  | some event => event.next current

private theorem standing_calls_concat (calls : List NamedCall) (call : NamedCall) :
    standing ((calls ++ [call]).filterMap NamedCall.event?) =
      call.next (standing (calls.filterMap NamedCall.event?)) := by
  unfold NamedCall.next
  rw [List.filterMap_append]
  cases told : call.event? with
  | none => rw [List.filterMap_cons_none told, List.filterMap_nil, List.append_nil]
  | some event =>
      rw [List.filterMap_cons_some told, List.filterMap_nil]
      exact standing_concat _ event

/-- A call of an event takes the export that a journal holds to the next one, and writes behind
it then. -/
theorem tell_emits {event : Event} (told : call.event? = some event)
    (unremarked : messageLevel? call.name = none) (counted : event.IsCounted)
    (holds : journal.progress = current.map Standing.progress) :
    Emits (event.next current) journal call
      ((journal.tell event).1.mapError .cell, (journal.tell event).2.records) := by
  have written : call.written? = event.level?.map fun level => (level, event.text) := by
    rw [NamedCall.written?, unremarked, told]
    rfl
  rw [Journal.tell, entry_run counted holds]
  cases noted : event.level? with
  | none =>
      rw [writing_of_unnoted noted]
      refine .nothing fun _ level message writes => ?_
      rw [written, noted] at writes
      cases writes
  | some level =>
      rw [noted] at written
      let changed : Journal :=
        { journal with progress := (event.next current).map Standing.progress }
      have setup : changed.setup = journal.setup := rfl
      have records : changed.records = journal.records := rfl
      exact emits_of_wrote rfl setup records written ((wrote_writing changed noted).mapError .cell)

structure IsCarriedOut (current : Option Standing) (journal : Journal) (call : NamedCall)
    (ran : Except CallFault Unit × Journal) : Prop where
  progress : ran.2.progress = (call.next current).map Standing.progress
  emits : Emits (call.next current) journal call (ran.1, ran.2.records)

private theorem next_of_untold (untold : call.event? = none) : call.next current = current := by
  rw [NamedCall.next, untold]

/-- A call that fails without telling of an event leaves a journal as it is. -/
theorem carriedOut_of_failure (untold : call.event? = none)
    (holds : journal.progress = current.map Standing.progress) (fault : CallFault) :
    IsCarriedOut current journal call (.error fault, journal) := by
  refine ⟨?_, .nothing fun succeeded => by cases succeeded⟩
  rw [next_of_untold untold]
  exact holds

private theorem callMessage_carriedOut {level : Level}
    (remarks : messageLevel? call.name = some level)
    (holds : journal.progress = current.map Standing.progress) :
    IsCarriedOut current journal call (journal.call call.name call.arguments) := by
  have untold : call.event? = none := by rw [NamedCall.event?, remarks]
  have failed := carriedOut_of_failure untold holds
  unfold Journal.call Journal.callMessage
  rw [remarks]
  dsimp only
  cases fit : (messageSignature call.name).values call.arguments with
  | error misuse => exact failed (.misuse misuse)
  | ok values =>
      dsimp only
      cases remarked : journal.remark level (values.headD .null)
          ((messageSignature call.name).others call.arguments) with
      | error fault => exact failed fault
      | ok told =>
          have wrote := wrote_of_remark remarked
          have written : call.written? = some (level, (values.headD .null).shown) := by
            rw [NamedCall.written?, remarks, fit]
            rfl
          refine ⟨?_, ?_⟩
          · rw [next_of_untold untold]
            exact wrote.progress.trans holds
          · rw [next_of_untold untold]
            exact emits_of_wrote holds rfl rfl written wrote

private theorem callEvent_carriedOut {signature : Signature}
    (unremarked : messageLevel? call.name = none)
    (signed : callSignature? call.name = some signature)
    (counted : ∀ event, call.event? = some event → event.IsCounted)
    (holds : journal.progress = current.map Standing.progress) :
    IsCarriedOut current journal call (journal.callEvent signature call.arguments) := by
  have event? : call.event? =
      (signature.values call.arguments).toOption.bind (callEvent? signature.name) := by
    rw [NamedCall.event?, unremarked, signed]
  unfold Journal.callEvent
  cases fit : signature.values call.arguments with
  | error misuse =>
      rw [fit] at event?
      exact carriedOut_of_failure event? holds (.misuse misuse)
  | ok values =>
      rw [fit] at event?
      dsimp only
      cases named : callEvent? signature.name values with
      | none =>
          have untold : call.event? = none := event?.trans named
          refine ⟨?_, .nothing fun _ level message writes => ?_⟩
          · rw [next_of_untold untold]
            exact holds
          · rw [NamedCall.written?, unremarked, untold] at writes
            cases writes
      | some event =>
          have told : call.event? = some event := event?.trans named
          have next : call.next current = event.next current := by rw [NamedCall.next, told]
          refine ⟨?_, ?_⟩
          · rw [next]
            exact tell_progress (counted event told) holds
          · rw [next]
            exact tell_emits told unremarked (counted event told) holds

theorem call_carriedOut (counted : ∀ event, call.event? = some event → event.IsCounted)
    (holds : journal.progress = current.map Standing.progress) :
    IsCarriedOut current journal call (journal.call call.name call.arguments) := by
  cases remarks : messageLevel? call.name with
  | some level => exact callMessage_carriedOut remarks holds
  | none =>
      unfold Journal.call
      rw [remarks]
      cases signed : callSignature? call.name with
      | none =>
          have untold : call.event? = none := by rw [NamedCall.event?, remarks, signed]
          exact carriedOut_of_failure untold holds _
      | some signature => exact callEvent_carriedOut remarks signed counted holds

end Calling

/-! ### Runs of calls -/

/-- Calls that report rows, if they do, as a count. -/
def AreCounted (calls : List NamedCall) : Prop :=
  ∀ event ∈ calls.filterMap NamedCall.event?, event.IsCounted

private theorem areCounted_append {first second : List NamedCall} :
    AreCounted (first ++ second) ↔ AreCounted first ∧ AreCounted second := by
  unfold AreCounted
  rw [List.filterMap_append]
  exact List.forall_mem_append

theorem AreCounted.event {call : NamedCall} (counted : AreCounted [call]) {event : Event}
    (told : call.event? = some event) : event.IsCounted :=
  counted event (List.mem_filterMap.mpr ⟨call, List.mem_singleton_self call, told⟩)

private theorem Journal.calls_concat (journal : Journal) (calls : List NamedCall)
    (call : NamedCall) :
    journal.calls (calls ++ [call]) =
      ((journal.calls calls).call call.name call.arguments).2 := by
  rw [Journal.calls, List.foldl_append]
  rfl

private theorem calls_progress {journal : Journal} (idle : journal.progress = none)
    {calls : List NamedCall}
    (counted : AreCounted calls) :
    (journal.calls calls).progress =
      (standing (calls.filterMap NamedCall.event?)).map Standing.progress := by
  -- the last call is taken off, because it is the last setting that counts
  induction calls using List.reverseRecOn with
  | nil => exact idle
  | append_singleton calls call inductionHypothesis =>
      obtain ⟨before, last⟩ := areCounted_append.mp counted
      rw [Journal.calls_concat, standing_calls_concat]
      exact (call_carriedOut (fun _ => last.event) (inductionHypothesis before)).progress

/-- Whatever is called, a journal holds the export that stands after the events that were told of,
and each call emits its record behind the export that stands after it. -/
theorem calls_emit {journal : Journal} (idle : journal.progress = none) {calls : List NamedCall}
    (counted : AreCounted calls) :
    (journal.calls calls).progress =
        (standing (calls.filterMap NamedCall.event?)).map Standing.progress ∧
      ∀ before call, before ++ [call] <+: calls →
        Emits (standing ((before ++ [call]).filterMap NamedCall.event?)) (journal.calls before) call
          (((journal.calls before).call call.name call.arguments).1,
            (journal.calls (before ++ [call])).records) := by
  refine ⟨calls_progress idle counted, ?_⟩
  rintro before call ⟨after, rfl⟩
  obtain ⟨earlier, last⟩ := areCounted_append.mp (areCounted_append.mp counted).1
  rw [standing_calls_concat, Journal.calls_concat]
  exact (call_carriedOut (fun _ => last.event) (calls_progress idle earlier)).emits

def mixedCalls : List NamedCall :=
  [⟨"export_started", ⟨[.text "visits", .integer 9, .integer 2], []⟩⟩,
    ⟨"query_completed", ⟨[.integer 0, .integer 70, .integer 1], []⟩⟩,
    ⟨"set_export_context", ⟨[.text "orders"], [("total_queries", .integer 2)]⟩⟩,
    ⟨"query_failed", ⟨[.integer 1], []⟩⟩,
    ⟨"query_completed", ⟨[.integer 0, .integer 5, .integer 1], []⟩⟩,
    ⟨"info", ⟨[.text "password=x"], []⟩⟩]

def untold : Journal := ⟨Level.info.weight, none, none, []⟩

theorem calls_emit_mixed :
    untold.progress = none ∧ AreCounted mixedCalls ∧
      (untold.calls mixedCalls).progress =
        some ⟨.text "orders", .integer 2, 1, 0, .integer 5⟩ ∧
      Emits (some ⟨.text "orders", .integer 2, 1, 0, 5⟩) (untold.calls (mixedCalls.take 5))
        ⟨"info", ⟨[.text "password=x"], []⟩⟩
        (((untold.calls (mixedCalls.take 5)).call "info" ⟨[.text "password=x"], []⟩).1,
          (untold.calls mixedCalls).records) := by
  have counted : AreCounted mixedCalls := by
    have events : mixedCalls.filterMap NamedCall.event? =
        [.exportStarted (.text "visits") (.integer 9) (.integer 2),
          .queryCompleted (.integer 0) (.integer 70) (.integer 1),
          .progressSet (.text "orders") (.integer 2),
          .queryCompleted (.integer 0) (.integer 5) (.integer 1)] := rfl
    intro event told
    rw [events] at told
    simp only [List.mem_cons, List.not_mem_nil, or_false] at told
    rcases told with rfl | rfl | rfl | rfl
    · exact trivial
    · exact ⟨70, rfl⟩
    · exact trivial
    · exact ⟨5, rfl⟩
  have stands : standing (mixedCalls.filterMap NamedCall.event?) =
      some ⟨.text "orders", .integer 2, 1, 0, 5⟩ := rfl
  obtain ⟨progress, emits⟩ := calls_emit (Eq.refl untold.progress) counted
  refine ⟨rfl, counted, ?_, ?_⟩
  · rw [progress, stands]
    rfl
  · rw [← stands]
    exact emits (mixedCalls.take 5) ⟨"info", ⟨[.text "password=x"], []⟩⟩ ⟨[], rfl⟩

end TableExport.Log
