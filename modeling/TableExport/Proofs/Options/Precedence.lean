import TableExport.Proofs.Options.Agreement

/-!
A flag against its variable. Where a command line mentions a flag, the variable
of the flag no longer counts: two environments that differ in it alone are read
alike. A variable for a count has to be an integer all the same, because counts
are read from the environment before the command line is looked at; so the two
environments are told apart when the text that is no integer is in one of them
only, unless a count that is read earlier already fails.
-/

set_option autoImplicit false

namespace TableExport.Options

open TableExport.Text
open TableExport.Sequence

/-! ### Variables -/

/-- The variable that stands in for a flag. The one for the password is not read with the other
options, but only where a password is needed. -/
def Flag.standIn? : Flag → Option String
  | .help => none
  | .text flag => some (variableName (flag.suffix?.getD "PASSWORD"))
  | .count flag => some (variableName flag.suffix)
  | .switch flag => some (variableName flag.suffix)

def flagOfVariable? (name : String) : Option Flag :=
  (spellings.map Prod.snd).find? fun flag => flag.standIn? == some name

private theorem flagOfVariable?_of_named {flag : Flag} {name : String}
    (named : flag.standIn? = some name) : flagOfVariable? name = some flag := by
  cases flag with
  | help => cases named
  | text flag =>
      cases named
      cases flag <;> decide
  | count flag =>
      cases named
      cases flag <;> decide
  | switch flag =>
      cases named
      cases flag <;> decide

theorem variable_ne {flag other : Flag} {name nameToo : String}
    (named : flag.standIn? = some name) (namedToo : other.standIn? = some nameToo)
    (different : other ≠ flag) : nameToo ≠ name := by
  rintro rfl
  have found := flagOfVariable?_of_named named
  rw [flagOfVariable?_of_named namedToo] at found
  exact different (Option.some.inj found)

def DifferAt (name : String) (first second : Environment) : Prop :=
  ∀ other, other ≠ name → first.get? other = second.get? other

namespace DifferAt

variable {name : String} {first second : Environment} {flag : Flag}

private theorem value?_eq (differ : DifferAt name first second) {suffix : String}
    (different : variableName suffix ≠ name) : first.value? suffix = second.value? suffix := by
  rw [Environment.value?, Environment.value?, differ _ different]

private theorem text_eq (differ : DifferAt name first second) (named : flag.standIn? = some name)
    {other : TextFlag} (different : .text other ≠ flag) : first.text other = second.text other := by
  have apart := variable_ne named (Eq.refl (Flag.text other).standIn?) different
  unfold Environment.text
  cases suffix : other.suffix? with
  | none => rfl
  | some suffix =>
      rw [suffix, Option.getD_some] at apart
      rw [Option.bind_some, Option.bind_some, differ.value?_eq apart]

private theorem switch_eq (differ : DifferAt name first second) (named : flag.standIn? = some name)
    {other : SwitchFlag} (different : .switch other ≠ flag) :
    first.switch other = second.switch other := by
  have apart := variable_ne named (Eq.refl (Flag.switch other).standIn?) different
  rw [Environment.switch, Environment.switch, differ.value?_eq apart]

private theorem count_value?_eq (differ : DifferAt name first second)
    (named : flag.standIn? = some name)
    {other : CountFlag} (different : .count other ≠ flag) :
    first.value? other.suffix = second.value? other.suffix :=
  differ.value?_eq (variable_ne named (Eq.refl (Flag.count other).standIn?) different)

end DifferAt

/-! ### Counts that cannot be read -/

def Environment.misread? (environment : Environment) (flag : CountFlag) : Option String :=
  (environment.value? flag.suffix).filter fun text => (Numeral.readInt? text).isNone

def countFlags : List CountFlag :=
  [.fetchSize, .limit, .queryParallelism, .maxWorkers]

def Environment.firstMisread? (environment : Environment) : Option (CountFlag × String) :=
  countFlags.findSome? fun flag => (environment.misread? flag).map (flag, ·)

def misreadFailure (misread : CountFlag × String) : Failure :=
  .configuration (.environmentInteger (variableName misread.1.suffix) misread.2)

theorem Environment.count_cases (environment : Environment) (flag : CountFlag) :
    (∃ text, environment.misread? flag = some text ∧
      environment.count flag = .error (misreadFailure (flag, text))) ∨
    (environment.misread? flag = none ∧ ∃ given, environment.count flag = .ok given) := by
  unfold Environment.misread? Environment.count
  cases found : environment.value? flag.suffix with
  | none => exact .inr ⟨rfl, none, rfl⟩
  | some text =>
      dsimp only
      cases integer : Numeral.readInt? text with
      | none => exact .inl ⟨text, by simp [integer], rfl⟩
      | some count => exact .inr ⟨by simp [integer], some (.value count), rfl⟩

structure FollowsEnvironment (environment : Environment) (options : Options) : Prop where
  text : ∀ flag, getText options flag = environment.text flag
  count : ∀ flag, ∃ given, environment.count flag = .ok given ∧
    getCount options flag = given.or (getCount defaults flag)
  switch : ∀ flag, isOn options flag = environment.switch flag

private theorem ofEnvironment_of_counts {environment : Environment}
    {fetchSize limit parallelism maxWorkers : Option (Given Int)}
    (fetchSizeRead : environment.count .fetchSize = .ok fetchSize)
    (limitRead : environment.count .limit = .ok limit)
    (parallelismRead : environment.count .queryParallelism = .ok parallelism)
    (maxWorkersRead : environment.count .maxWorkers = .ok maxWorkers) :
    ∃ options, ofEnvironment environment = .ok options ∧
      FollowsEnvironment environment options := by
  simp only [ofEnvironment, fetchSizeRead, limitRead, parallelismRead, maxWorkersRead, ok_bind]
  refine ⟨_, rfl, ?_, ?_, ?_⟩
  · intro flag
    cases flag <;> rfl
  · intro flag
    cases flag with
    | limit => exact ⟨limit, limitRead, by cases limit <;> rfl⟩
    | queryParallelism => exact ⟨parallelism, parallelismRead, by cases parallelism <;> rfl⟩
    | fetchSize => exact ⟨fetchSize, fetchSizeRead, by cases fetchSize <;> rfl⟩
    | maxWorkers => exact ⟨maxWorkers, maxWorkersRead, by cases maxWorkers <;> rfl⟩
  · intro flag
    cases flag <;> rfl

/-- An environment fails with the first count that cannot be read, and is followed otherwise. -/
theorem ofEnvironment_cases (environment : Environment) :
    (∃ misread, environment.firstMisread? = some misread ∧
      ofEnvironment environment = .error (misreadFailure misread)) ∨
    (environment.firstMisread? = none ∧
      ∃ options, ofEnvironment environment = .ok options ∧
        FollowsEnvironment environment options) := by
  unfold Environment.firstMisread? countFlags
  -- one count after the other, in the order in which they are read
  obtain ⟨text, misread, failed⟩ | ⟨fetchSize, _, fetchSizeRead⟩ :=
    environment.count_cases .fetchSize
  · refine .inl ⟨(.fetchSize, text), by simp [misread], ?_⟩
    rw [ofEnvironment, failed]
    rfl
  obtain ⟨text, misread, failed⟩ | ⟨limit, _, limitRead⟩ := environment.count_cases .limit
  · refine .inl ⟨(.limit, text), by simp [fetchSize, misread], ?_⟩
    rw [ofEnvironment, fetchSizeRead, failed]
    rfl
  obtain ⟨text, misread, failed⟩ | ⟨parallelism, _, parallelismRead⟩ :=
    environment.count_cases .queryParallelism
  · refine .inl ⟨(.queryParallelism, text), by simp [fetchSize, limit, misread], ?_⟩
    rw [ofEnvironment, fetchSizeRead, limitRead, failed]
    rfl
  obtain ⟨text, misread, failed⟩ | ⟨maxWorkers, _, maxWorkersRead⟩ :=
    environment.count_cases .maxWorkers
  · refine .inl ⟨(.maxWorkers, text), by simp [fetchSize, limit, parallelism, misread], ?_⟩
    rw [ofEnvironment, fetchSizeRead, limitRead, parallelismRead, failed]
    rfl
  · exact .inr ⟨by simp [fetchSize, limit, parallelism, maxWorkers],
      ofEnvironment_of_counts fetchSizeRead limitRead parallelismRead maxWorkersRead⟩

private theorem misreadFailure_injective {one other : CountFlag × String}
    (same : misreadFailure one = misreadFailure other) : one = other := by
  simp only [misreadFailure, Failure.configuration.injEq,
    ConfigurationCause.environmentInteger.injEq] at same
  obtain ⟨sameNames, texts⟩ := same
  have flags : Flag.count one.1 = .count other.1 :=
    Decidable.byContradiction fun different =>
      variable_ne (Eq.refl (Flag.count other.1).standIn?)
        (Eq.refl (Flag.count one.1).standIn?) different sameNames
  exact Prod.ext (Flag.count.inj flags) texts

/-! ### Two environments -/

section Reading

variable {name : String} {first second : Environment} {flag : Flag}

private theorem FollowsEnvironment.agreeBut {options optionsToo : Options}
    (differ : DifferAt name first second) (named : flag.standIn? = some name)
    (follows : FollowsEnvironment first options)
    (followsToo : FollowsEnvironment second optionsToo) : AgreeBut flag options optionsToo := by
  intro other different
  cases other with
  | help => rfl
  | text other =>
      rw [held, held, follows.text, followsToo.text, differ.text_eq named different]
  | count other =>
      obtain ⟨given, read, counted⟩ := follows.count other
      obtain ⟨givenToo, readToo, countedToo⟩ := followsToo.count other
      have same : first.count other = second.count other := by
        rw [Environment.count, Environment.count, differ.count_value?_eq named different]
      rw [read, readToo] at same
      cases same
      rw [held, held, counted, countedToo]
  | switch other =>
      rw [held, held, follows.switch, followsToo.switch, differ.switch_eq named different]

/-- A command line that mentions the flag of the variable is read alike over both environments
exactly when the same count, if any, cannot be read first. -/
theorem read_eq_iff_firstMisread {arguments : List String} (differ : DifferAt name first second)
    (named : flag.standIn? = some name) (mentions : Mentions flag arguments) :
    read first arguments = read second arguments ↔
      first.firstMisread? = second.firstMisread? := by
  unfold read
  rcases ofEnvironment_cases first with ⟨misread, fails, failed⟩ | ⟨sound, options, given, follows⟩
  · rcases ofEnvironment_cases second with
      ⟨misreadToo, failsToo, failedToo⟩ | ⟨soundToo, optionsToo, givenToo, _⟩
    · rw [fails, failed, failsToo, failedToo]
      constructor
      · intro same
        rw [misreadFailure_injective (Reading.failure.inj same)]
      · intro same
        rw [Option.some.inj same]
    · rw [fails, failed, soundToo, givenToo]
      dsimp only
      cases readOver optionsToo arguments <;> simp
  · rcases ofEnvironment_cases second with
      ⟨misreadToo, failsToo, failedToo⟩ | ⟨soundToo, optionsToo, givenToo, followsToo⟩
    · rw [sound, given, failsToo, failedToo]
      dsimp only
      cases readOver options arguments <;> simp
    · have agree := FollowsEnvironment.agreeBut differ named follows followsToo
      rw [sound, given, soundToo, givenToo]
      dsimp only
      rw [agree.readOver_eq mentions]
      exact iff_of_true rfl rfl

private theorem DifferAt.misread?_eq (differ : DifferAt name first second)
    (named : flag.standIn? = some name) {other : CountFlag} (different : .count other ≠ flag) :
    first.misread? other = second.misread? other := by
  rw [Environment.misread?, Environment.misread?, differ.count_value?_eq named different]

private theorem findSome?_congr {Item Value : Type} {one other : Item → Option Value}
    {items : List Item}
    (same : ∀ item ∈ items, one item = other item) :
    items.findSome? one = items.findSome? other := by
  induction items with
  | nil => rfl
  | cons item rest inductionHypothesis =>
      obtain ⟨here, later⟩ := List.forall_mem_cons.mp same
      rw [List.findSome?_cons, List.findSome?_cons, here, inductionHypothesis later]

/-- Searches for the first of several tagged values that differ at one tag come to the same exactly
when the values of that tag are the same, or something is found before it. -/
theorem findSome?_tagged_eq_iff {Tag Value : Type} [DecidableEq Tag]
    {one other : Tag → Option Value} {tag : Tag} {tags : List Tag} (distinct : tags.Nodup)
    (member : tag ∈ tags)
    (same : ∀ tagToo, tagToo ≠ tag → one tagToo = other tagToo) :
    (tags.findSome? fun tag => (one tag).map (tag, ·)) =
        (tags.findSome? fun tag => (other tag).map (tag, ·)) ↔
      one tag = other tag ∨ ∃ earlier ∈ tags.takeWhile (· ≠ tag), (one earlier).isSome := by
  induction tags with
  | nil => cases member
  | cons head rest inductionHypothesis =>
      obtain ⟨absent, distinctRest⟩ := List.nodup_cons.mp distinct
      by_cases here : head = tag
      · subst here
        -- behind the tag the searches go on alike, and what they find there has another tag
        have later : (rest.findSome? fun tag => (one tag).map (tag, ·)) =
            rest.findSome? fun tag => (other tag).map (tag, ·) := by
          apply findSome?_congr
          intro tagToo inside
          rw [same tagToo fun equal => absent (equal ▸ inside)]
        have tagged (value : Value) :
            (rest.findSome? fun tag => (other tag).map (tag, ·)) ≠ some (head, value) := by
          intro found
          obtain ⟨tagToo, inside, mapped⟩ := List.exists_of_findSome?_eq_some found
          obtain ⟨_, _, same⟩ := Option.map_eq_some_iff.mp mapped
          cases same
          exact absent inside
        rw [List.findSome?_cons, List.findSome?_cons, later, List.takeWhile_cons_of_neg (by simp)]
        cases first : one head with
        | none =>
          cases second : other head with
          | none => simp
          | some value => simp [tagged]
        | some value =>
          cases second : other head with
          | none => simp [(tagged _).symm]
          | some valueToo => simp
      · rw [List.findSome?_cons, List.findSome?_cons, ← same head here,
          List.takeWhile_cons_of_pos (by simpa using here)]
        cases found : one head with
        | some value => simp [found]
        | none =>
          have inside := (List.mem_cons.mp member).resolve_left (Ne.symm here)
          simpa [found] using inductionHypothesis distinctRest inside

private theorem firstMisread?_eq_iff (differ : DifferAt name first second)
    (named : flag.standIn? = some name) :
    first.firstMisread? = second.firstMisread? ↔
      ∀ count, flag = .count count →
        first.misread? count = second.misread? count ∨
          ∃ earlier ∈ countFlags.takeWhile (· ≠ count), (first.misread? earlier).isSome := by
  have others (count : CountFlag) (different : .count count ≠ flag) :
      first.misread? count = second.misread? count := differ.misread?_eq named different
  cases flag with
  | count count =>
      have distinct : countFlags.Nodup := by decide
      have member : count ∈ countFlags := by cases count <;> decide
      rw [Environment.firstMisread?, Environment.firstMisread?,
        findSome?_tagged_eq_iff distinct member fun other different =>
          others other fun same => different (Flag.count.inj same)]
      simp
  | help | text | switch =>
      have same : first.firstMisread? = second.firstMisread? := by
        apply findSome?_congr
        intro count _
        rw [others count nofun]
      simp [same]

end Reading

/-! ### The flag and its variable -/

/-- Where a command line mentions a flag, environments that differ in the variable of the flag alone
are read alike, to the same options or the same error. Only a variable for a count can still be told
apart: by a text that is no integer, unless an earlier count fails already. -/
theorem read_eq_iff_of_mentions {name : String} {first second : Environment} {flag : Flag}
    {arguments : List String} (named : flag.standIn? = some name)
    (differ : DifferAt name first second) (mentions : Mentions flag arguments) :
    read first arguments = read second arguments ↔
      ∀ count, flag = .count count →
        first.misread? count = second.misread? count ∨
          ∃ earlier ∈ countFlags.takeWhile (· ≠ count), (first.misread? earlier).isSome := by
  rw [read_eq_iff_firstMisread differ named mentions, firstMisread?_eq_iff differ named]

theorem read_eq_iff_of_mentions_limit :
    Flag.standIn? (.count .limit) = some "DBEXPORT_LIMIT" ∧
      DifferAt "DBEXPORT_LIMIT" [("DBEXPORT_LIMIT", "7"), ("DBEXPORT_TABLE", "t")]
        [("DBEXPORT_TABLE", "t")] ∧
      Mentions (.count .limit) ["--lim", "5"] ∧
      read [("DBEXPORT_LIMIT", "7"), ("DBEXPORT_TABLE", "t")] ["--lim", "5"] =
        read [("DBEXPORT_TABLE", "t")] ["--lim", "5"] := by
  have differ : DifferAt "DBEXPORT_LIMIT" [("DBEXPORT_LIMIT", "7"), ("DBEXPORT_TABLE", "t")]
      [("DBEXPORT_TABLE", "t")] := by
    intro other different
    rw [Environment.get?, Environment.get?, List.find?_cons_of_neg]
    exact fun same => different (beq_iff_eq.mp same).symm
  have mentions : Mentions (.count .limit) ["--lim", "5"] :=
    ⟨"--lim", by decide, false, none, rfl⟩
  refine ⟨rfl, differ, mentions, (read_eq_iff_of_mentions rfl differ mentions).mpr ?_⟩
  intro count same
  cases same
  left
  rfl

/-- A limit on the command line does not help against a variable that is no integer. -/
theorem limit_outdone_by_variable :
    read [("DBEXPORT_LIMIT", "abc")] ["--limit=5"] =
        .failure (.configuration (.environmentInteger "DBEXPORT_LIMIT" "abc")) ∧
      read [] ["--limit=5"] = .options { defaults with limit := some (.value 5) } :=
  ⟨rfl, rfl⟩

end TableExport.Options
