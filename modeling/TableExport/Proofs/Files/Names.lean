import Mathlib.Data.List.TakeDrop
import Mathlib.Data.List.TakeWhile
import TableExport.Files.Destination
import TableExport.Proofs.Sequence

/-!
The name at the end of a path. A file that is named inside a folder keeps its
name through every reading of the path: as text, with its tilde resolved, and in
the steps of the place where it is opened. So two names in one folder are two
places, unless the folder is spelled as an address.
-/

set_option autoImplicit false

namespace TableExport.Files

structure IsPlainName (name : String) : Prop where
  noSlash : '/' ∉ name.toList
  noColon : ':' ∉ name.toList
  noTilde : ∃ first rest, name.toList = first :: rest ∧ first ≠ '~'

/-- What may stand in front of a name in a path: nothing, or folders with a slash at the end. -/
def EndsInSlash (front : List Char) : Prop :=
  front = [] ∨ front.getLast? = some '/'

theorem EndsInSlash.append {front : List Char} (ends : EndsInSlash front)
    (before : List Char) (filled : front ≠ []) : EndsInSlash (before ++ front) := by
  rcases ends with rfl | last
  · exact absurd rfl filled
  · refine .inr ?_
    rw [List.getLast?_append, last]
    rfl

/-! ### Texts -/

private theorem intercalate_front (steps : List String) :
    ∃ front, EndsInSlash front ∧ ∀ name : String,
      (String.intercalate "/" (steps ++ [name])).toList = front ++ name.toList := by
  induction steps with
  | nil => exact ⟨[], .inl rfl, fun name => rfl⟩
  | cons step rest inductionHypothesis =>
      obtain ⟨front, ends, shown⟩ := inductionHypothesis
      refine ⟨step.toList ++ '/' :: front, ?_, ?_⟩
      · refine .inr ?_
        rcases ends with rfl | last
        · rw [List.getLast?_append]
          rfl
        · rw [List.getLast?_append, List.getLast?_cons, last]
          rfl
      · intro name
        have filled : rest ++ [name] ≠ [] := List.append_ne_nil_of_right_ne_nil rest (by simp)
        rw [List.cons_append, String.intercalate_cons_of_ne_nil filled, String.toList_append,
          String.toList_append, shown]
        simp

/-- A file inside a folder is named behind a text that the folder alone decides. -/
theorem childText_front (folder : List String) :
    ∃ front, EndsInSlash front ∧ ∀ name : String, '/' ∉ name.toList →
      (childText folder name).toList = front ++ name.toList := by
  cases folder with
  | nil =>
      refine ⟨[], .inl rfl, fun name noSlash => ?_⟩
      have notRoot : name ≠ rootStep := by
        rintro rfl
        exact noSlash (by decide)
      rw [childText, List.nil_append, pathText, if_neg notRoot]
      rfl
  | cons first rest =>
      by_cases root : first = rootStep
      · obtain ⟨front, ends, shown⟩ := intercalate_front rest
        refine ⟨'/' :: front, ?_, fun name _ => ?_⟩
        · refine .inr ?_
          rcases ends with rfl | last
          · rfl
          · rw [List.getLast?_cons, last]
            rfl
        · rw [childText, List.cons_append, pathText, if_pos root, String.toList_append, shown]
          rfl
      · obtain ⟨front, ends, shown⟩ := intercalate_front (first :: rest)
        refine ⟨front, ends, fun name _ => ?_⟩
        rw [childText, List.cons_append, pathText, if_neg root, ← List.cons_append, shown]

theorem childText_injective {folder : List String} {first second : String}
    (firstPlain : IsPlainName first) (secondPlain : IsPlainName second)
    (same : childText folder first = childText folder second) : first = second := by
  obtain ⟨front, _, shown⟩ := childText_front folder
  have texts := congrArg String.toList same
  rw [shown first firstPlain.noSlash, shown second secondPlain.noSlash] at texts
  exact String.toList_injective (List.append_cancel_left texts)

/-! ### Marks -/

section Marks

variable {mark : Char} {front : List Char}

private theorem dropWhile_ne_nil (present : mark ∈ front) : front.dropWhile (· != mark) ≠ [] := by
  intro dropped
  have every := List.dropWhile_eq_nil_iff.mp dropped mark present
  rw [bne_self_eq_false] at every
  cases every

theorem span_of_mem (present : mark ∈ front) (name : List Char) :
    (front ++ name).span (· != mark) =
      (front.takeWhile (· != mark), front.dropWhile (· != mark) ++ name) := by
  have kept := dropWhile_ne_nil present
  have shorter : (front.takeWhile (· != mark)).length ≠ front.length := by
    intro same
    have whole := congrArg List.length
      (List.takeWhile_append_dropWhile (p := (· != mark)) (l := front))
    rw [List.length_append] at whole
    exact kept (List.eq_nil_of_length_eq_zero (by omega))
  rw [List.span_eq_takeWhile_dropWhile, List.takeWhile_append, if_neg shorter,
    List.dropWhile_append, if_neg (by rw [List.isEmpty_iff]; exact kept)]

private theorem span_of_not_mem (absent : mark ∉ front) : front.span (· != mark) = (front, []) := by
  have every : ∀ character ∈ front, (character != mark) = true := by
    intro character member
    refine bne_iff_ne.mpr ?_
    rintro rfl
    exact absent member
  rw [List.span_eq_takeWhile_dropWhile, List.takeWhile_eq_self_iff.mpr every,
    List.dropWhile_eq_nil_iff.mpr every]

end Marks

/-! ### Tildes -/

private theorem expandHome_of_tilde (home : Option String) {path : String} {rest : List Char}
    (text : path.toList = '~' :: rest) :
    expandHome home path =
      match homeOf? home (String.ofList (rest.span (· != '/')).1) with
      | none => path
      | some there =>
          if (withoutEndSlashes there ++ (rest.span (· != '/')).2).isEmpty then "/"
          else String.ofList (withoutEndSlashes there ++ (rest.span (· != '/')).2) := by
  unfold expandHome
  split
  · rename_i other found
    rw [text] at found
    cases found
    rfl
  · rename_i other
    exact absurd text (other rest)

private theorem expandHome_of_no_tilde (home : Option String) {path : String}
    (plain : ∀ rest, path.toList ≠ '~' :: rest) : expandHome home path = path := by
  unfold expandHome
  split
  · rename_i rest found
    exact absurd found (plain rest)
  · rfl

private theorem endsInSlash_dropWhile {folders : List Char} (last : folders.getLast? = some '/') :
    EndsInSlash (folders.dropWhile (· != '/')) := by
  have kept := dropWhile_ne_nil (List.mem_of_getLast? last)
  have whole := List.takeWhile_append_dropWhile (p := (· != '/')) (l := folders)
  refine .inr ?_
  rw [← whole, List.getLast?_append, List.getLast?_eq_some_getLast kept, Option.some_or] at last
  rw [List.getLast?_eq_some_getLast kept]
  exact last

/-- A tilde is resolved up to the first slash, so a name behind the last one stays. -/
theorem expandHome_front_of_tilde (home : Option String) {folders : List Char}
    (last : folders.getLast? = some '/') :
    ∃ front, EndsInSlash front ∧ ∀ (path : String) (name : List Char),
      path.toList = '~' :: (folders ++ name) →
        (expandHome home path).toList = front ++ name := by
  have slash : '/' ∈ folders := List.mem_of_getLast? last
  have below := dropWhile_ne_nil slash
  cases found : homeOf? home (String.ofList (folders.takeWhile (· != '/'))) with
  | none =>
      refine ⟨'~' :: folders, .inr ?_, fun path name text => ?_⟩
      · rw [List.getLast?_cons, last]
        rfl
      · rw [expandHome_of_tilde home text, span_of_mem slash]
        dsimp only
        rw [found]
        exact text
  | some there =>
      refine ⟨withoutEndSlashes there ++ folders.dropWhile (· != '/'),
        (endsInSlash_dropWhile last).append _ below, fun path name text => ?_⟩
      rw [expandHome_of_tilde home text, span_of_mem slash]
      dsimp only
      rw [found]
      dsimp only
      rw [if_neg, String.toList_ofList, List.append_assoc]
      intro empty
      have nothing := List.isEmpty_iff.mp empty
      exact below (List.append_eq_nil_iff.mp (List.append_eq_nil_iff.mp nothing).2).1

theorem expandHome_front (home : Option String) (folder : List String) :
    ∃ front, EndsInSlash front ∧ ∀ name, IsPlainName name →
      (expandHome home (childText folder name)).toList = front ++ name.toList := by
  obtain ⟨front, ends, shown⟩ := childText_front folder
  by_cases tilde : ∃ folders, front = '~' :: folders
  · obtain ⟨folders, rfl⟩ := tilde
    have last : folders.getLast? = some '/' := by
      rcases ends with nothing | last
      · cases nothing
      · cases folders with
        | nil => cases last
        | cons first more =>
            rw [List.getLast?_cons_cons] at last
            exact last
    obtain ⟨resolved, resolvedEnds, expanded⟩ := expandHome_front_of_tilde home last
    exact ⟨resolved, resolvedEnds, fun name plain => expanded _ _ (shown name plain.noSlash)⟩
  · refine ⟨front, ends, fun name plain => ?_⟩
    have text := shown name plain.noSlash
    rw [expandHome_of_no_tilde home, text]
    intro rest found
    rw [text] at found
    cases front with
    | nil =>
        obtain ⟨first, more, letters, different⟩ := plain.noTilde
        rw [List.nil_append, letters] at found
        exact different (List.cons.inj found).1
    | cons first more =>
        rw [List.cons_append] at found
        rw [(List.cons.inj found).1] at tilde
        exact tilde ⟨more, rfl⟩

/-! ### Addresses -/

private theorem looksAddressed_append {front : List Char} {text name : String}
    (plain : IsPlainName name) (shown : text.toList = front ++ name.toList) :
    looksAddressed text =
      (front.contains ':' && isSchemeLength (front.takeWhile (· != ':')).length &&
        Uri.isScheme (front.takeWhile (· != ':'))) := by
  unfold looksAddressed Uri.splitBefore
  rw [shown]
  by_cases colon : ':' ∈ front
  · have kept := dropWhile_ne_nil colon
    have rest : (front.dropWhile (· != ':') ++ name.toList).isEmpty = false := by
      rw [List.isEmpty_eq_false_iff]
      exact List.append_ne_nil_of_left_ne_nil kept _
    rw [span_of_mem colon, List.contains_iff_mem.mpr colon]
    dsimp only
    rw [rest]
    rfl
  · have absent : ':' ∉ front ++ name.toList := by
      rw [List.mem_append]
      exact not_or.mpr ⟨colon, plain.noColon⟩
    have uncoloned : front.contains ':' = false := by
      rw [List.contains_eq_mem, decide_eq_false colon]
    rw [span_of_not_mem absent, uncoloned]
    rfl

/-! ### Steps -/

private theorem splitSlashes_of_noSlash {name : List Char} (noSlash : '/' ∉ name) :
    splitSlashes name = [name] := by
  induction name with
  | nil => rfl
  | cons character rest inductionHypothesis =>
      have noSlashRest : '/' ∉ rest := fun inside => noSlash (List.mem_cons_of_mem _ inside)
      rw [splitSlashes, inductionHypothesis noSlashRest]
      rintro rfl
      exact noSlash List.mem_cons_self

private theorem splitSlashes_append (front : List Char) {name : List Char} (noSlash : '/' ∉ name) :
    ∃ first more, splitSlashes (front ++ '/' :: name) = first :: (more ++ [name]) := by
  induction front with
  | nil =>
      refine ⟨[], [], ?_⟩
      rw [List.nil_append, splitSlashes, splitSlashes_of_noSlash noSlash]
      rfl
  | cons character rest inductionHypothesis =>
      obtain ⟨first, more, split⟩ := inductionHypothesis
      by_cases slash : character = '/'
      · subst slash
        refine ⟨[], first :: more, ?_⟩
        rw [List.cons_append, splitSlashes, split]
        rfl
      · refine ⟨character :: first, more, ?_⟩
        rw [List.cons_append, splitSlashes, split]
        exact slash

private theorem getLast?_rawSteps {front : List Char} {text name : String}
    (ends : EndsInSlash front)
    (plain : IsPlainName name) (shown : text.toList = front ++ name.toList) :
    (rawSteps text).getLast? = some name := by
  have last : (rawNames text).getLast? = some name := by
    rw [rawNames, List.getLast?_map, shown]
    rcases ends with rfl | slash
    · rw [List.nil_append, splitSlashes_of_noSlash plain.noSlash]
      exact congrArg some (String.ofList_toList)
    · obtain ⟨before, rfl⟩ := List.getLast?_eq_some_iff.mp slash
      obtain ⟨first, more, split⟩ := splitSlashes_append before plain.noSlash
      rw [List.append_assoc, List.singleton_append, split, ← List.cons_append,
        List.getLast?_concat]
      exact congrArg some (String.ofList_toList)
  unfold rawSteps
  split
  · rw [List.getLast?_cons, last]
    rfl
  · exact last

/-- A walk that ends at a file, or at a place for one, ends with the last name. -/
theorem getLast?_of_walkFrom {tree : Tree} {here names : List String} {place : Tree.Place}
    {steps : List String} (walked : tree.walkFrom here names = .ok place)
    (opens : (∃ bytes, place = .file steps bytes) ∨ place = .vacant steps) :
    steps.getLast? = names.getLast? := by
  induction names generalizing here with
  | nil =>
      cases walked
      rcases opens with ⟨_, impossible⟩ | impossible
      · cases impossible
      · cases impossible
  | cons name rest inductionHypothesis =>
      have later {there : List String} (walkedRest : tree.walkFrom there rest = .ok place) :
          steps.getLast? = (name :: rest).getLast? := by
        have last := inductionHypothesis walkedRest
        cases rest with
        | nil =>
            cases walkedRest
            rcases opens with ⟨_, impossible⟩ | impossible
            · cases impossible
            · cases impossible
        | cons next more => rw [last, List.getLast?_cons_cons]
      unfold Tree.walkFrom at walked
      split at walked
      · exact later walked
      · split at walked
        · exact later walked
        · split at walked
          · exact later walked
          · split at walked
            · cases walked
            · dsimp only at walked
              split at walked
              · exact later walked
              · split at walked
                · rename_i last
                  cases walked
                  rw [List.isEmpty_iff.mp last]
                  rcases opens with ⟨_, same⟩ | impossible
                  · cases same
                    exact List.getLast?_concat
                  · cases impossible
                · cases walked
              · split at walked
                · rename_i last
                  cases walked
                  rw [List.isEmpty_iff.mp last]
                  rcases opens with ⟨_, impossible⟩ | same
                  · cases impossible
                  · cases same
                    exact List.getLast?_concat
                · cases walked

/-! ### Places -/

private theorem read?_scheme {text : String} {uri : Uri} (read : Uri.read? text = some uri) :
    uri.scheme = String.ofList (Uri.splitBefore ':' text.toList).1 ∧
      Uri.isScheme (Uri.splitBefore ':' text.toList).1 = true ∧
      (Uri.splitBefore ':' text.toList).2.isEmpty = false := by
  unfold Uri.read? at read
  dsimp only at read
  split at read
  · rename_i sound
    simp only [Bool.and_eq_true, Bool.not_eq_true'] at sound
    cases read
    exact ⟨rfl, sound.1.1.1.1.1, sound.1.1.1.1.2⟩
  · cases read

theorem destination_error {uri : Uri} (text : String)
    (odd : isSchemeLength uri.scheme.toList.length = false) :
    ∃ fault, uri.destination text = .error fault := by
  have different {known : String} (usual : isSchemeLength known.toList.length = true) :
      uri.scheme ≠ known := by
    rintro rfl
    rw [odd] at usual
    cases usual
  have neither {one other : String} (usualOne : isSchemeLength one.toList.length = true)
      (usualOther : isSchemeLength other.toList.length = true) :
      ¬ (decide (uri.scheme = one) || decide (uri.scheme = other)) = true := by
    rw [Bool.or_eq_true, decide_eq_true_eq, decide_eq_true_eq]
    exact not_or.mpr ⟨different usualOne, different usualOther⟩
  unfold Uri.destination
  rw [if_neg (neither (by decide) (by decide)), if_neg (different (by decide)),
    if_neg (different (by decide)), if_neg (neither (by decide) (by decide)),
    if_neg (neither (by decide) (by decide))]
  exact ⟨_, rfl⟩

private theorem addressed_ok {text : String} {destination : Destination}
    (unaddressed : looksAddressed text = false)
    (found : Tree.addressed text = .ok destination) : destination = .path text := by
  unfold Tree.addressed at found
  cases read : Uri.read? text with
  | none =>
      rw [read] at found
      cases found
      rfl
  | some uri =>
      obtain ⟨scheme, isScheme, rest⟩ := read?_scheme read
      have odd : isSchemeLength uri.scheme.toList.length = false := by
        rw [scheme, String.toList_ofList]
        unfold looksAddressed at unaddressed
        dsimp only at unaddressed
        rw [rest, isScheme] at unaddressed
        simpa using unaddressed
      obtain ⟨fault, refused⟩ := destination_error text odd
      rw [read] at found
      dsimp only at found
      rw [refused] at found
      cases found

/-- A path that is no address leads to the place where it ends. -/
theorem placeFor_ok {tree : Tree} {home : Option String} {path : String}
    {place : Option (List String)} (unaddressed : looksAddressed (expandHome home path) = false)
    (found : tree.placeFor home path = .ok place) :
    ∃ steps stood, place = some steps ∧ tree.walk (expandHome home path) = .ok stood ∧
      ((∃ bytes, stood = .file steps bytes) ∨ stood = .vacant steps) := by
  have toPath {destination : Destination}
      (chosen : tree.destination (expandHome home path) = .ok destination) :
      destination = .path (expandHome home path) := by
    rw [Tree.destination, unaddressed, if_neg Bool.false_ne_true, Sequence.bind_ok_iff] at chosen
    obtain ⟨isThere, _, answer⟩ := chosen
    split at answer
    · cases answer
      rfl
    · exact addressed_ok unaddressed answer
  unfold Tree.placeFor at found
  dsimp only at found
  split at found
  · cases found
  · simp only [Sequence.bind_ok_iff] at found
    obtain ⟨destination, chosen, opened⟩ := found
    rw [toPath chosen] at opened
    dsimp only at opened
    unfold Tree.openable at opened
    rw [unaddressed, if_neg Bool.false_ne_true] at opened
    split at opened
    · rename_i steps bytes walked
      cases opened
      exact ⟨steps, _, rfl, walked, .inl ⟨bytes, rfl⟩⟩
    · rename_i steps walked
      cases opened
      exact ⟨steps, _, rfl, walked, .inr rfl⟩
    · cases opened
    · cases opened

/-- A file that is written inside a folder stands at a place with its own name. -/
theorem getLast?_of_placeFor {tree : Tree} {home : Option String} {folder : List String}
    {name : String} {place : Option (List String)} (plain : IsPlainName name)
    (unaddressed : looksAddressed (expandHome home (childText folder name)) = false)
    (found : tree.placeFor home (childText folder name) = .ok place) :
    ∃ steps, place = some steps ∧ steps.getLast? = some name := by
  obtain ⟨steps, stood, same, walked, opens⟩ := placeFor_ok unaddressed found
  obtain ⟨front, ends, shown⟩ := expandHome_front home folder
  refine ⟨steps, same, ?_⟩
  unfold Tree.walk at walked
  split at walked
  · cases walked
  · split at walked
    · cases walked
    · rw [getLast?_of_walkFrom walked opens]
      exact getLast?_rawSteps ends plain (shown name plain)

/-- Whether a file inside a folder is spelled as an address does not depend on its name. -/
theorem looksAddressed_childText (home : Option String) (folder : List String)
    {first second : String} (firstPlain : IsPlainName first) (secondPlain : IsPlainName second) :
    looksAddressed (expandHome home (childText folder first)) =
      looksAddressed (expandHome home (childText folder second)) := by
  obtain ⟨front, _, shown⟩ := expandHome_front home folder
  rw [looksAddressed_append firstPlain (shown first firstPlain),
    looksAddressed_append secondPlain (shown second secondPlain)]

end TableExport.Files
