import TableExport.Files.Tree
import TableExport.Proofs.Sequence

/-!
Opening a file to append to it. Once it is open, a file stands where the path
leads: it stood there before, or it was put in the vacant place where the walk
along the path ended.
-/

set_option autoImplicit false

namespace TableExport.Files

open TableExport.Sequence

namespace Tree

section Walking

variable {tree : Tree} {steps : List String} {node : Node}

private theorem node?_put_self (free : tree.node? steps = none) :
    (tree.put steps node).node? steps = some node := by
  unfold node? at free ⊢
  split at free
  · cases free
  · rename_i absent
    rw [if_neg absent]
    simp [put]

private theorem node?_put_of_ne {other : List String} (different : other ≠ steps) :
    (tree.put steps node).node? other = tree.node? other := by
  unfold node? put
  rw [List.find?_cons_of_neg]
  exact fun same => different (of_decide_eq_true same).symm

/-- What a name on a walk leads to, whatever the tree is: a place that is known without the tree,
no place at all, or the node that stands under the name. -/
theorem walkFrom_cons_cases (here : List String) (name : String) (rest : List String) :
    (∃ there, ∀ tree : Tree, tree.walkFrom here (name :: rest) = tree.walkFrom there rest) ∨
      (∀ tree : Tree, tree.walkFrom here (name :: rest) = .error .nameTooLong) ∨
        ∀ tree : Tree, tree.walkFrom here (name :: rest) =
          match tree.node? (here ++ [name]) with
          | some .folder => tree.walkFrom (here ++ [name]) rest
          | some (.file bytes) =>
              if rest.isEmpty then .ok (.file (here ++ [name]) bytes) else .error .notFolder
          | none => if rest.isEmpty then .ok (.vacant (here ++ [name])) else .error .missing := by
  by_cases skipped : (name = "" || name = ".") = true
  · exact .inl ⟨here, fun tree => by rw [walkFrom, if_pos skipped]⟩
  by_cases root : name = rootStep
  · exact .inl ⟨[rootStep], fun tree => by rw [walkFrom, if_neg skipped, if_pos root]⟩
  by_cases up : name = ".."
  · exact .inl ⟨above here, fun tree => by rw [walkFrom, if_neg skipped, if_neg root, if_pos up]⟩
  by_cases long : nameLimit < name.utf8ByteSize
  · refine .inr (.inl fun tree => ?_)
    rw [walkFrom, if_neg skipped, if_neg root, if_neg up, if_pos long]
  · refine .inr (.inr fun tree => ?_)
    rw [walkFrom, if_neg skipped, if_neg root, if_neg up]
    exact if_neg long

theorem node?_of_walkFrom {here names : List String}
    (walked : tree.walkFrom here names = .ok (.vacant steps)) : tree.node? steps = none := by
  induction names generalizing here with
  | nil => cases walked
  | cons name rest inductionHypothesis =>
      rcases walkFrom_cons_cases here name rest with ⟨there, same⟩ | long | looks
      · exact inductionHypothesis ((same tree).symm.trans walked)
      · rw [long tree] at walked
        cases walked
      · rw [looks tree] at walked
        split at walked
        · exact inductionHypothesis walked
        · split at walked <;> cases walked
        · rename_i absent
          split at walked
          · cases walked
            exact absent
          · cases walked

theorem walkFrom_put {here names : List String} {bytes : List UInt8}
    (walked : tree.walkFrom here names = .ok (.vacant steps)) :
    (tree.put steps (.file bytes)).walkFrom here names = .ok (.file steps bytes) := by
  have free := node?_of_walkFrom walked
  induction names generalizing here with
  | nil => cases walked
  | cons name rest inductionHypothesis =>
      rcases walkFrom_cons_cases here name rest with ⟨there, same⟩ | long | looks
      · rw [same]
        exact inductionHypothesis ((same tree).symm.trans walked)
      · rw [long tree] at walked
        cases walked
      · rw [looks tree] at walked
        rw [looks]
        split at walked
        · rename_i folder
          -- a folder on the way is not the vacant place, so it is still there
          rw [node?_put_of_ne (fun same => by rw [same, free] at folder; cases folder), folder]
          exact inductionHypothesis walked
        · split at walked <;> cases walked
        · split at walked
          · rename_i last
            cases walked
            rw [node?_put_self free]
            exact if_pos last
          · cases walked

end Walking

def StandsAt (tree : Tree) (path : String) : Prop :=
  ∃ steps bytes, tree.walk (pathText (resolvedSteps path)) = .ok (.file steps bytes)

private theorem standsAt_of_openForAppend {tree grown : Tree} {path : String}
    (opened : tree.openForAppend path = .ok grown) : grown.StandsAt path := by
  unfold openForAppend at opened
  dsimp only at opened
  split at opened
  · rename_i steps bytes walked
    cases opened
    exact ⟨steps, bytes, walked⟩
  · rename_i steps walked
    cases opened
    refine ⟨steps, [], ?_⟩
    unfold walk at walked ⊢
    split at walked
    · cases walked
    · rename_i filled
      rw [if_neg filled]
      split at walked
      · cases walked
      · rename_i short
        rw [if_neg short]
        exact walkFrom_put walked
  · cases opened
  · cases opened

theorem standsAt_of_openLog {tree grown : Tree} {path : String}
    (opened : tree.openLog path = .ok grown) : grown.StandsAt path := by
  unfold openLog at opened
  dsimp only at opened
  split at opened
  · exact standsAt_of_openForAppend opened
  · rw [bind_ok_iff] at opened
    obtain ⟨folders, _, opens⟩ := opened
    exact standsAt_of_openForAppend opens

end Tree

end TableExport.Files
