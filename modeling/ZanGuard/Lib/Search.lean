import Mathlib.Data.List.Basic
import Mathlib.Logic.Relation

/-! Depth-first search over rules that combine branches, with one visited list shared by all of them. -/

namespace Search

variable {ν κ ε ρ : Type}

/-- What a search reports: an error, a refusal, or a grant with its evidence. -/
abbrev Answer (ε ρ : Type) := Except ε (Option ρ)

/-- One thing a branch looks at. -/
inductive Item (ν κ ε ρ : Type) where
  /-- An answer known without descending, passed over when its guard was visited. -/
  | leaf (guard : Option κ) (answer : Answer ε ρ)
  /-- A node to descend into, passed over when its key was visited. -/
  | node (n : ν)

/-- How a node combines its branches, each of which grants as soon as one of its items does. -/
inductive Rule (ν κ ε ρ : Type) where
  /-- Some branch grants. -/
  | any (branches : List (List (Item ν κ ε ρ)))
  /-- There is a branch, and every branch grants. -/
  | all (branches : List (List (Item ν κ ε ρ)))
  /-- The base grants and no excluded branch does. -/
  | butNot (base : List (Item ν κ ε ρ)) (excluded : List (List (Item ν κ ε ρ)))

/-- Every branch a rule can enter. -/
def Rule.branches : Rule ν κ ε ρ → List (List (Item ν κ ε ρ))
  | .any branches => branches
  | .all branches => branches
  | .butNot base excluded => base :: excluded

/-- A rule for every node, the key a visit leaves behind, and the two answers rules share. -/
structure Graph (ν κ ε ρ : Type) where
  key : ν → κ
  rule : ν → Rule ν κ ε ρ
  /-- The evidence of a grant that several branches had to agree on. -/
  blank : ρ
  /-- The error of a walk that has no hops left. -/
  tooDeep : ε

/-- Go on after a refusal, and stop at a grant or an error. -/
def goOn (run : Answer ε ρ × List κ) (rest : List κ → Answer ε ρ × List κ) :
    Answer ε ρ × List κ :=
  match run with
  | (.ok none, w) => rest w
  | decided => decided

/-- Go on after a grant, and stop at a refusal or an error. -/
def ifGranted (run : Answer ε ρ × List κ) (rest : List κ → Answer ε ρ × List κ) :
    Answer ε ρ × List κ :=
  match run with
  | (.ok (some _), w) => rest w
  | refused => refused

/-- The answer of the branch that stopped a scan, and a refusal when none did. -/
def firstGrant (run : Except ε (Option (Option ρ)) × List κ) : Answer ε ρ × List κ :=
  match run with
  | (.error e, w) => (.error e, w)
  | (.ok stopped, w) => (.ok stopped.join, w)

/-- A grant with no evidence of its own when no branch stopped a scan, and else a refusal. -/
def noneStopped (blank : ρ) (run : Except ε (Option (Option ρ)) × List κ) :
    Answer ε ρ × List κ :=
  match run with
  | (.error e, w) => (.error e, w)
  | (.ok (some _), w) => (.ok none, w)
  | (.ok none, w) => (.ok (some blank), w)

@[simp] theorem firstGrant_visited (run : Except ε (Option (Option ρ)) × List κ) :
    (firstGrant run).2 = run.2 := by
  rcases run with ⟨out, w⟩
  cases out <;> rfl

@[simp] theorem noneStopped_visited (blank : ρ) (run : Except ε (Option (Option ρ)) × List κ) :
    (noneStopped blank run).2 = run.2 := by
  rcases run with ⟨out, w⟩
  rcases out with e | _ | out <;> rfl

/-- Go on after a refusal, refuse after a grant, and stop at an error. -/
def ifRefused (run : Answer ε ρ × List κ) (rest : List κ → Answer ε ρ × List κ) :
    Answer ε ρ × List κ :=
  match run with
  | (.ok none, w) => rest w
  | (.ok (some _), w) => (.ok none, w)
  | (.error e, w) => (.error e, w)

section Walk

variable [DecidableEq κ] (g : Graph ν κ ε ρ) (descend : ν → List κ → Answer ε ρ × List κ)

/-- Look at items in order and stop at the first grant or error. -/
def walkItems : List (Item ν κ ε ρ) → List κ → Answer ε ρ × List κ
  | [], v => (.ok none, v)
  | .leaf guard answer :: rest, v =>
    -- A guard that was visited hides the leaf, whatever its answer would have been.
    if guard.any (· ∈ v) then walkItems rest v
    else goOn (answer, v) (walkItems rest)
  | .node n :: rest, v =>
    if g.key n ∈ v then walkItems rest v
    else goOn (descend n v) (walkItems rest)

/-- Walk branches in order until one answers `stopOn`, and report that branch's answer. -/
def scan (stopOn : Bool) : List (List (Item ν κ ε ρ)) → List κ → Except ε (Option (Option ρ)) × List κ
  | [], v => (.ok none, v)
  | items :: rest, v =>
    match walkItems g descend items v with
    | (.error e, w) => (.error e, w)
    | (.ok out, w) => if out.isSome = stopOn then (.ok (some out), w) else scan stopOn rest w

/-- Combine the branches of one rule. -/
def walkRule (v : List κ) : Rule ν κ ε ρ → Answer ε ρ × List κ
  | .any branches => firstGrant (scan g descend true branches v)
  | .all branches =>
    -- An empty conjunction refuses.
    if branches.isEmpty then (.ok none, v)
    else noneStopped g.blank (scan g descend false branches v)
  | .butNot base excluded =>
    -- The excluded branches inherit every visit the base has made.
    ifGranted (walkItems g descend base v) fun w =>
      noneStopped g.blank (scan g descend true excluded w)

/-- Walk a node with a bounded number of hops, refusing a node that was visited before. -/
def walk : Nat → ν → List κ → Answer ε ρ × List κ
  -- Nothing tests the list after an error, so recording the refused node costs nothing.
  | 0, n, v => (.error g.tooDeep, g.key n :: v)
  | budget + 1, n, v =>
    if g.key n ∈ v then (.ok none, v)
    else walkRule g (walk budget) (g.key n :: v) (g.rule n)

end Walk

/-- One hop from a node to a node one of its branches may descend into. -/
def Graph.Hop (g : Graph ν κ ε ρ) (n m : ν) : Prop :=
  ∃ items ∈ (g.rule n).branches, Item.node m ∈ items

/-- The nodes some number of hops away. -/
def Graph.Reach (g : Graph ν κ ε ρ) : ν → ν → Prop :=
  Relation.ReflTransGen g.Hop

/-- The nodes a branch leads to. -/
def Graph.LeadsTo (g : Graph ν κ ε ρ) (items : List (Item ν κ ε ρ)) (m : ν) : Prop :=
  ∃ n, Item.node n ∈ items ∧ g.Reach n m

/-- The guards a branch tests, at its own leaves or below the nodes it leads to. -/
def Graph.Guards (g : Graph ν κ ε ρ) (items : List (Item ν κ ε ρ)) (k : κ) : Prop :=
  (∃ answer, Item.leaf (some k) answer ∈ items) ∨
    ∃ m, g.LeadsTo items m ∧ ∃ below ∈ (g.rule m).branches, ∃ answer, Item.leaf (some k) answer ∈ below

section Laws

variable [DecidableEq κ] {g : Graph ν κ ε ρ} {descend : ν → List κ → Answer ε ρ × List κ}

/-- Looking for a first grant goes branch by branch. -/
theorem firstGrant_scan_cons (items : List (Item ν κ ε ρ)) (rest : List (List (Item ν κ ε ρ)))
    (v : List κ) :
    firstGrant (scan g descend true (items :: rest) v) =
      goOn (walkItems g descend items v) fun w => firstGrant (scan g descend true rest w) := by
  rw [scan]
  rcases walkItems g descend items v with ⟨out, w⟩
  rcases out with e | _ | r <;> rfl

/-- Requiring every branch to grant goes branch by branch. -/
theorem noneStopped_scan_false_cons (blank : ρ) (items : List (Item ν κ ε ρ))
    (rest : List (List (Item ν κ ε ρ))) (v : List κ) :
    noneStopped blank (scan g descend false (items :: rest) v) =
      ifGranted (walkItems g descend items v) fun w =>
        noneStopped blank (scan g descend false rest w) := by
  rw [scan]
  rcases walkItems g descend items v with ⟨out, w⟩
  rcases out with e | _ | r <;> rfl

/-- Requiring every branch to refuse goes branch by branch. -/
theorem noneStopped_scan_true_cons (blank : ρ) (items : List (Item ν κ ε ρ))
    (rest : List (List (Item ν κ ε ρ))) (v : List κ) :
    noneStopped blank (scan g descend true (items :: rest) v) =
      ifRefused (walkItems g descend items v) fun w =>
        noneStopped blank (scan g descend true rest w) := by
  rw [scan]
  rcases walkItems g descend items v with ⟨out, w⟩
  rcases out with e | _ | r <;> rfl

/-- A visit is never undone while items are looked at. -/
theorem walkItems_subset (grows : ∀ n v, v ⊆ (descend n v).2) (items : List (Item ν κ ε ρ))
    (v : List κ) : v ⊆ (walkItems g descend items v).2 := by
  -- Only descending changes the visited list, and descending keeps what it was given.
  induction items generalizing v with
  | nil => simp [walkItems]
  | cons item rest ih =>
    cases item with
    | leaf guard answer =>
      simp only [walkItems]
      split
      · exact ih v
      · rcases answer with e | _ | r
        · exact List.Subset.refl v
        · exact ih v
        · exact List.Subset.refl v
    | node n =>
      simp only [walkItems]
      split
      · exact ih v
      · have kept := grows n v
        rcases answered : descend n v with ⟨out, w⟩
        rw [answered] at kept
        rcases out with e | _ | r
        · exact kept
        · exact fun k member => ih w (kept member)
        · exact kept

/-- A visit is never undone while branches are scanned. -/
theorem scan_subset (grows : ∀ n v, v ⊆ (descend n v).2) (stopOn : Bool)
    (branches : List (List (Item ν κ ε ρ))) (v : List κ) :
    v ⊆ (scan g descend stopOn branches v).2 := by
  -- The list only passes from branch to branch, and each keeps what it got.
  induction branches generalizing v with
  | nil => simp [scan]
  | cons items rest ih =>
    have kept := walkItems_subset (g := g) grows items v
    simp only [scan]
    split
    · rename_i answered
      rwa [answered] at kept
    · rename_i w answered
      rw [answered] at kept
      split
      · exact kept
      · exact fun k member => ih w (kept member)

/-- A visit is never undone while a rule is combined. -/
theorem walkRule_subset (grows : ∀ n v, v ⊆ (descend n v).2) (v : List κ) (rule : Rule ν κ ε ρ) :
    v ⊆ (walkRule g descend v rule).2 := by
  -- Every rule ends with the list its last branch left.
  cases rule with
  | any branches =>
    simpa only [walkRule, firstGrant_visited] using scan_subset grows true branches v
  | all branches =>
    simp only [walkRule]
    split
    · exact List.Subset.refl v
    · simpa only [noneStopped_visited] using scan_subset grows false branches v
  | butNot base excluded =>
    have first := walkItems_subset (g := g) grows base v
    simp only [walkRule]
    rcases answered : walkItems g descend base v with ⟨out, w⟩
    rw [answered] at first
    rcases out with e | _ | r
    · exact first
    · exact first
    · -- The scan of the excluded branches only adds to what the base left behind.
      have kept := scan_subset (g := g) grows true excluded w
      simp only [ifGranted, noneStopped_visited]
      exact fun k member => kept (first member)

/-- A visit is never undone. -/
theorem walk_subset (budget : Nat) (n : ν) (v : List κ) : v ⊆ (walk g budget n v).2 := by
  -- One hop deeper the hypothesis of the induction speaks about every node.
  induction budget generalizing n v with
  | zero => simp [walk]
  | succ budget ih =>
    simp only [walk]
    split
    · simp
    · exact fun k member =>
        walkRule_subset (fun n v => ih n v) _ _ (List.mem_cons_of_mem _ member)

/-- A walk leaves the key of its node behind. -/
theorem walk_marks (budget : Nat) (n : ν) (v : List κ) : g.key n ∈ (walk g budget n v).2 := by
  -- The key is on the list before the rule is even looked at.
  cases budget with
  | zero => simp [walk]
  | succ budget =>
    simp only [walk]
    split
    · assumption
    · exact walkRule_subset (walk_subset budget) _ _ (by simp)

end Laws

end Search
