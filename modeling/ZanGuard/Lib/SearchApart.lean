import ZanGuard.Lib.SearchFrame

/-! Branches that share no key with what was visited before them answer as if they came first. -/

namespace Search

variable {ν κ ε ρ : Type}

/-- The keys a branch may leave behind. -/
def Graph.Marks (g : Graph ν κ ε ρ) (items : List (Item ν κ ε ρ)) (k : κ) : Prop :=
  ∃ m, g.LeadsTo items m ∧ g.key m = k

/-- The keys a branch may leave behind or test at a leaf. -/
def Graph.Meets (g : Graph ν κ ε ρ) (items : List (Item ν κ ε ρ)) (k : κ) : Prop :=
  g.Marks items k ∨ g.Guards items k

/-- Branches that meet no visited key, and none a branch before them may leave behind. -/
structure Graph.Apart (g : Graph ν κ ε ρ) (v : List κ) (branches : List (List (Item ν κ ε ρ))) :
    Prop where
  fresh : ∀ items ∈ branches, ∀ k, g.Meets items k → k ∉ v
  siblings : branches.Pairwise fun first second => ∀ k, g.Marks first k → ¬ g.Meets second k

theorem Graph.Marks.tail {g : Graph ν κ ε ρ} {item : Item ν κ ε ρ} {rest : List (Item ν κ ε ρ)}
    {k : κ} (marked : g.Marks rest k) : g.Marks (item :: rest) k := by
  obtain ⟨m, ⟨n, member, reach⟩, key⟩ := marked
  exact ⟨m, ⟨n, List.mem_cons_of_mem _ member, reach⟩, key⟩

/-- A leaf without a guard meets nothing. -/
theorem Graph.not_meets_leaf (g : Graph ν κ ε ρ) (answer : Answer ε ρ) (k : κ) :
    ¬ g.Meets [.leaf none answer] k := by
  rintro (⟨m, ⟨n, member, -⟩, -⟩ | ⟨other, member⟩ | ⟨m, ⟨n, member, -⟩, -⟩)
  · simp at member
  · simp at member
  · simp at member

/-- What the first of several branches leaves behind keeps the others apart. -/
theorem Graph.Apart.tail {g : Graph ν κ ε ρ} {items : List (Item ν κ ε ρ)} {rest : List (List (Item ν κ ε ρ))}
    {v w : List κ} (apart : g.Apart v (items :: rest))
    (left : ∀ k ∈ w, k ∈ v ∨ g.Marks items k) : g.Apart w rest where
  fresh := by
    -- A key on the new list was visited before or marked by the first branch.
    intro below among k met member
    rcases left k member with old | marked
    · exact apart.fresh below (List.mem_cons_of_mem _ among) k met old
    · exact (List.pairwise_cons.mp apart.siblings).1 below among k marked met
  siblings := (List.pairwise_cons.mp apart.siblings).2

section Within

variable [DecidableEq κ] {g : Graph ν κ ε ρ} {descend : ν → List κ → Answer ε ρ × List κ}

/-- A recursive entry visits only nodes within reach. -/
def DescendsWithin (g : Graph ν κ ε ρ) (descend : ν → List κ → Answer ε ρ × List κ) : Prop :=
  ∀ n v, ∀ k ∈ (descend n v).2, k ∈ v ∨ ∃ m, g.Reach n m ∧ g.key m = k

/-- Items visit only nodes they lead to. -/
theorem walkItems_within (within : DescendsWithin g descend) (items : List (Item ν κ ε ρ))
    (v : List κ) : ∀ k ∈ (walkItems g descend items v).2, k ∈ v ∨ g.Marks items k := by
  -- The induction is on the items, at whatever list has been reached.
  induction items generalizing v with
  | nil => exact fun k member => .inl member
  | cons item rest ih =>
    -- Whatever the rest marks, the whole list marks.
    have later : ∀ w, ∀ k ∈ (walkItems g descend rest w).2, k ∈ w ∨ g.Marks (item :: rest) k := by
      intro w k member
      rcases ih w k member with old | marked
      · exact .inl old
      · exact .inr marked.tail
    intro k member
    cases item with
    | leaf guard answer =>
      simp only [walkItems] at member
      split at member
      · exact later v k member
      · rcases answer with e | _ | r
        · exact .inl member
        · exact later v k member
        · exact .inl member
    | node n =>
      simp only [walkItems] at member
      split at member
      · exact later v k member
      · have below := within n v
        rcases answered : descend n v with ⟨out, w⟩
        rw [answered] at member below
        have first : ∀ k ∈ w, k ∈ v ∨ g.Marks (.node n :: rest) k := by
          intro k member
          rcases below k member with old | ⟨m, reach, key⟩
          · exact .inl old
          · exact .inr ⟨m, ⟨n, List.mem_cons_self, reach⟩, key⟩
        rcases out with e | _ | r
        · exact first k member
        · rcases later w k member with old | marked
          · exact first k old
          · exact .inr marked
        · exact first k member

/-- Scanned branches visit only nodes they lead to. -/
theorem scan_within (within : DescendsWithin g descend) (stopOn : Bool)
    (branches : List (List (Item ν κ ε ρ))) (v : List κ) :
    ∀ k ∈ (scan g descend stopOn branches v).2, k ∈ v ∨ ∃ items ∈ branches, g.Marks items k := by
  -- A branch that is never walked marks nothing, which only makes the list shorter.
  induction branches generalizing v with
  | nil => exact fun k member => .inl member
  | cons items rest ih =>
    intro k member
    have head := walkItems_within within items v
    simp only [scan] at member
    rcases answered : walkItems g descend items v with ⟨out, w⟩
    rw [answered] at member head
    have first : ∀ k ∈ w, k ∈ v ∨ ∃ below ∈ items :: rest, g.Marks below k := by
      intro k member
      rcases head k member with old | marked
      · exact .inl old
      · exact .inr ⟨items, List.mem_cons_self, marked⟩
    rcases out with e | out
    · exact first k member
    · simp only at member
      split at member
      · exact first k member
      · rcases ih w k member with old | ⟨below, among, marked⟩
        · exact first k old
        · exact .inr ⟨below, List.mem_cons_of_mem _ among, marked⟩

/-- A combined rule visits only nodes its branches lead to. -/
theorem walkRule_within (within : DescendsWithin g descend) (v : List κ) (rule : Rule ν κ ε ρ) :
    ∀ k ∈ (walkRule g descend v rule).2, k ∈ v ∨ ∃ items ∈ rule.branches, g.Marks items k := by
  -- Whichever rule it is, its branches are walked in a row.
  intro k member
  cases rule with
  | any branches =>
    simp only [walkRule, firstGrant_visited] at member
    exact scan_within within true branches v k member
  | all branches =>
    simp only [walkRule] at member
    split at member
    · exact .inl member
    · rw [noneStopped_visited] at member
      exact scan_within within false branches v k member
  | butNot base excluded =>
    have head := walkItems_within within base v
    simp only [walkRule] at member
    rcases answered : walkItems g descend base v with ⟨out, w⟩
    rw [answered] at member head
    have first : ∀ k ∈ w, k ∈ v ∨ ∃ items ∈ base :: excluded, g.Marks items k := by
      intro k member
      rcases head k member with old | marked
      · exact .inl old
      · exact .inr ⟨base, List.mem_cons_self, marked⟩
    rcases out with e | _ | r
    · exact first k member
    · exact first k member
    · simp only [ifGranted, noneStopped_visited] at member
      rcases scan_within within true excluded w k member with old | ⟨items, among, marked⟩
      · exact first k old
      · exact .inr ⟨items, List.mem_cons_of_mem _ among, marked⟩

/-- A walk visits only nodes within reach. -/
theorem walk_within (budget : Nat) : DescendsWithin g (walk g budget) := by
  -- One hop of the graph leads from the node to whatever its branches mark.
  induction budget with
  | zero =>
    intro n v k member
    rcases List.mem_cons.mp member with rfl | old
    · exact .inr ⟨n, .refl, rfl⟩
    · exact .inl old
  | succ budget ih =>
    intro n v k member
    simp only [walk] at member
    split at member
    · exact .inl member
    · rcases walkRule_within ih _ _ k member with old | ⟨items, branch, m, ⟨first, inside, reach⟩, key⟩
      · rcases List.mem_cons.mp old with rfl | old
        · exact .inr ⟨n, .refl, rfl⟩
        · exact .inl old
      · exact .inr ⟨m, .head ⟨items, branch, inside⟩ reach, key⟩

end Within

section Alone

variable [DecidableEq κ] {g : Graph ν κ ε ρ}

/-- A branch that meets no visited key answers as it would with nothing visited. -/
theorem walkItems_alone (budget : Nat) {items : List (Item ν κ ε ρ)} {v : List κ}
    (fresh : ∀ k, g.Meets items k → k ∉ v) :
    (walkItems g (walk g budget) items []).1 = (walkItems g (walk g budget) items v).1 := by
  -- Outside the visited keys, the visited list cannot be told from the empty one.
  have agree : AgreeOn (· ∉ v) [] v := by
    intro k unvisited
    simp [unvisited]
  have follows := walkItems_follows (walk_subset budget) (walk_marks budget)
    (fun k guarded => fresh k (.inr guarded))
    (fun n member v w agree => walk_follows budget
      (fun below branch k guarded => fresh k (.inr (guarded.above member branch))) agree) agree
  refine (follows ?_).1
  intro k member
  rcases walkItems_within (walk_within budget) items [] k member with old | marked
  · exact absurd old List.not_mem_nil
  · exact fresh k (.inl marked)

/-- A node none of whose keys was visited is answered as it would be with nothing visited. -/
theorem walk_alone (budget : Nat) {n : ν} {v : List κ}
    (unmarked : ∀ m, g.Reach n m → g.key m ∉ v)
    (unguarded : ∀ items ∈ (g.rule n).branches, ∀ k, g.Guards items k → k ∉ v) :
    (walk g budget n []).1 = (walk g budget n v).1 := by
  have agree : AgreeOn (· ∉ v) [] v := by
    intro k unvisited
    simp [unvisited]
  refine (walk_follows budget unguarded agree ?_).1
  intro k member
  rcases walk_within budget n [] k member with old | ⟨m, reach, rfl⟩
  · exact absurd old List.not_mem_nil
  · exact unmarked m reach

/-- A node answers as if it were alone when it meets no visited key. -/
theorem walk_fresh (budget : Nat) {n : ν} {v : List κ} (fresh : ∀ k, g.Meets [.node n] k → k ∉ v) :
    (walk g budget n []).1 = (walk g budget n v).1 := by
  -- Both kinds of keys a walk tests are keys the single item meets.
  refine walk_alone budget ?_ ?_
  · intro m reach
    exact fresh _ (.inl ⟨m, ⟨n, List.mem_singleton_self _, reach⟩, rfl⟩)
  · intro items branch k guarded
    exact fresh k (.inr (guarded.above (List.mem_singleton_self _) branch))

end Alone

end Search
