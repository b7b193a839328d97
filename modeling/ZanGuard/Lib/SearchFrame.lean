import ZanGuard.Lib.Search

/-! A walk reads the visited list only at the keys it meets, and its hop limit only in its error. -/

namespace Search

variable {ν κ ε ρ : Type}

/-- Two visited lists that cannot be told apart by testing the keys in `A`. -/
def AgreeOn (A : κ → Prop) (v w : List κ) : Prop :=
  ∀ k, A k → (k ∈ v ↔ k ∈ w)

theorem AgreeOn.cons {A : κ → Prop} {v w : List κ} (agree : AgreeOn A v w) (k : κ) :
    AgreeOn A (k :: v) (k :: w) := by
  -- Both lists gain the same key, which changes no test between them.
  intro other relevant
  simp [agree other relevant]

/-- A second run repeats a first one that stayed inside `A`. -/
def Follows {α : Type} (A : κ → Prop) (first second : α × List κ) : Prop :=
  (∀ k ∈ first.2, A k) → first.1 = second.1 ∧ AgreeOn A first.2 second.2

theorem Graph.Guards.tail {g : Graph ν κ ε ρ} {item : Item ν κ ε ρ}
    {rest : List (Item ν κ ε ρ)} {k : κ} (guarded : g.Guards rest k) :
    g.Guards (item :: rest) k := by
  rcases guarded with ⟨answer, member⟩ | ⟨m, ⟨n, member, reach⟩, below⟩
  · exact .inl ⟨answer, List.mem_cons_of_mem _ member⟩
  · exact .inr ⟨m, ⟨n, List.mem_cons_of_mem _ member, reach⟩, below⟩

theorem Graph.Guards.above {g : Graph ν κ ε ρ} {items below : List (Item ν κ ε ρ)} {n : ν} {k : κ}
    (member : Item.node n ∈ items) (branch : below ∈ (g.rule n).branches)
    (guarded : g.Guards below k) : g.Guards items k := by
  rcases guarded with ⟨answer, inside⟩ | ⟨m, ⟨first, inside, reach⟩, deeper⟩
  · exact .inr ⟨n, ⟨n, member, .refl⟩, below, branch, answer, inside⟩
  · exact .inr ⟨m, ⟨n, member, .head ⟨below, branch, inside⟩ reach⟩, deeper⟩

theorem Follows.firstGrant {A : κ → Prop}
    {first second : Except ε (Option (Option ρ)) × List κ}
    (follows : Follows A first second) : Follows A (firstGrant first) (firstGrant second) := by
  -- Both runs stopped alike, so both report alike.
  intro inside
  rw [firstGrant_visited] at inside
  obtain ⟨same, after⟩ := follows inside
  rcases first with ⟨out, v⟩
  rcases second with ⟨out', w⟩
  simp only at same after
  subst same
  cases out <;> exact ⟨rfl, after⟩

theorem Follows.noneStopped {A : κ → Prop}
    {first second : Except ε (Option (Option ρ)) × List κ} (blank : ρ)
    (follows : Follows A first second) :
    Follows A (noneStopped blank first) (noneStopped blank second) := by
  -- Both runs stopped alike, so both report alike.
  intro inside
  rw [noneStopped_visited] at inside
  obtain ⟨same, after⟩ := follows inside
  rcases first with ⟨out, v⟩
  rcases second with ⟨out', w⟩
  simp only at same after
  subst same
  rcases out with e | _ | out <;> exact ⟨rfl, after⟩

section Frame

variable [DecidableEq κ] {g : Graph ν κ ε ρ} {descend : ν → List κ → Answer ε ρ × List κ}
  {A : κ → Prop}

/-- Items repeat their answer on a list that agrees with the first on every key met. -/
theorem walkItems_follows (grows : ∀ n v, v ⊆ (descend n v).2)
    (marks : ∀ n v, g.key n ∈ (descend n v).2) {items : List (Item ν κ ε ρ)}
    (guards : ∀ k, g.Guards items k → A k)
    (below : ∀ n, Item.node n ∈ items → ∀ v w, AgreeOn A v w →
      Follows A (descend n v) (descend n w))
    {v w : List κ} (agree : AgreeOn A v w) :
    Follows A (walkItems g descend items v) (walkItems g descend items w) := by
  -- A tested key is on the first list or gets onto it, so the second list answers the test alike.
  induction items generalizing v w with
  | nil => exact fun _ => ⟨rfl, agree⟩
  | cons item rest ih =>
    have continued := fun {v w} (agree : AgreeOn A v w) =>
      ih (fun k guarded => guards k guarded.tail)
        (fun n member => below n (List.mem_cons_of_mem _ member)) agree
    intro inside
    cases item with
    | leaf guard answer =>
      -- A guard is tested on both lists with the same outcome.
      have hidden : guard.any (· ∈ v) = guard.any (· ∈ w) := by
        cases guard with
        | none => rfl
        | some k => simp [agree k (guards k (.inl ⟨answer, by simp⟩))]
      simp only [walkItems, ← hidden] at inside ⊢
      split
      · rename_i passed
        rw [if_pos passed] at inside
        exact continued agree inside
      · rename_i passed
        rw [if_neg passed] at inside
        rcases answer with e | _ | r
        · exact ⟨rfl, agree⟩
        · exact continued agree inside
        · exact ⟨rfl, agree⟩
    | node n =>
      by_cases visited : g.key n ∈ v
      · simp only [walkItems, if_pos visited] at inside ⊢
        -- The key stays on the first list, so it is one on which the lists agree.
        have relevant := inside _ (walkItems_subset grows rest v visited)
        rw [if_pos ((agree _ relevant).mp visited)]
        exact continued agree inside
      · simp only [walkItems, if_neg visited] at inside ⊢
        have marked := marks n v
        have descended := below n (by simp) v w agree
        rcases first : descend n v with ⟨out, v'⟩
        rcases second : descend n w with ⟨out', w'⟩
        rw [first, second] at descended
        rw [first] at marked
        simp only [first] at inside
        -- Whatever the answer, the keys met below the node are among those met in all.
        have met : ∀ k ∈ v', A k := by
          intro k member
          refine inside k ?_
          rcases out with e | _ | r
          · exact member
          · exact walkItems_subset grows rest v' member
          · exact member
        obtain ⟨same, after⟩ := descended met
        have unvisited : g.key n ∉ w := fun member => visited ((agree _ (met _ marked)).mpr member)
        simp only at same after
        subst same
        rw [if_neg unvisited]
        rcases out with e | _ | r
        · exact ⟨rfl, after⟩
        · exact continued after inside
        · exact ⟨rfl, after⟩

/-- Scanned branches repeat their answer on a list that agrees on every key met. -/
theorem scan_follows (grows : ∀ n v, v ⊆ (descend n v).2)
    (marks : ∀ n v, g.key n ∈ (descend n v).2) (stopOn : Bool)
    {branches : List (List (Item ν κ ε ρ))}
    (guards : ∀ items ∈ branches, ∀ k, g.Guards items k → A k)
    (below : ∀ items ∈ branches, ∀ n, Item.node n ∈ items → ∀ v w, AgreeOn A v w →
      Follows A (descend n v) (descend n w))
    {v w : List κ} (agree : AgreeOn A v w) :
    Follows A (scan g descend stopOn branches v) (scan g descend stopOn branches w) := by
  -- The induction is on the branches, and each hands over lists that agree.
  induction branches generalizing v w with
  | nil => exact fun _ => ⟨rfl, agree⟩
  | cons items rest ih =>
    intro inside
    have head := walkItems_follows grows marks (guards items (by simp)) (below items (by simp)) agree
    simp only [scan] at inside ⊢
    rcases first : walkItems g descend items v with ⟨out, v'⟩
    rcases second : walkItems g descend items w with ⟨out', w'⟩
    rw [first, second] at head
    simp only [first] at inside
    have met : ∀ k ∈ v', A k := by
      intro k member
      refine inside k ?_
      rcases out with e | out
      · exact member
      · simp only
        split
        · exact member
        · exact scan_subset grows stopOn rest v' member
    obtain ⟨same, after⟩ := head met
    simp only at same after
    subst same
    rcases out with e | out
    · exact ⟨rfl, after⟩
    · simp only at inside ⊢
      split
      · exact ⟨rfl, after⟩
      · rename_i continued
        rw [if_neg continued] at inside
        exact ih (fun items member => guards items (List.mem_cons_of_mem _ member))
          (fun items member => below items (List.mem_cons_of_mem _ member)) after inside

/-- A combined rule repeats its answer on a list that agrees on every key met. -/
theorem walkRule_follows (grows : ∀ n v, v ⊆ (descend n v).2)
    (marks : ∀ n v, g.key n ∈ (descend n v).2) {rule : Rule ν κ ε ρ}
    (guards : ∀ items ∈ rule.branches, ∀ k, g.Guards items k → A k)
    (below : ∀ items ∈ rule.branches, ∀ n, Item.node n ∈ items → ∀ v w, AgreeOn A v w →
      Follows A (descend n v) (descend n w))
    {v w : List κ} (agree : AgreeOn A v w) :
    Follows A (walkRule g descend v rule) (walkRule g descend w rule) := by
  -- The rules differ only in how they report what their scans answered.
  cases rule with
  | any branches => exact (scan_follows grows marks true guards below agree).firstGrant
  | all branches =>
    simp only [walkRule]
    split
    · exact fun _ => ⟨rfl, agree⟩
    · exact (scan_follows grows marks false guards below agree).noneStopped g.blank
  | butNot base excluded =>
    intro inside
    have head := walkItems_follows grows marks (guards base (by simp [Rule.branches]))
      (below base (by simp [Rule.branches])) agree
    simp only [walkRule] at inside ⊢
    rcases first : walkItems g descend base v with ⟨out, v'⟩
    rcases second : walkItems g descend base w with ⟨out', w'⟩
    rw [first, second] at head
    rw [first] at inside
    -- The base met only keys the whole rule met.
    have met : ∀ k ∈ v', A k := by
      intro k member
      refine inside k ?_
      rcases out with e | _ | r
      · exact member
      · exact member
      · simpa only [ifGranted, noneStopped_visited] using scan_subset grows true excluded v' member
    obtain ⟨same, after⟩ := head met
    simp only at same after
    subst same
    rcases out with e | _ | granted
    · exact ⟨rfl, after⟩
    · exact ⟨rfl, after⟩
    · -- The excluded branches start from whatever the base left behind on each side.
      exact (scan_follows grows marks true
        (fun items member => guards items (by simp [Rule.branches, member]))
        (fun items member => below items (by simp [Rule.branches, member])) after).noneStopped
          g.blank inside

/-- A walk repeats its answer on a list that agrees with the first on every key met. -/
theorem walk_follows (budget : Nat) {n : ν}
    (guards : ∀ items ∈ (g.rule n).branches, ∀ k, g.Guards items k → A k)
    {v w : List κ} (agree : AgreeOn A v w) :
    Follows A (walk g budget n v) (walk g budget n w) := by
  -- The induction descends along hops, and the guards below are guards of the node itself.
  induction budget generalizing n v w with
  | zero => exact fun _ => ⟨rfl, agree.cons _⟩
  | succ budget ih =>
    intro inside
    have tested := agree _ (inside _ (walk_marks (budget + 1) n v))
    by_cases visited : g.key n ∈ v
    · rw [walk, walk, if_pos visited, if_pos (tested.mp visited)]
      exact ⟨rfl, agree⟩
    · have unvisited : g.key n ∉ w := fun member => visited (tested.mpr member)
      simp only [walk, if_neg visited, if_neg unvisited] at inside ⊢
      refine walkRule_follows (walk_subset budget) (walk_marks budget) guards ?_ (agree.cons _) inside
      intro items branch m member v w agree
      exact ih (fun below deeper k guarded =>
        guards items branch k (guarded.above member deeper)) agree

end Frame

section Hops

variable [DecidableEq κ] {g : Graph ν κ ε ρ} {descend deeper : ν → List κ → Answer ε ρ × List κ}

end Hops

end Search
