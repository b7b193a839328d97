import ZanGuard.Lib.SearchApart

/-! On a graph in which nothing is met along two ways, a walk finds what the rules say. -/

namespace Search

variable {ν κ ε ρ : Type}

/-! ### What rules say, given what nodes say -/

/-- What an item decides; a leaf that fails decides nothing. -/
def Item.Decided (decides : ν → Bool → Prop) (verdict : Bool) : Item ν κ ε ρ → Prop
  | .leaf _ answer => ∃ out, answer = .ok out ∧ out.isSome = verdict
  | .node n => decides n verdict

/-- A branch grants by one of its items, and refuses by all of them. -/
def BranchDecided (decides : ν → Bool → Prop) (items : List (Item ν κ ε ρ)) : Bool → Prop
  | true => ∃ item ∈ items, item.Decided decides true
  | false => ∀ item ∈ items, item.Decided decides false

/-- The truth tables of the rules. -/
def Rule.Decided (decides : ν → Bool → Prop) : Rule ν κ ε ρ → Bool → Prop
  | .any branches, true => ∃ items ∈ branches, BranchDecided decides items true
  | .any branches, false => ∀ items ∈ branches, BranchDecided decides items false
  | .all branches, true => branches ≠ [] ∧ ∀ items ∈ branches, BranchDecided decides items true
  | .all branches, false => branches = [] ∨ ∃ items ∈ branches, BranchDecided decides items false
  | .butNot base excluded, true =>
    BranchDecided decides base true ∧ ∀ items ∈ excluded, BranchDecided decides items false
  | .butNot base excluded, false =>
    BranchDecided decides base false ∨ ∃ items ∈ excluded, BranchDecided decides items true

/-- A branch with one leaf decides what the leaf does. -/
theorem branchDecided_leaf {decides : ν → Bool → Prop} {guard : Option κ} {answer : Answer ε ρ}
    {verdict : Bool} (decided : BranchDecided decides [Item.leaf guard answer] verdict) :
    ∃ out, answer = .ok out ∧ out.isSome = verdict := by
  cases verdict with
  | true =>
    obtain ⟨item, member, said⟩ := decided
    obtain rfl := List.mem_singleton.mp member
    exact said
  | false => exact decided _ (List.mem_singleton_self _)

/-- A rule that can only fail decides nothing. -/
theorem Rule.not_decided_failing {decides : ν → Bool → Prop} {guard : Option κ} {e : ε}
    {verdict : Bool} :
    ¬ (Rule.any [[Item.leaf guard (.error e)]] : Rule ν κ ε ρ).Decided decides verdict := by
  intro decided
  have failing : BranchDecided decides [(Item.leaf guard (.error e) : Item ν κ ε ρ)] verdict := by
    cases verdict with
    | true =>
      obtain ⟨items, among, said⟩ := decided
      obtain rfl := List.mem_singleton.mp among
      exact said
    | false => exact decided _ (List.mem_singleton_self _)
  obtain ⟨out, same, -⟩ := branchDecided_leaf failing
  cases same

/-! ### Trees -/

/-- Items that are not the same meet different keys. -/
def Graph.Unshared (g : Graph ν κ ε ρ) (items : List (Item ν κ ε ρ)) : Prop :=
  ∀ first ∈ items, ∀ second ∈ items, first ≠ second →
    ∀ k, g.Marks [first] k → ¬ g.Meets [second] k

/-- The branches of a node share nothing, and none leads back to it. -/
structure Graph.TreeAt (g : Graph ν κ ε ρ) (n : ν) : Prop where
  apart : g.Apart [g.key n] (g.rule n).branches
  unshared : ∀ items ∈ (g.rule n).branches, g.Unshared items

/-- Everything in reach of a node is met along one way. -/
def Graph.Tree (g : Graph ν κ ε ρ) (n : ν) : Prop :=
  ∀ m, g.Reach n m → g.TreeAt m

/-- Nodes below a node are met along one way, too. -/
theorem Graph.Tree.below {g : Graph ν κ ε ρ} {n m : ν} (tree : g.Tree n) (reach : g.Reach n m) :
    g.Tree m :=
  fun last further => tree last (reach.trans further)

/-- An item meets no more than its branch does. -/
theorem Graph.Meets.of_item {g : Graph ν κ ε ρ} {item : Item ν κ ε ρ}
    {items : List (Item ν κ ε ρ)} (member : item ∈ items) {k : κ} (met : g.Meets [item] k) :
    g.Meets items k := by
  -- A key is met at a node below the item, or at a leaf of one.
  rcases met with ⟨m, ⟨n, inside, reach⟩, key⟩ | ⟨answer, inside⟩ | ⟨m, ⟨n, inside, reach⟩, below⟩
  · obtain rfl := List.mem_singleton.mp inside
    exact .inl ⟨m, ⟨n, member, reach⟩, key⟩
  · obtain rfl := List.mem_singleton.mp inside
    exact .inr (.inl ⟨answer, member⟩)
  · obtain rfl := List.mem_singleton.mp inside
    exact .inr (.inr ⟨m, ⟨n, member, reach⟩, below⟩)

/-- What a node meets, its branches meet, except for its own key. -/
theorem Graph.Meets.of_branch {g : Graph ν κ ε ρ} {n : ν} {items : List (Item ν κ ε ρ)}
    (branch : items ∈ (g.rule n).branches) {k : κ} (met : g.Meets items k) :
    g.Meets [.node n] k := by
  -- Each way to meet a key starts one hop below the node.
  rcases met with ⟨m, ⟨first, inside, reach⟩, key⟩ | guarded
  · exact .inl ⟨m, ⟨n, List.mem_singleton_self _, .head ⟨items, branch, inside⟩ reach⟩, key⟩
  · exact .inr (guarded.above (List.mem_singleton_self _) branch)

section Walk

variable [DecidableEq κ] {g : Graph ν κ ε ρ} {decides : ν → Bool → Prop}

/-- The nodes of a branch are walked to what they say, as long as they meet no visited key. -/
def Truthful (g : Graph ν κ ε ρ) (decides : ν → Bool → Prop)
    (descend : ν → List κ → Answer ε ρ × List κ) (items : List (Item ν κ ε ρ)) : Prop :=
  ∀ n, Item.node n ∈ items → ∀ v, (∀ k, g.Meets [.node n] k → k ∉ v) →
    ∀ out w, descend n v = (.ok out, w) → decides n out.isSome

/-- An item that meets no visited key, or a node that was visited and refused. -/
def Open (g : Graph ν κ ε ρ) (decides : ν → Bool → Prop) (v : List κ) (item : Item ν κ ε ρ) : Prop :=
  (∀ k, g.Meets [item] k → k ∉ v) ∨ ∃ n, item = .node n ∧ decides n false ∧ g.key n ∈ v

omit [DecidableEq κ] in
/-- A node that refused leaves the items it shares nothing with, and itself, open. -/
theorem Open.after {v w : List κ} {n : ν} {item : Item ν κ ε ρ} (isOpen : Open g decides v item)
    (unshared : Item.node n ≠ item → ∀ k, g.Marks [.node n] k → ¬ g.Meets [item] k)
    (refused : decides n false) (grown : v ⊆ w) (marked : g.key n ∈ w)
    (within : ∀ k ∈ w, k ∈ v ∨ ∃ m, g.Reach n m ∧ g.key m = k) : Open g decides w item := by
  by_cases same : Item.node n = item
  · exact .inr ⟨n, same.symm, refused, marked⟩
  · rcases isOpen with fresh | ⟨m, rfl, said, visited⟩
    · -- What the node left behind is not met by an item that differs from it.
      refine .inl fun k met member => ?_
      rcases within k member with old | ⟨m, reach, key⟩
      · exact fresh k met old
      · exact unshared same k ⟨m, ⟨n, List.mem_singleton_self _, reach⟩, key⟩ met
    · exact .inr ⟨m, rfl, said, grown visited⟩

/-- A branch of open items that share nothing is walked to what it decides. -/
theorem walkItems_decided {descend : ν → List κ → Answer ε ρ × List κ}
    (grows : ∀ n v, v ⊆ (descend n v).2) (marks : ∀ n v, g.key n ∈ (descend n v).2)
    (within : DescendsWithin g descend) {items : List (Item ν κ ε ρ)}
    (truthful : Truthful g decides descend items) (unshared : g.Unshared items) {v : List κ}
    (isOpen : ∀ item ∈ items, Open g decides v item) {out : Option ρ} {w : List κ}
    (walked : walkItems g descend items v = (.ok out, w)) : BranchDecided decides items out.isSome := by
  -- By induction on the items, each of them walked from what those before it left.
  induction items generalizing v with
  | nil =>
    obtain ⟨same, -⟩ := Prod.mk.inj walked
    obtain rfl := Except.ok.inj same
    intro item member
    cases member
  | cons item rest ih =>
    have later : ∀ {u}, (∀ other ∈ rest, Open g decides u other) →
        walkItems g descend rest u = (.ok out, w) → BranchDecided decides rest out.isSome :=
      ih (fun n member => truthful n (List.mem_cons_of_mem _ member))
        (fun first member second among => unshared first (List.mem_cons_of_mem _ member) second
          (List.mem_cons_of_mem _ among))
    -- An item that refuses leaves the verdict to the rest.
    have refuses : item.Decided decides false → BranchDecided decides rest out.isSome →
        BranchDecided decides (item :: rest) out.isSome := by
      intro refused others
      cases granted : out.isSome with
      | true =>
        rw [granted] at others
        obtain ⟨other, member, said⟩ := others
        exact ⟨other, List.mem_cons_of_mem _ member, said⟩
      | false =>
        rw [granted] at others
        intro other member
        rcases List.mem_cons.mp member with rfl | member
        · exact refused
        · exact others other member
    have openRest : ∀ other ∈ rest, Open g decides v other :=
      fun other member => isOpen other (List.mem_cons_of_mem _ member)
    cases item with
    | leaf guard answer =>
      -- A leaf that is open is not hidden.
      have shown : ¬ guard.any (· ∈ v) = true := by
        rcases isOpen _ List.mem_cons_self with fresh | ⟨n, same, -⟩
        · cases guard with
          | none => simp
          | some k => simpa using fresh k (.inr (.inl ⟨answer, List.mem_singleton_self _⟩))
        · cases same
      rw [walkItems, if_neg shown] at walked
      rcases answer with e | _ | r
      · cases walked
      · exact refuses ⟨none, rfl, rfl⟩ (later openRest walked)
      · obtain ⟨same, -⟩ := Prod.mk.inj walked
        obtain rfl := Except.ok.inj same
        exact ⟨_, List.mem_cons_self, some r, rfl, rfl⟩
    | node n =>
      rw [walkItems] at walked
      rcases isOpen _ List.mem_cons_self with fresh | ⟨m, same, refused, visited⟩
      · have unvisited : g.key n ∉ v :=
          fresh _ (.inl ⟨n, ⟨n, List.mem_singleton_self _, .refl⟩, rfl⟩)
        rw [if_neg unvisited] at walked
        have kept := grows n v
        have marked := marks n v
        have stays := within n v
        have said := truthful n List.mem_cons_self v fresh
        rcases descended : descend n v with ⟨answer, u⟩
        rw [descended] at kept marked stays walked
        rcases answer with e | _ | r
        · cases walked
        · have refused : decides n false := said none u descended
          refine refuses refused (later (fun other member => ?_) walked)
          exact (openRest other member).after
            (unshared _ List.mem_cons_self other (List.mem_cons_of_mem _ member)) refused kept marked
            stays
        · obtain ⟨same, -⟩ := Prod.mk.inj walked
          obtain rfl := Except.ok.inj same
          exact ⟨_, List.mem_cons_self, said (some r) u descended⟩
      · -- A node that was visited had refused.
        obtain rfl := Item.node.inj same
        rw [if_pos visited] at walked
        exact refuses refused (later openRest walked)

/-- Branches that share nothing are scanned to what they decide. -/
theorem scan_decided {descend : ν → List κ → Answer ε ρ × List κ}
    (grows : ∀ n v, v ⊆ (descend n v).2) (marks : ∀ n v, g.key n ∈ (descend n v).2)
    (within : DescendsWithin g descend) (stopOn : Bool) {branches : List (List (Item ν κ ε ρ))}
    (truthful : ∀ items ∈ branches, Truthful g decides descend items)
    (unshared : ∀ items ∈ branches, g.Unshared items) {v : List κ} (apart : g.Apart v branches)
    {stopped : Option (Option ρ)} {w : List κ}
    (scanned : scan g descend stopOn branches v = (.ok stopped, w)) :
    (stopped = none → ∀ items ∈ branches, BranchDecided decides items (!stopOn)) ∧
      ∀ out, stopped = some out →
        out.isSome = stopOn ∧ ∃ items ∈ branches, BranchDecided decides items stopOn := by
  -- By induction on the branches, which stay apart from what was visited.
  induction branches generalizing v with
  | nil =>
    obtain ⟨same, -⟩ := Prod.mk.inj scanned
    obtain rfl := Except.ok.inj same
    refine ⟨fun _ items member => absurd member List.not_mem_nil, fun out same => ?_⟩
    cases same
  | cons items rest ih =>
    have first : ∀ out u, walkItems g descend items v = (.ok out, u) →
        BranchDecided decides items out.isSome := by
      intro out u walked
      refine walkItems_decided grows marks within (truthful items List.mem_cons_self)
        (unshared items List.mem_cons_self) (fun item member => ?_) walked
      exact .inl fun k met => apart.fresh items List.mem_cons_self k (met.of_item member)
    have left := walkItems_within within items v
    rw [scan] at scanned
    rcases walked : walkItems g descend items v with ⟨answer, u⟩
    rw [walked] at scanned left
    rcases answer with e | out
    · cases scanned
    · have said := first out u walked
      simp only at scanned
      by_cases stops : out.isSome = stopOn
      · -- The scan ends at the first branch that answers as it looks for.
        rw [if_pos stops] at scanned
        obtain ⟨same, -⟩ := Prod.mk.inj scanned
        obtain rfl := Except.ok.inj same
        refine ⟨fun nothing => ?_, fun other same => ?_⟩
        · cases nothing
        · obtain rfl := Option.some.inj same
          exact ⟨stops, items, List.mem_cons_self, stops ▸ said⟩
      · rw [if_neg stops] at scanned
        have opposite : out.isSome = !stopOn := by
          cases granted : out.isSome <;> cases stopOn <;> simp_all
        obtain ⟨all, one⟩ := ih (fun below among => truthful below (List.mem_cons_of_mem _ among))
          (fun below among => unshared below (List.mem_cons_of_mem _ among)) (apart.tail left) scanned
        refine ⟨fun nothing below among => ?_, fun other same => ?_⟩
        · rcases List.mem_cons.mp among with rfl | among
          · exact opposite ▸ said
          · exact all nothing below among
        · obtain ⟨kind, below, among, decided⟩ := one other same
          exact ⟨kind, below, List.mem_cons_of_mem _ among, decided⟩

/-- A rule whose branches share nothing is walked to what it decides. -/
theorem walkRule_decided {descend : ν → List κ → Answer ε ρ × List κ}
    (grows : ∀ n v, v ⊆ (descend n v).2) (marks : ∀ n v, g.key n ∈ (descend n v).2)
    (within : DescendsWithin g descend) {rule : Rule ν κ ε ρ}
    (truthful : ∀ items ∈ rule.branches, Truthful g decides descend items)
    (unshared : ∀ items ∈ rule.branches, g.Unshared items) {v : List κ}
    (apart : g.Apart v rule.branches) {out : Option ρ} {w : List κ}
    (walked : walkRule g descend v rule = (.ok out, w)) : rule.Decided decides out.isSome := by
  -- One case for each rule, and in it one for each way its scan can end.
  cases rule with
  | any branches =>
    simp only [walkRule] at walked
    rcases scanned : scan g descend true branches v with ⟨answer, u⟩
    rw [scanned] at walked
    rcases answer with e | stopped
    · cases walked
    · obtain ⟨all, one⟩ := scan_decided grows marks within true truthful unshared apart scanned
      obtain ⟨same, -⟩ := Prod.mk.inj walked
      obtain rfl := Except.ok.inj same
      cases stopped with
      | none => exact all rfl
      | some found =>
        obtain ⟨granted, items, among, decided⟩ := one found rfl
        have join : (some found).join = found := rfl
        rw [join, granted]
        exact ⟨items, among, decided⟩
  | all branches =>
    simp only [walkRule] at walked
    split at walked
    · -- An empty conjunction refuses.
      rename_i empty
      obtain ⟨same, -⟩ := Prod.mk.inj walked
      obtain rfl := Except.ok.inj same
      exact .inl (List.isEmpty_iff.mp empty)
    · rename_i nonempty
      rcases scanned : scan g descend false branches v with ⟨answer, u⟩
      rw [scanned] at walked
      rcases answer with e | stopped
      · cases walked
      · obtain ⟨all, one⟩ := scan_decided grows marks within false truthful unshared apart scanned
        cases stopped with
        | none =>
          obtain ⟨same, -⟩ := Prod.mk.inj walked
          obtain rfl := Except.ok.inj same
          exact ⟨fun empty => nonempty (List.isEmpty_iff.mpr empty), all rfl⟩
        | some found =>
          obtain ⟨same, -⟩ := Prod.mk.inj walked
          obtain rfl := Except.ok.inj same
          exact .inr (one found rfl).2
  | butNot base excluded =>
    simp only [walkRule] at walked
    have left := walkItems_within within base v
    rcases first : walkItems g descend base v with ⟨answer, u⟩
    rw [first] at walked left
    rcases answer with e | found
    · cases walked
    · have said : BranchDecided decides base found.isSome := by
        refine walkItems_decided grows marks within (truthful base List.mem_cons_self)
          (unshared base List.mem_cons_self) (fun item member => ?_) first
        exact .inl fun k met => apart.fresh base List.mem_cons_self k (met.of_item member)
      cases found with
      | none =>
        obtain ⟨same, -⟩ := Prod.mk.inj walked
        obtain rfl := Except.ok.inj same
        exact .inl said
      | some r =>
        -- The base granted, and what it left behind keeps the excluded branches apart.
        simp only [ifGranted] at walked
        rcases scanned : scan g descend true excluded u with ⟨answer, u'⟩
        rw [scanned] at walked
        rcases answer with e | stopped
        · cases walked
        · obtain ⟨all, one⟩ := scan_decided grows marks within true
            (fun items among => truthful items (List.mem_cons_of_mem _ among))
            (fun items among => unshared items (List.mem_cons_of_mem _ among))
            (apart.tail left) scanned
          cases stopped with
          | none =>
            obtain ⟨same, -⟩ := Prod.mk.inj walked
            obtain rfl := Except.ok.inj same
            exact ⟨said, all rfl⟩
          | some found =>
            obtain ⟨same, -⟩ := Prod.mk.inj walked
            obtain rfl := Except.ok.inj same
            exact .inr (one found rfl).2

/--
What a walk of a tree answers, every relation decides that the rules do not leave.

No key of the tree may have been visited before.
-/
theorem walk_decided (budget : Nat) {n : ν} (tree : g.Tree n)
    (closed : ∀ m verdict, g.Reach n m → (g.rule m).Decided decides verdict → decides m verdict)
    {v : List κ} (fresh : ∀ k, g.Meets [.node n] k → k ∉ v) {out : Option ρ} {w : List κ}
    (walked : walk g budget n v = (.ok out, w)) : decides n out.isSome := by
  -- One hop deeper, the tree is smaller and what was visited is still outside of it.
  induction budget generalizing n v out w with
  | zero => cases walked
  | succ budget ih =>
    have unvisited : g.key n ∉ v :=
      fresh _ (.inl ⟨n, ⟨n, List.mem_singleton_self _, .refl⟩, rfl⟩)
    rw [walk, if_neg unvisited] at walked
    have here := tree n .refl
    refine closed n _ .refl (walkRule_decided (walk_subset budget) (walk_marks budget)
      (walk_within budget) ?_ here.unshared ⟨?_, here.apart.siblings⟩ walked)
    · intro items branch m member v' fresh' out' w' descended
      have hop : g.Reach n m := .single ⟨items, branch, member⟩
      exact ih (tree.below hop) (fun last verdict further => closed last verdict (hop.trans further))
        fresh' descended
    · -- The branches meet neither the node's own key nor a key visited before.
      intro items branch k met member
      rcases List.mem_cons.mp member with own | old
      · exact here.apart.fresh items branch k met (List.mem_singleton.mpr own)
      · exact fresh k (met.of_branch branch) old

end Walk

end Search
