import ZanGuard.Lib.SearchApart

/-! Where no key is met along two ways, the order of the items does not decide the search. -/

namespace Search

variable {ν κ ε ρ : Type}

/-- An answer without an error, by whether it grants. -/
def Answers (answer : Answer ε ρ) (grants : Bool) : Prop :=
  -- An error is no answer, so it contradicts nothing.
  ∃ out, answer = .ok out ∧ out.isSome = grants

/-- Branches with the same items, in whatever order and number. -/
def SameItems (items others : List (Item ν κ ε ρ)) : Prop :=
  ∀ item, item ∈ items ↔ item ∈ others

/-- Every branch of one list has its like in the other. -/
def SameBranches (branches others : List (List (Item ν κ ε ρ))) : Prop :=
  -- Only membership counts, since a decision never depends on how often a branch occurs.
  (∀ items ∈ branches, ∃ like ∈ others, SameItems items like) ∧
    ∀ like ∈ others, ∃ items ∈ branches, SameItems items like

theorem SameItems.refl (items : List (Item ν κ ε ρ)) : SameItems items items :=
  fun _ => Iff.rfl

theorem SameBranches.refl (branches : List (List (Item ν κ ε ρ))) :
    SameBranches branches branches :=
  ⟨fun items among => ⟨items, among, SameItems.refl items⟩,
    fun items among => ⟨items, among, SameItems.refl items⟩⟩

/-- Two rules that differ in the order of their items. -/
inductive Rule.Reordered : Rule ν κ ε ρ → Rule ν κ ε ρ → Prop
  | any {branches others : List (List (Item ν κ ε ρ))} (same : SameBranches branches others) :
      Reordered (.any branches) (.any others)
  | all {branches others : List (List (Item ν κ ε ρ))} (same : SameBranches branches others) :
      Reordered (.all branches) (.all others)
  | butNot {base first : List (Item ν κ ε ρ)} {excluded others : List (List (Item ν κ ε ρ))}
      (start : SameItems base first) (same : SameBranches excluded others) :
      Reordered (.butNot base excluded) (.butNot first others)

/-- What a rule decides from the answers of its branches, however they are ordered. -/
def Rule.Decides (answer : List (Item ν κ ε ρ) → Answer ε ρ) : Rule ν κ ε ρ → Bool → Prop
  | .any branches, true => ∃ items ∈ branches, Answers (answer items) true
  | .any branches, false => ∀ items ∈ branches, Answers (answer items) false
  | .all branches, true => branches ≠ [] ∧ ∀ items ∈ branches, Answers (answer items) true
  | .all branches, false => branches = [] ∨ ∃ items ∈ branches, Answers (answer items) false
  | .butNot base excluded, true =>
    Answers (answer base) true ∧ ∀ items ∈ excluded, Answers (answer items) false
  | .butNot base excluded, false =>
    Answers (answer base) false ∨ ∃ items ∈ excluded, Answers (answer items) true

/-- Two ways to answer branches that never contradict each other on branches alike. -/
def Consistent (answer answer' : List (Item ν κ ε ρ) → Answer ε ρ)
    (branches others : List (List (Item ν κ ε ρ))) : Prop :=
  ∀ items ∈ branches, ∀ like ∈ others, SameItems items like → ∀ grants grants',
    Answers (answer items) grants → Answers (answer' like) grants' → grants = grants'

section Decides

variable {answer answer' : List (Item ν κ ε ρ) → Answer ε ρ}

/-- Among branches alike, one answer on one side speaks against all others on the other side. -/
theorem Consistent.one_against_all {branches others : List (List (Item ν κ ε ρ))} {one all : Bool}
    (consistent : Consistent answer answer' branches others)
    (same : ∀ items ∈ branches, ∃ like ∈ others, SameItems items like)
    (some_ : ∃ items ∈ branches, Answers (answer items) one)
    (every : ∀ like ∈ others, Answers (answer' like) all) : one = all := by
  obtain ⟨items, among, told⟩ := some_
  obtain ⟨like, there, alike⟩ := same items among
  exact consistent items among like there alike _ _ told (every like there)

/-- The same, with the one answer on the other side. -/
theorem Consistent.all_against_one {branches others : List (List (Item ν κ ε ρ))} {one all : Bool}
    (consistent : Consistent answer answer' branches others)
    (same : ∀ like ∈ others, ∃ items ∈ branches, SameItems items like)
    (every : ∀ items ∈ branches, Answers (answer items) all)
    (some_ : ∃ like ∈ others, Answers (answer' like) one) : all = one := by
  obtain ⟨like, there, told⟩ := some_
  obtain ⟨items, among, alike⟩ := same like there
  exact consistent items among like there alike _ _ (every items among) told

/-- Rules alike decide alike, when their branches are answered consistently. -/
theorem Rule.Reordered.decides {rule other : Rule ν κ ε ρ} (reordered : rule.Reordered other)
    (consistent : Consistent answer answer' rule.branches other.branches) {grants grants' : Bool}
    (decides : rule.Decides answer grants) (decides' : other.Decides answer' grants') :
    grants = grants' := by
  -- Every rule is an "all" on one side and a "some" on the other, so a difference is a clash.
  cases reordered with
  | any same =>
    cases grants <;> cases grants'
    · rfl
    · exact consistent.all_against_one same.2 decides decides'
    · exact consistent.one_against_all same.1 decides decides'
    · rfl
  | all same =>
    cases grants <;> cases grants'
    · rfl
    · rcases decides with rfl | one
      · obtain ⟨nonempty, -⟩ := decides'
        obtain ⟨like, there⟩ := List.exists_mem_of_ne_nil _ nonempty
        obtain ⟨items, among, -⟩ := same.2 like there
        exact absurd among List.not_mem_nil
      · exact consistent.one_against_all same.1 one decides'.2
    · rcases decides' with rfl | one
      · obtain ⟨items, among⟩ := List.exists_mem_of_ne_nil _ decides.1
        obtain ⟨like, there, -⟩ := same.1 items among
        exact absurd there List.not_mem_nil
      · exact consistent.all_against_one same.2 decides.2 one
    · rfl
  | butNot start same =>
    have bases := consistent _ List.mem_cons_self _ List.mem_cons_self start
    have tails : Consistent answer answer' _ _ := fun items among like there =>
      consistent items (List.mem_cons_of_mem _ among) like (List.mem_cons_of_mem _ there)
    cases grants <;> cases grants'
    · rfl
    · rcases decides with base | one
      · exact bases _ _ base decides'.1
      · exact (tails.one_against_all same.1 one decides'.2).symm
    · rcases decides' with base | one
      · exact bases _ _ decides.1 base
      · exact (tails.all_against_one same.2 decides.2 one).symm
    · rfl

end Decides

/-- Items of one branch of which no two different ones meet a common key. -/
def Graph.Loose (g : Graph ν κ ε ρ) (items : List (Item ν κ ε ρ)) : Prop :=
  ∀ a ∈ items, ∀ b ∈ items, a = b ∨ ∀ k, g.Marks [a] k → ¬ g.Meets [b] k

/-- A graph in which no key is met along two ways from a node. -/
structure Graph.Treelike (g : Graph ν κ ε ρ) (root : ν) : Prop where
  apart : ∀ n, g.Reach root n → g.Apart [g.key n] (g.rule n).branches
  loose : ∀ n, g.Reach root n → ∀ items ∈ (g.rule n).branches, g.Loose items

/-- What holds of a node holds of the nodes below it. -/
theorem Graph.Treelike.below {g : Graph ν κ ε ρ} {n m : ν} (tree : g.Treelike n)
    (hop : g.Hop n m) : g.Treelike m where
  apart far reach := tree.apart far (.head hop reach)
  loose far reach := tree.loose far (.head hop reach)

/-- A node marks its own key. -/
theorem Graph.marks_node (g : Graph ν κ ε ρ) (n : ν) : g.Marks [.node n] (g.key n) :=
  ⟨n, ⟨n, List.mem_singleton_self _, .refl⟩, rfl⟩

section Alone

variable [DecidableEq κ]

/-- What an item answers with nothing visited. -/
def itemAlone (g : Graph ν κ ε ρ) (budget : Nat) : Item ν κ ε ρ → Answer ε ρ
  | .leaf _ answer => answer
  | .node n => (walk g budget n []).1

/-- What a branch answers with nothing visited. -/
def branchAlone (g : Graph ν κ ε ρ) (budget : Nat) (items : List (Item ν κ ε ρ)) : Answer ε ρ :=
  (walkItems g (walk g budget) items []).1

variable {g : Graph ν κ ε ρ}

/-- An item that will answer as if it were alone, or that was refused and will be passed over. -/
def Ready (g : Graph ν κ ε ρ) (budget : Nat) (v : List κ) (item : Item ν κ ε ρ) : Prop :=
  (∀ k, g.Meets [item] k → k ∉ v) ∨
    itemAlone g budget item = .ok none ∧ ∀ n, item = .node n → g.key n ∈ v

/-- After a node was refused, the items that are not it stay ready, and it is spent. -/
theorem Ready.after {budget : Nat} {n : ν} {v : List κ} {item : Item ν κ ε ρ}
    (ready : Ready g budget v item) (refused : itemAlone g budget (.node n) = .ok none)
    (apart : .node n = item ∨ ∀ k, g.Marks [.node n] k → ¬ g.Meets [item] k) :
    Ready g budget (walk g budget n v).2 item := by
  rcases apart with rfl | apart
  · -- The node is spent once its own key is on the list.
    refine .inr ⟨refused, ?_⟩
    rintro m same
    obtain rfl := Item.node.inj same
    exact walk_marks budget n v
  · rcases ready with fresh | ⟨spent, visited⟩
    · -- What the walk put on the list, the node marks, and the item does not meet.
      left
      intro k met member
      rcases walk_within budget n v k member with old | ⟨m, reach, rfl⟩
      · exact fresh k met old
      · exact apart _ ⟨m, ⟨n, List.mem_singleton_self _, reach⟩, rfl⟩ met
    · exact .inr ⟨spent, fun m same => walk_subset budget n v (visited m same)⟩

/-- A loose branch answers what its items answer alone: all refuse, or one of them grants. -/
theorem walkItems_loose (budget : Nat) {items : List (Item ν κ ε ρ)} {v : List κ}
    (loose : g.Loose items) (ready : ∀ item ∈ items, Ready g budget v item) {out : Option ρ}
    (answered : (walkItems g (walk g budget) items v).1 = .ok out) :
    (out = none → ∀ item ∈ items, itemAlone g budget item = .ok none) ∧
      ∀ r, out = some r → ∃ item ∈ items, itemAlone g budget item = .ok (some r) := by
  induction items generalizing v with
  | nil =>
    obtain rfl := Except.ok.inj answered
    simp
  | cons item rest ih =>
    have looseRest : g.Loose rest := fun a first b second =>
      loose a (List.mem_cons_of_mem _ first) b (List.mem_cons_of_mem _ second)
    -- Once the head is known to refuse, the rest decides.
    have goes : ∀ w, itemAlone g budget item = .ok none →
        (∀ other ∈ rest, Ready g budget w other) →
        (walkItems g (walk g budget) rest w).1 = .ok out →
        (out = none → ∀ other ∈ item :: rest, itemAlone g budget other = .ok none) ∧
          ∀ r, out = some r → ∃ other ∈ item :: rest, itemAlone g budget other = .ok (some r) := by
      intro w refused ready answered
      obtain ⟨none_, some_⟩ := ih looseRest ready answered
      refine ⟨fun nothing => List.forall_mem_cons.mpr ⟨refused, none_ nothing⟩, ?_⟩
      intro r found
      obtain ⟨other, among, grants⟩ := some_ r found
      exact ⟨other, List.mem_cons_of_mem _ among, grants⟩
    have later : ∀ other ∈ rest, Ready g budget v other :=
  -- The induction is on the items; those that remain stay ready for the list reached.
      fun other among => ready other (List.mem_cons_of_mem _ among)
    have head := ready item List.mem_cons_self
    cases item with
    | leaf guard answer =>
      simp only [walkItems] at answered
      split at answered
      · -- A guard that was visited belongs to a leaf already refused.
        rename_i visited
        rcases head with fresh | ⟨spent, -⟩
        · obtain ⟨k, rfl, member⟩ : ∃ k, guard = some k ∧ k ∈ v := by
            simpa [Option.any_eq_true] using visited
          exact absurd member (fresh k (.inr (.inl ⟨answer, List.mem_singleton_self _⟩)))
        · exact goes v spent later answered
      · rcases answer with e | _ | r
        · cases answered
        · exact goes v rfl later answered
        · obtain rfl := Except.ok.inj answered
          refine ⟨fun nothing => (Option.some_ne_none _ nothing).elim, ?_⟩
          rintro r' same
          exact ⟨_, List.mem_cons_self, by rw [← Option.some.inj same]; rfl⟩
    | node n =>
      simp only [walkItems] at answered
      split at answered
      · rename_i visited
        rcases head with fresh | ⟨spent, -⟩
        · exact absurd visited (fresh _ (.inl (g.marks_node n)))
        · exact goes v spent later answered
      · rename_i unvisited
        have fresh : ∀ k, g.Meets [.node n] k → k ∉ v := by
          rcases head with fresh | ⟨-, visited⟩
          · exact fresh
          · exact absurd (visited n rfl) unvisited
        have alone : itemAlone g budget (.node n) = (walk g budget n v).1 := walk_fresh budget fresh
        have next : itemAlone g budget (.node n) = .ok none →
            ∀ other ∈ rest, Ready g budget (walk g budget n v).2 other := fun refused other among =>
          (later other among).after refused
            (loose _ List.mem_cons_self other (List.mem_cons_of_mem _ among))
        rcases ran : walk g budget n v with ⟨answer, w⟩
        rw [ran] at answered alone next
        rcases answer with e | _ | r
        · cases answered
        · exact goes w alone (next alone) answered
        · obtain rfl := Except.ok.inj answered
          refine ⟨fun nothing => (Option.some_ne_none _ nothing).elim, ?_⟩
          rintro r' same
          exact ⟨_, List.mem_cons_self, by rw [alone, ← Option.some.inj same]⟩

/-- Scanned branches that are apart answer as if alone, up to the first that stops the scan. -/
theorem scan_apart (budget : Nat) (stopOn : Bool) {branches : List (List (Item ν κ ε ρ))}
    {v : List κ} (apart : g.Apart v branches) {stopped : Option (Option ρ)}
    (scanned : (scan g (walk g budget) stopOn branches v).1 = .ok stopped) :
    (stopped = none → ∀ items ∈ branches, Answers (branchAlone g budget items) (!stopOn)) ∧
      ∀ out, stopped = some out → out.isSome = stopOn ∧
        ∃ items ∈ branches, Answers (branchAlone g budget items) stopOn := by
  induction branches generalizing v with
  | nil =>
    obtain rfl := Except.ok.inj scanned
    simp
  | cons items rest ih =>
    -- The first branch meets nothing that was visited before it.
    have alone := walkItems_alone budget (apart.fresh items List.mem_cons_self)
    have left := walkItems_within (walk_within (g := g) budget) items v
    rw [scan] at scanned
    rcases answered : walkItems g (walk g budget) items v with ⟨answer, w⟩
    rw [answered] at scanned alone left
    rcases answer with e | out
    · cases scanned
    · simp only at scanned
      split at scanned
      · -- It stops the scan, with the answer it has on its own.
        rename_i stops
        obtain rfl := Except.ok.inj scanned
        refine ⟨fun nothing => (Option.some_ne_none _ nothing).elim, ?_⟩
        intro out' same
        obtain rfl := Option.some.inj same
        exact ⟨stops, items, List.mem_cons_self, out, alone, stops⟩
      · -- Otherwise it leaves the rest of the branches apart from what it has visited.
        rename_i goes
        obtain ⟨none_, some_⟩ := ih (apart.tail left) scanned
        constructor
        · intro nothing
          exact List.forall_mem_cons.mpr ⟨⟨out, alone, Bool.eq_not.mpr goes⟩, none_ nothing⟩
        · intro out' found
          obtain ⟨stops, like, among, told⟩ := some_ out' found
          exact ⟨stops, like, List.mem_cons_of_mem _ among, told⟩

/-- A rule whose branches are apart decides from what they answer alone. -/
theorem walkRule_decides (budget : Nat) {v : List κ} {rule : Rule ν κ ε ρ}
    (apart : g.Apart v rule.branches) {out : Option ρ}
    (answered : (walkRule g (walk g budget) v rule).1 = .ok out) :
    rule.Decides (branchAlone g budget) out.isSome := by
  -- Each rule reads its decision off the place where its scan stopped.
  cases rule with
  | any branches =>
    simp only [walkRule] at answered
    rcases scanned : scan g (walk g budget) true branches v with ⟨stopped, w⟩
    rw [scanned] at answered
    rcases stopped with e | stopped
    · cases answered
    · obtain ⟨none_, some_⟩ := scan_apart budget true apart (congrArg Prod.fst scanned)
      cases stopped with
      | none =>
        obtain rfl := Except.ok.inj answered
        exact none_ rfl
      | some found =>
        obtain rfl := Except.ok.inj answered
        obtain ⟨grants, one⟩ := some_ found rfl
        rw [Option.join_some, grants]
        exact one
  | all branches =>
    simp only [walkRule] at answered
    split at answered
    · rename_i empty
      obtain rfl := Except.ok.inj answered
      exact .inl (List.isEmpty_iff.mp empty)
    · rename_i nonempty
      rcases scanned : scan g (walk g budget) false branches v with ⟨stopped, w⟩
      rw [scanned] at answered
      rcases stopped with e | stopped
      · cases answered
      · obtain ⟨none_, some_⟩ := scan_apart budget false apart (congrArg Prod.fst scanned)
        cases stopped with
        | none =>
          obtain rfl := Except.ok.inj answered
          exact ⟨by simpa using nonempty, none_ rfl⟩
        | some found =>
          obtain rfl := Except.ok.inj answered
          exact .inr (some_ found rfl).2
  | butNot base excluded =>
    have alone := walkItems_alone budget (apart.fresh base List.mem_cons_self)
    have left := walkItems_within (walk_within (g := g) budget) base v
    simp only [walkRule] at answered
    rcases first : walkItems g (walk g budget) base v with ⟨answer, w⟩
    rw [first] at answered alone left
    rcases answer with e | _ | r
    · cases answered
    · obtain rfl := Except.ok.inj answered
      exact .inl ⟨none, alone, rfl⟩
    · -- The base granted, and what it left behind keeps the excluded branches apart.
      simp only [ifGranted] at answered
      rcases scanned : scan g (walk g budget) true excluded w with ⟨stopped, u⟩
      rw [scanned] at answered
      rcases stopped with e | stopped
      · cases answered
      · obtain ⟨none_, some_⟩ :=
          scan_apart budget true (apart.tail left) (congrArg Prod.fst scanned)
        cases stopped with
        | none =>
          obtain rfl := Except.ok.inj answered
          exact ⟨⟨some r, alone, rfl⟩, none_ rfl⟩
        | some found =>
          obtain rfl := Except.ok.inj answered
          exact .inr (some_ found rfl).2

/-- Loose branches with the same items do not contradict each other when the nodes below do not. -/
theorem branchAlone_consistent (budget : Nat) {g h : Graph ν κ ε ρ}
    {items likes : List (Item ν κ ε ρ)} (loose : g.Loose items) (loose' : h.Loose likes)
    (same : SameItems items likes)
    (below : ∀ n, Item.node n ∈ items → ∀ grants grants', Answers (walk g budget n []).1 grants →
      Answers (walk h budget n []).1 grants' → grants = grants') (grants grants' : Bool)
    (told : Answers (branchAlone g budget items) grants)
    (told' : Answers (branchAlone h budget likes) grants') : grants = grants' := by
  -- An item that grants on one side refuses on the other, though it is the same item.
  have clash : ∀ item ∈ items, ∀ a b, itemAlone g budget item = .ok a →
      itemAlone h budget item = .ok b → a.isSome = b.isSome := by
    intro item among a b first second
    cases item with
    | leaf guard answer =>
      obtain rfl := Except.ok.inj (first.symm.trans second)
      rfl
    | node n => exact below n among _ _ ⟨a, first, rfl⟩ ⟨b, second, rfl⟩
  obtain ⟨out, answered, rfl⟩ := told
  obtain ⟨out', answered', rfl⟩ := told'
  obtain ⟨none_, some_⟩ := walkItems_loose budget loose
    (fun item _ => .inl fun k _ => List.not_mem_nil) answered
  obtain ⟨none_', some_'⟩ := walkItems_loose budget loose'
    (fun item _ => .inl fun k _ => List.not_mem_nil) answered'
  cases out with
  | none =>
    cases out' with
    | none => rfl
    | some r =>
      obtain ⟨item, there, grants⟩ := some_' r rfl
      have among := (same item).mpr there
      exact clash item among none (some r) (none_ rfl item among) grants
  | some r =>
    cases out' with
    | some r' => rfl
    | none =>
      obtain ⟨item, among, grants⟩ := some_ r rfl
      exact clash item among (some r) none grants (none_' rfl item ((same item).mp among))

/-- On treelike graphs alike up to the order of items, walks that return decide alike. -/
theorem walk_reordered (budget : Nat) {g h : Graph ν κ ε ρ}
    (reordered : ∀ n, (g.rule n).Reordered (h.rule n)) {n : ν} (tree : g.Treelike n)
    (tree' : h.Treelike n) {grants grants' : Bool} (told : Answers (walk g budget n []).1 grants)
    (told' : Answers (walk h budget n []).1 grants') : grants = grants' := by
  -- The induction is on the hops left, over every node below which both graphs are trees.
  induction budget generalizing n grants grants' with
  | zero =>
    obtain ⟨out, answered, -⟩ := told
    cases answered
  | succ budget ih =>
    obtain ⟨out, answered, rfl⟩ := told
    obtain ⟨out', answered', rfl⟩ := told'
    rw [walk, if_neg List.not_mem_nil] at answered answered'
    have decides := walkRule_decides budget (tree.apart n .refl) answered
    have decides' := walkRule_decides budget (tree'.apart n .refl) answered'
    refine (reordered n).decides ?_ decides decides'
    intro items branch likes branch' same
    refine branchAlone_consistent budget (tree.loose n .refl items branch)
      (tree'.loose n .refl likes branch') same ?_
    intro m among grants grants' told told'
    exact ih (tree.below ⟨items, branch, among⟩)
      (tree'.below ⟨likes, branch', (same _).mp among⟩) told told'

end Alone

end Search
