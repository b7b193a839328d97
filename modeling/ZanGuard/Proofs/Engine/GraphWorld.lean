import ZanGuard.Lib.SearchApart
import ZanGuard.Proofs.Engine.Complete
import ZanGuard.Proofs.Engine.Refinement

/-! On a quiet store, the graph of a search stays inside the permission graph of the world. -/

namespace ZanGuard

open Search

variable {V P : Type}

/-- A quiet store answers every lookup of a check as it would at the instant. -/
theorem Memory.Store.Quiet.steady {s : Memory.Store V} {tc : TenantContext V}
    {clock : Memory.Clock} {now : Time} (quiet : s.Quiet tc.tenantID clock now) :
    (s.lookups (some tc) clock).Steady := by
  -- The clock is all that sets two readings apart, and no expiry lies between them.
  have same : ∀ n, ∀ t ∈ s.tuplesOf tc.tenantID,
      Memory.tupleIsExpiredAt t (clock n) = Memory.tupleIsExpiredAt t (clock 0) := by
    intro n t stored
    rw [quiet n t stored, quiet 0 t stored]
  have lists : ∀ n type id relation,
      s.liveTuples tc.tenantID type id relation (clock n) =
        s.liveTuples tc.tenantID type id relation (clock 0) := by
    intro n type id relation
    rw [quiet.liveTuples n, quiet.liveTuples 0]
  refine { checkDirect := ?_, listRelatedObjects := ?_, listSubjects := ?_,
           getObjectAttributes := fun _ => rfl, getSubjectAttributes := fun _ => rfl }
  · intro n
    funext type id relation subjectType subjectID
    simp only [Memory.Store.lookups, Memory.Store.checkDirect, Memory.Store.reading,
      tenantIDFromCtx, bind, Except.bind]
    -- The expiry test of a stored tuple does not depend on the reading.
    have anyone : ∀ p : RelationTuple V → Bool,
        ((s.tuplesOf tc.tenantID).any fun t => p t && !Memory.tupleIsExpiredAt t (clock n)) =
          (s.tuplesOf tc.tenantID).any fun t => p t && !Memory.tupleIsExpiredAt t (clock 0) := by
      intro p
      rw [Bool.eq_iff_iff, List.any_eq_true, List.any_eq_true]
      refine exists_congr fun t => and_congr_right fun stored => ?_
      rw [same n t stored]
    rw [anyone]
  · intro n
    funext type id relation
    simp only [Memory.Store.lookups, Memory.Store.listRelatedObjects, Memory.Store.reading,
      tenantIDFromCtx, bind, Except.bind, lists n]
  · intro n
    funext type id relation
    simp only [Memory.Store.lookups, Memory.Store.listSubjects, Memory.Store.reading,
      tenantIDFromCtx, bind, Except.bind, lists n]

section Graph

variable {w : Walker V P} {world : World V P}

/-- The branches of a request are those of its children, or one that only reports an error. -/
theorem Walker.branches_cases (w : Walker V P) (req : CheckRequest V) :
    (∃ permDef, w.schema.getPermission req.objectType req.permission = .ok permDef ∧
      (w.graph.rule req).branches = permDef.children.map (w.childItems req)) ∨
    ∃ e, (w.graph.rule req).branches = [[.leaf none (.error e)]] := by
  -- An undeclared permission and an unknown operation have one branch that fails.
  simp only [Walker.graph]
  cases declared : w.schema.getPermission req.objectType req.permission with
  | error e => exact .inr ⟨e, rfl⟩
  | ok permDef =>
    simp only [Walker.permissionRule]
    cases operation : permDef.operation with
    | union | direct | intersect => exact .inl ⟨permDef, rfl, rfl⟩
    | exclusion =>
      refine .inl ⟨permDef, rfl, ?_⟩
      cases permDef.children with
      | nil => rfl
      | cons base excluded => rfl
    | other code => exact .inr ⟨_, rfl⟩

/-- A branch of a request is opened by a child of its permission, or only reports an error. -/
theorem Walker.branch_cases {req : CheckRequest V} {items : List (RequestItem V)}
    (branch : items ∈ (w.graph.rule req).branches) :
    (∃ permDef, w.schema.getPermission req.objectType req.permission = .ok permDef ∧
      ∃ child ∈ permDef.children, items = w.childItems req child) ∨
    ∃ e, items = [.leaf none (.error e)] := by
  -- The branches are the images of the children, or the one that fails.
  rcases w.branches_cases req with ⟨permDef, declared, all⟩ | ⟨e, only⟩
  · rw [all] at branch
    obtain ⟨child, member, rfl⟩ := List.mem_map.mp branch
    exact .inl ⟨permDef, declared, child, member, rfl⟩
  · rw [only] at branch
    exact .inr ⟨e, List.mem_singleton.mp branch⟩

/-- What an item of a child can be, and the node it opens: none, a userset, or a target. -/
inductive ChildItem (w : Walker V P) (world : World V P) (req : CheckRequest V)
    (child : PermissionRef) : RequestItem V → Option Node → Prop
  | plain (answer : Answer Err (List String)) : ChildItem w world req child (.leaf none answer) none
  | member (subj : SubjectRef) (kind : child.kind = .relation) (e : Err)
      (undeclared : w.schema.getPermission subj.type subj.relation = .error e)
      (opened : world.Opens req.objectType req.objectID child (req.userset subj).node) :
      ChildItem w world req child
        (.leaf (some (req.userset subj).key) (w.memberAnswer req subj.type subj.id subj.relation))
        (some (req.userset subj).node)
  | userset (subj : SubjectRef) (kind : child.kind = .relation) (permDef : PermissionDef P)
      (declared : w.schema.getPermission subj.type subj.relation = .ok permDef)
      (opened : world.Opens req.objectType req.objectID child (req.userset subj).node) :
      ChildItem w world req child (.node (req.userset subj)) (some (req.userset subj).node)
  | target (target : ObjectRef) (kind : child.kind = .arrow)
      (opened : world.Opens req.objectType req.objectID child
        (req.target child.arrowPermission target).node) :
      ChildItem w world req child (.node (req.target child.arrowPermission target))
        (some (req.target child.arrowPermission target).node)

/-- Every item of a child is one the world accounts for. -/
theorem Walker.childItems_cases (shows : w.ShowsAll world) {req : CheckRequest V}
    {child : PermissionRef} {item : RequestItem V} (member : item ∈ w.childItems req child) :
    ∃ opened, ChildItem w world req child item opened := by
  -- Follow how the branch is built, one case for each kind of child.
  unfold Walker.childItems at member
  cases kind : child.kind with
  | relation =>
    rw [kind] at member
    rcases List.mem_cons.mp member with rfl | member
    · exact ⟨_, .plain _⟩
    · cases listed : w.store.listSubjects 0 req.objectType req.objectID child.relationRef with
      | error e =>
        rw [listed] at member
        obtain rfl := List.mem_singleton.mp member
        exact ⟨_, .plain _⟩
      | ok subjects =>
        rw [listed] at member
        obtain ⟨subj, among, inside⟩ := List.mem_flatMap.mp member
        -- What was listed is what the world relates, so the item has a node to open.
        have there := (shows.subjects _ _ _ _ _ listed subj).mpr among
        unfold Walker.subjectItems at inside
        split at inside
        · exact absurd inside List.not_mem_nil
        · rename_i nonempty
          split at inside
          · rename_i e undeclared
            obtain rfl := List.mem_singleton.mp inside
            exact ⟨_, .member subj kind e undeclared (.userset kind there nonempty)⟩
          · rename_i permDef declared
            obtain rfl := List.mem_singleton.mp inside
            exact ⟨_, .userset subj kind permDef declared (.userset kind there nonempty)⟩
  | arrow =>
    rw [kind] at member
    cases listed : w.store.listRelatedObjects 0 req.objectType req.objectID child.arrowRef with
    | error e =>
      rw [listed] at member
      obtain rfl := List.mem_singleton.mp member
      exact ⟨_, .plain _⟩
    | ok targets =>
      rw [listed] at member
      obtain ⟨target, among, inside⟩ := List.mem_flatMap.mp member
      have there := (shows.related _ _ _ _ _ listed target).mpr among
      unfold Walker.targetItems at inside
      split at inside
      · exact absurd inside List.not_mem_nil
      · rename_i permDef declared
        obtain rfl := List.mem_singleton.mp inside
        exact ⟨_, .target target kind (.target kind there ⟨permDef, shows.schema ▸ declared⟩)⟩
  | condition =>
    rw [kind] at member
    obtain rfl := List.mem_singleton.mp member
    exact ⟨_, .plain _⟩
  | other name =>
    rw [kind] at member
    obtain rfl := List.mem_singleton.mp member
    exact ⟨_, .plain _⟩

/-- Nodes of the search that are in reach of a request are in reach of its node. -/
theorem Walker.reach_reaches (shows : w.ShowsAll world) {req sub : CheckRequest V}
    (asks : world.Asks req) (reach : w.graph.Reach req sub) :
    world.Asks sub ∧ world.Reaches req.node sub.node := by
  -- Each hop of the search is a hop of the world, made for the same subject.
  induction reach with
  | refl => exact ⟨asks, .refl⟩
  | tail _ hop ih =>
    obtain ⟨asked, reached⟩ := ih
    obtain ⟨items, branch, member⟩ := hop
    rcases Walker.branch_cases branch with ⟨permDef, declared, child, among, rfl⟩ | ⟨e, rfl⟩
    · have filed := shows.schema ▸ declared
      obtain ⟨first, shape⟩ := Walker.childItems_cases shows member
      cases shape with
      | userset subj _ _ _ opened =>
        exact ⟨asked, reached.tail ⟨permDef, filed, child, among, opened⟩⟩
      | target target _ opened =>
        exact ⟨asked, reached.tail ⟨permDef, filed, child, among, opened⟩⟩
    · simp at member

/-- The keys met at or below a request belong to nodes in reach of its node. -/
theorem Walker.meets_node (shows : w.ShowsAll world) {req : CheckRequest V} (asks : world.Asks req)
    {k : String} (met : w.graph.Meets [.node req] k) :
    ∃ node, world.Reaches req.node node ∧ world.key node = k := by
  -- A key is met at a node below the request, or as the guard of a leaf of one.
  rcases met with ⟨sub, ⟨first, member, reach⟩, rfl⟩ |
    ⟨answer, member⟩ | ⟨sub, ⟨first, member, reach⟩, items, branch, answer, inside⟩
  · obtain rfl := Item.node.inj (List.mem_singleton.mp member)
    obtain ⟨asked, reached⟩ := Walker.reach_reaches shows asks reach
    exact ⟨sub.node, reached, asked.key_eq.symm⟩
  · exact absurd member (by simp)
  · -- The guard sits at a leaf of a node further down, one hop below it.
    obtain rfl := Item.node.inj (List.mem_singleton.mp member)
    obtain ⟨asked, reached⟩ := Walker.reach_reaches shows asks reach
    rcases Walker.branch_cases branch with ⟨permDef, declared, child, among, rfl⟩ | ⟨e, rfl⟩
    · obtain ⟨first, shape⟩ := Walker.childItems_cases shows inside
      cases shape with
      | member subj _ _ _ opened =>
        have last : world.Asks (sub.userset subj) := asked
        have filed := shows.schema ▸ declared
        exact ⟨_, reached.tail ⟨permDef, filed, child, among, opened⟩, last.key_eq.symm⟩
    · simp at inside

/-- The keys an item of a child meets belong to nodes in reach of the node it opens. -/
theorem ChildItem.meets (shows : w.ShowsAll world) {req : CheckRequest V} (asks : world.Asks req)
    {child : PermissionRef} {item : RequestItem V} {opened : Option Node}
    (shape : ChildItem w world req child item opened) {k : String}
    (met : w.graph.Meets [item] k) :
    ∃ first, opened = some first ∧ world.Opens req.objectType req.objectID child first ∧
      ∃ node, world.Reaches first node ∧ world.key node = k := by
  -- Only an item that opens a node can meet a key.
  cases shape with
  | plain answer => exact absurd met (w.graph.not_meets_leaf answer k)
  | member subj _ _ _ opens =>
    have asked : world.Asks (req.userset subj) := asks
    rcases met with ⟨sub, ⟨first, inside, -⟩, -⟩ | ⟨answer, inside⟩ | ⟨sub, ⟨first, inside, -⟩, -⟩
    · simp at inside
    · simp only [List.mem_singleton, Item.leaf.injEq, Option.some.injEq] at inside
      exact ⟨_, rfl, opens, _, .refl, inside.1 ▸ asked.key_eq.symm⟩
    · simp at inside
  | userset subj _ _ _ opens =>
    have asked : world.Asks (req.userset subj) := asks
    exact ⟨_, rfl, opens, Walker.meets_node shows asked met⟩
  | target target _ opens =>
    have asked : world.Asks (req.target child.arrowPermission target) := asks
    exact ⟨_, rfl, opens, Walker.meets_node shows asked met⟩

/-- The keys a child meets belong to nodes it leads to. -/
theorem Walker.meets_leadsTo (shows : w.ShowsAll world) {req : CheckRequest V}
    (asks : world.Asks req) {child : PermissionRef} {k : String}
    (met : w.graph.Meets (w.childItems req child) k) :
    ∃ node, world.LeadsTo req.objectType req.objectID child node ∧ world.key node = k := by
  -- What a branch meets, one of its items meets.
  obtain ⟨item, member, single⟩ : ∃ item ∈ w.childItems req child, w.graph.Meets [item] k := by
    rcases met with ⟨sub, ⟨first, member, reach⟩, key⟩ |
      ⟨answer, member⟩ | ⟨sub, ⟨first, member, reach⟩, below⟩
    · exact ⟨_, member, .inl ⟨sub, ⟨first, List.mem_singleton_self _, reach⟩, key⟩⟩
    · exact ⟨_, member, .inr (.inl ⟨answer, List.mem_singleton_self _⟩)⟩
    · exact ⟨_, member, .inr (.inr ⟨sub, ⟨first, List.mem_singleton_self _, reach⟩, below⟩)⟩
  obtain ⟨opened, shape⟩ := Walker.childItems_cases shows member
  obtain ⟨first, -, opens, node, reached, key⟩ := shape.meets shows asks single
  exact ⟨node, ⟨first, opens, reached⟩, key⟩

end Graph

end ZanGuard
