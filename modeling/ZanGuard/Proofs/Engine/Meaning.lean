import ZanGuard.Lib.SearchTree
import ZanGuard.Proofs.Engine.Gates
import ZanGuard.Spec.Meaning

/-! Where nothing is reached along two ways, a check decides what the permission means. -/

namespace ZanGuard

open Search

variable {V P : Type}

/-- The children of a node lead to different nodes, and each of them does so by different ways. -/
structure World.TreeAt (world : World V P) (node : Node) : Prop where
  separate : ∀ permDef, world.schema.getPermission node.type node.permission = .ok permDef →
    world.Separate node permDef.children
  unshared : ∀ permDef, world.schema.getPermission node.type node.permission = .ok permDef →
    ∀ child ∈ permDef.children, ∀ first second, world.Opens node.type node.id child first →
      world.Opens node.type node.id child second → first ≠ second →
        ∀ n m, world.Reaches first n → world.Reaches second m → world.key n ≠ world.key m

/-- No node that a node reaches is reached along two ways, and none reaches itself. -/
def World.Tree (world : World V P) (root : Node) : Prop :=
  ∀ node, world.Reaches root node → world.TreeAt node

section Walker

variable {w : Walker V P} {world : World V P}

/-- Two nodes that a child contributes to the search are one if their nodes of the world are. -/
theorem Walker.childItems_node (shows : w.ShowsAll world) {req : CheckRequest V}
    {child : PermissionRef} {first second : CheckRequest V}
    (one : Item.node first ∈ w.childItems req child) (two : Item.node second ∈ w.childItems req child)
    (same : first.node = second.node) : first = second := by
  obtain ⟨_, shape⟩ := Walker.childItems_cases shows one
  obtain ⟨_, shape'⟩ := Walker.childItems_cases shows two
  -- The kind of the child decides whether the context is carried on.
  cases shape with
  | userset subj kind _ _ _ =>
    cases shape' with
    | userset subj' _ _ _ _ =>
      obtain ⟨type, id, relation⟩ := subj
      obtain ⟨type', id', relation'⟩ := subj'
      obtain ⟨rfl, rfl, rfl⟩ := Node.mk.inj same
      rfl
    | target target' kind' _ => cases kind.symm.trans kind'
  | target target kind _ =>
    cases shape' with
    | userset subj' kind' _ _ _ => cases kind.symm.trans kind'
    | target target' _ _ =>
      obtain ⟨type, id⟩ := target
      obtain ⟨type', id'⟩ := target'
      obtain ⟨rfl, rfl, -⟩ := Node.mk.inj same
      rfl

/-- A tree of the world is searched as a tree. -/
theorem Walker.treeAt (shows : w.ShowsAll world) {req : CheckRequest V} (asks : world.Asks req)
    (tree : world.TreeAt req.node) : w.graph.TreeAt req := by
  have branches := w.branches_cases req
  rcases branches with ⟨permDef, declared, branches⟩ | ⟨e, branches⟩
  · have filed := shows.schema ▸ declared
    refine ⟨?_, fun items branch => ?_⟩
    · rw [branches]
      exact Walker.apart_of_separate shows asks (tree.separate permDef filed)
    · rw [branches] at branch
      obtain ⟨child, among, rfl⟩ := List.mem_map.mp branch
      intro one member two member' differ k marked met
      obtain ⟨opened, shape⟩ := Walker.childItems_cases shows member
      obtain ⟨opened', shape'⟩ := Walker.childItems_cases shows member'
      obtain ⟨first, named, opens, n, reached, key⟩ := shape.meets shows asks (.inl marked)
      obtain ⟨second, named', opens', m, reached', key'⟩ := shape'.meets shows asks met
      by_cases same : first = second
      · -- Only nodes leave a mark, and there is one item for each.
        obtain ⟨last, ⟨sub, inside, -⟩, -⟩ := marked
        obtain rfl := List.mem_singleton.mp inside
        subst same
        cases shape' with
        | plain answer => cases named'
        | member subj kind' e undeclared opens' =>
          obtain rfl := Option.some.inj named'
          cases shape with
          | userset subj' kind permDef declared _ =>
            obtain ⟨typed, -, related⟩ := Node.mk.inj (Option.some.inj named)
            have twice := undeclared
            rw [show subj.type = subj'.type from typed.symm,
              show subj.relation = subj'.relation from related.symm, declared] at twice
            cases twice
          | target target kind _ => cases kind.symm.trans kind'
        | userset subj kind' permDef declared _ =>
          have there := Option.some.inj named'
          refine differ (congrArg Item.node (Walker.childItems_node shows member member' ?_))
          cases shape with
          | userset _ _ _ _ _ => exact (Option.some.inj named).trans there.symm
          | target _ _ _ => exact (Option.some.inj named).trans there.symm
        | target target kind' _ =>
          have there := Option.some.inj named'
          refine differ (congrArg Item.node (Walker.childItems_node shows member member' ?_))
          cases shape with
          | userset _ _ _ _ _ => exact (Option.some.inj named).trans there.symm
          | target _ _ _ => exact (Option.some.inj named).trans there.symm
      · exact tree.unshared permDef filed child among first second opens opens' same n m reached
          reached' (key.trans key'.symm)
  · -- A branch that only reports an error meets nothing.
    have nothing : ∀ items ∈ (w.graph.rule req).branches, ∀ k, ¬ w.graph.Meets items k := by
      intro items branch k
      rw [branches] at branch
      obtain rfl := List.mem_singleton.mp branch
      exact w.graph.not_meets_leaf _ k
    refine ⟨⟨fun items branch k met => absurd met (nothing items branch k), ?_⟩, ?_⟩
    · rw [branches]
      exact List.pairwise_singleton _ _
    · intro items branch one member two member' _ k _ met
      exact nothing items branch k (met.of_item member')

/-- The verdicts of the world, as a relation on the nodes of the search. -/
def World.decides (world : World V P) (req : CheckRequest V) (verdict : Bool) : Prop :=
  world.Verdict req.context req.node verdict

/-- A direct membership test that was answered tells whether the world relates the two. -/
theorem Walker.directAnswer_decides (shows : w.ShowsAll world) {req : CheckRequest V}
    (asks : world.Asks req) {type id relation : String} {out : Option (List String)}
    (answered : w.directAnswer req type id relation = .ok out) :
    world.Direct type id relation ↔ out.isSome = true := by
  unfold Walker.directAnswer at answered
  rw [asks.1, asks.2] at answered
  cases tested : w.store.checkDirect 0 type id relation world.subjectType world.subjectID with
  | error e =>
    rw [tested] at answered
    cases answered
  | ok member =>
    rw [tested] at answered
    rw [shows.direct 0 type id relation member tested]
    cases member <;> (obtain rfl := Except.ok.inj answered; rfl)

/-- What the item of a subject decides is the verdict on the userset. -/
theorem Walker.subjectItems_decides (shows : w.ShowsAll world) {req : CheckRequest V}
    (asks : world.Asks req) {type id relation : String} {listed : List SubjectRef}
    (answered : w.store.listSubjects 0 type id relation = .ok listed) {subj : SubjectRef}
    {item : RequestItem V} (member : item ∈ w.subjectItems req subj) {verdict : Bool}
    (decided : item.Decided world.decides verdict) :
    subj.relation ≠ "" ∧ world.UsersetVerdict world.Verdict subj verdict := by
  unfold Walker.subjectItems at member
  split at member
  · cases member
  · rename_i nonempty
    refine ⟨nonempty, ?_⟩
    split at member
    · rename_i e undeclared
      obtain rfl := List.mem_singleton.mp member
      obtain ⟨out, same, rfl⟩ := decided
      have undeclared' : ¬ world.Declares subj.type subj.relation := by
        rintro ⟨permDef, declared⟩
        rw [shows.schema, undeclared] at declared
        cases declared
      refine .inr ⟨undeclared', ?_⟩
      -- A membership test that fails counts as one that finds nothing.
      unfold Walker.memberAnswer at same
      cases tested : w.directAnswer req subj.type subj.id subj.relation with
      | ok found =>
        rw [tested] at same
        obtain rfl := Except.ok.inj same
        exact Walker.directAnswer_decides shows asks tested
      | error e =>
        rw [tested] at same
        obtain rfl := Except.ok.inj same
        refine iff_of_false (shows.member 0 type id relation listed answered 0 _ _ _ ?_)
          Bool.false_ne_true
        intro yes
        rw [Walker.directAnswer, asks.1, asks.2, yes] at tested
        cases tested
    · rename_i permDef declared
      obtain rfl := List.mem_singleton.mp member
      exact .inl ⟨⟨permDef, shows.schema ▸ declared⟩, decided⟩

/-- A gate that was evaluated has the verdict of its program. -/
theorem Walker.conditionAnswer_decides (reads : w.Reads world) {req : CheckRequest V}
    (asks : world.Asks req) {cond : ConditionExpr P} {program : P}
    (compiled : cond.compiled = some program) {verdict : Bool}
    (answered : w.conditionAnswer req cond = .ok verdict) :
    world.EvaluatesTo program req.objectType req.objectID req.context verdict := by
  unfold Walker.conditionAnswer at answered
  -- The attributes the program is run over are those of the world.
  rw [compiled] at answered
  simp only [asks.1, asks.2, reads.objectAttrs, reads.subjectAttrs, ← reads.lang] at answered
  cases ran : world.lang.run program _ with
  | error cause =>
    rw [ran] at answered
    cases answered
  | ok value =>
    rw [ran] at answered
    simp only at answered
    cases truth : world.lang.asBool value with
    | error typeName =>
      rw [truth] at answered
      cases answered
    | ok allowed =>
      rw [truth] at answered
      obtain rfl := Except.ok.inj answered
      exact ⟨value, ran, truth⟩

/-- An inline condition that was answered has the verdict of the program it compiles to. -/
theorem Walker.inlineAnswer_decides (shows : w.ShowsAll world) {req : CheckRequest V}
    (asks : world.Asks req) {expr : String} {out : Option (List String)}
    (answered : w.inlineAnswer req expr = .ok out) :
    ∃ program, world.lang.compile (trimSpace expr) = .ok program ∧
      world.EvaluatesTo program req.objectType req.objectID req.context out.isSome := by
  unfold Walker.inlineAnswer compileConditionExpr compileCondition at answered
  simp only at answered
  cases compiled : w.lang.compile (trimSpace expr) with
  | error cause =>
    rw [compiled] at answered
    cases answered
  | ok program =>
    rw [compiled] at answered
    simp only at answered
    cases truth : w.conditionAnswer req { raw := expr, compiled := some program } with
    | error e =>
      rw [truth] at answered
      cases answered
    | ok allowed =>
      rw [truth] at answered
      obtain rfl := Except.ok.inj answered
      refine ⟨program, by rw [shows.lang, compiled], ?_⟩
      have value := Walker.conditionAnswer_decides shows.toReads asks rfl truth
      cases allowed <;> exact value

/-- What the branch of a child decides is the verdict on the child. -/
theorem Walker.childItems_decides (shows : w.ShowsAll world) {req : CheckRequest V}
    (asks : world.Asks req) {child : PermissionRef} {verdict : Bool}
    (decided : BranchDecided world.decides (w.childItems req child) verdict) :
    world.ChildVerdict world.Verdict req.context req.objectType req.objectID child verdict := by
  unfold Walker.childItems at decided
  unfold World.ChildVerdict
  cases kind : child.kind with
  | relation =>
    rw [kind] at decided
    cases listed : w.store.listSubjects 0 req.objectType req.objectID child.relationRef with
    | error e =>
      rw [listed] at decided
      cases verdict with
      | true =>
        -- Without a list of subjects, only the direct test can have granted.
        obtain ⟨item, member, said⟩ := decided
        rcases List.mem_cons.mp member with rfl | member
        · obtain ⟨out, same, granted⟩ := said
          exact .inl ((Walker.directAnswer_decides shows asks same).mpr granted)
        · obtain rfl := List.mem_singleton.mp member
          obtain ⟨out, same, -⟩ := said
          cases same
      | false =>
        obtain ⟨out, same, -⟩ := decided _ (List.mem_cons_of_mem _ (List.mem_singleton_self _))
        cases same
    | ok subjects =>
      rw [listed] at decided
      have there := shows.subjects 0 _ _ _ subjects listed
      cases verdict with
      | true =>
        obtain ⟨item, member, said⟩ := decided
        rcases List.mem_cons.mp member with rfl | member
        · obtain ⟨out, same, granted⟩ := said
          exact .inl ((Walker.directAnswer_decides shows asks same).mpr granted)
        · obtain ⟨subj, among, inside⟩ := List.mem_flatMap.mp member
          obtain ⟨nonempty, held⟩ := Walker.subjectItems_decides shows asks listed inside said
          exact .inr ⟨subj, (there subj).mpr among, nonempty, held⟩
      | false =>
        obtain ⟨out, same, refused⟩ := decided _ List.mem_cons_self
        refine ⟨?_, fun subj related nonempty => ?_⟩
        · rw [Walker.directAnswer_decides shows asks same, refused]
          exact Bool.false_ne_true
        · have among := (there subj).mp related
          -- A subject with a relation contributes one item.
          obtain ⟨item, inside⟩ : ∃ item, item ∈ w.subjectItems req subj := by
            unfold Walker.subjectItems
            rw [if_neg nonempty]
            split <;> exact ⟨_, List.mem_singleton_self _⟩
          exact (Walker.subjectItems_decides shows asks listed inside
            (decided item (List.mem_cons_of_mem _
              (List.mem_flatMap.mpr ⟨subj, among, inside⟩)))).2
  | arrow =>
    rw [kind] at decided
    cases listed : w.store.listRelatedObjects 0 req.objectType req.objectID child.arrowRef with
    | error e =>
      rw [listed] at decided
      obtain ⟨out, same, -⟩ := branchDecided_leaf decided
      cases same
    | ok targets =>
      rw [listed] at decided
      have there := shows.related 0 _ _ _ targets listed
      cases verdict with
      | true =>
        obtain ⟨item, member, said⟩ := decided
        obtain ⟨target, among, inside⟩ := List.mem_flatMap.mp member
        unfold Walker.targetItems at inside
        split at inside
        · cases inside
        · rename_i permDef declared
          obtain rfl := List.mem_singleton.mp inside
          exact ⟨target, (there target).mpr among, ⟨permDef, shows.schema ▸ declared⟩, said⟩
      | false =>
        rintro target related ⟨permDef, declared⟩
        have among := (there target).mp related
        have inside : Item.node (req.target child.arrowPermission target) ∈
            w.targetItems req child.arrowPermission target := by
          rw [shows.schema] at declared
          simp only [Walker.targetItems, declared, List.mem_singleton]
        exact decided _ (List.mem_flatMap.mpr ⟨target, among, inside⟩)
  | condition =>
    rw [kind] at decided
    obtain ⟨out, same, rfl⟩ := branchDecided_leaf decided
    exact Walker.inlineAnswer_decides shows asks same
  | other name =>
    rw [kind] at decided
    obtain ⟨out, same, -⟩ := branchDecided_leaf decided
    cases same

/-- What the rule of a request decides is the verdict on its node. -/
theorem Walker.rule_decides (shows : w.ShowsAll world) {req : CheckRequest V}
    (asks : world.Asks req) {verdict : Bool}
    (decided : (w.graph.rule req).Decided world.decides verdict) : world.decides req verdict := by
  simp only [Walker.graph] at decided
  cases declared : w.schema.getPermission req.objectType req.permission with
  | error e =>
    -- A node without a permission fails, and has no verdict.
    rw [declared] at decided
    exact absurd decided Rule.not_decided_failing
  | ok permDef =>
    refine World.verdict_iff.mpr ⟨permDef, shows.schema ▸ declared, ?_⟩
    have child : ∀ child verdict, BranchDecided world.decides (w.childItems req child) verdict →
        world.ChildVerdict world.Verdict req.context req.objectType req.objectID child verdict :=
      fun _ _ => Walker.childItems_decides shows asks
    simp only [declared, Walker.permissionRule] at decided
    unfold World.PermissionVerdict
    cases operation : permDef.operation with
    | union | direct =>
      rw [operation] at decided
      cases verdict with
      | true =>
        obtain ⟨items, among, said⟩ := decided
        obtain ⟨one, member, rfl⟩ := List.mem_map.mp among
        exact ⟨one, member, child one true said⟩
      | false =>
        exact fun one member => child one false (decided _ (List.mem_map_of_mem member))
    | intersect =>
      rw [operation] at decided
      cases verdict with
      | true =>
        refine ⟨fun empty => decided.1 (by rw [empty]; rfl), fun one member => ?_⟩
        exact child one true (decided.2 _ (List.mem_map_of_mem member))
      | false =>
        rcases decided with empty | ⟨items, among, said⟩
        · exact .inl (List.map_eq_nil_iff.mp empty)
        · obtain ⟨one, member, rfl⟩ := List.mem_map.mp among
          exact .inr ⟨one, member, child one false said⟩
    | exclusion =>
      rw [operation] at decided
      cases children : permDef.children with
      | nil =>
        rw [children] at decided
        cases verdict with
        | true =>
          obtain ⟨items, among, -⟩ := decided
          cases among
        | false => rfl
      | cons base excluded =>
        rw [children] at decided
        cases verdict with
        | true =>
          refine ⟨child base true decided.1, fun one member => ?_⟩
          exact child one false (decided.2 _ (List.mem_map_of_mem member))
        | false =>
          rcases decided with refused | ⟨items, among, said⟩
          · exact .inl (child base false refused)
          · obtain ⟨one, member, rfl⟩ := List.mem_map.mp among
            exact .inr ⟨one, member, child one true said⟩
    | other code =>
      rw [operation] at decided
      exact absurd decided Rule.not_decided_failing

/-- The walk of a tree, from nothing visited, returns the verdict. -/
theorem Walker.permissionAt_decides (steady : w.store.Steady) (shows : w.ShowsAll world)
    {req : CheckRequest V} (asks : world.Asks req) (tree : world.Tree req.node)
    {permDef : PermissionDef P}
    (declared : w.schema.getPermission req.objectType req.permission = .ok permDef)
    {walked : CheckResult} {after : WalkState}
    (ran : (w.permissionAt 0 req permDef).from .start = (.ok walked, after)) :
    world.Verdict req.context req.node walked.allowed := by
  have matched := walkPermission_matches steady (w.hopsAt 0) req permDef .start declared
  have run : (walkPermission w (w.hopsAt 0) req permDef).from .start = (.ok walked, after) := ran
  rw [run] at matched
  rcases found : walk w.graph (w.hopsAt 0) req WalkState.start.visited.keys with ⟨answer, v⟩
  rw [found] at matched
  obtain rfl : answer = .ok walked.evidence := matched.answered
  have decided : world.decides req walked.evidence.isSome := by
    refine walk_decided (w.hopsAt 0) ?_ ?_ (fun k _ => List.not_mem_nil) found
    · intro sub reach
      obtain ⟨asked, reached⟩ := Walker.reach_reaches shows asks reach
      exact Walker.treeAt shows asked (tree sub.node reached)
    · intro sub verdict reach said
      exact Walker.rule_decides shows (Walker.reach_reaches shows asks reach).1 said
  -- The evidence is there exactly when the result grants.
  have granted : walked.evidence.isSome = walked.allowed := by
    rcases walked.evidence_cases with ⟨allowed, shown⟩ | ⟨refused, shown⟩
    · rw [shown, allowed]
      rfl
    · rw [shown, refused]
      rfl
  rw [granted] at decided
  exact decided

end Walker

/--
On data in which no node is reached along two ways, a check decides what the permission means.

The meaning gives unions, intersections and exclusions their truth tables, at every level, and a
grant also takes the condition that gates the requested permission.
-/
theorem check_decides_verdict (e : Engine P) (lang : ExprLang V P) (s : Memory.Store V)
    (tc : TenantContext V) (clock : Memory.Clock) (now : Time) (req : CheckRequest V)
    {cs : CompiledSchema P} {result : CheckResult}
    (quiet : s.Quiet tc.tenantID clock now) (chosen : e.schemaForTenant tc = .ok cs)
    (tree : (s.world tc lang cs now req.subjectType req.subjectID).Tree req.node)
    (checked : e.check lang (s.lookups (some tc) clock) (some tc) req = .ok result) :
    let world := s.world tc lang cs now req.subjectType req.subjectID
    (∃ verdict, world.Verdict req.context req.node verdict) ∧
      (result.allowed = true ↔ world.Verdict req.context req.node true ∧
        world.GateOpen req.objectType req.objectID req.permission req.context) := by
  intro world
  have shows : (e.walker lang (s.lookups (some tc) clock) cs).ShowsAll world :=
    s.showsAll tc e lang cs quiet req.subjectType req.subjectID
  have asks : world.Asks req := ⟨rfl, rfl⟩
  obtain ⟨-, after, ran⟩ := Engine.check_ok chosen checked
  obtain ⟨permDef, walked, mid, declared, walk, outcome⟩ := Walker.check_ok ran
  have verdict := Walker.permissionAt_decides quiet.steady shows asks tree declared walk
  refine ⟨⟨_, verdict⟩, ?_⟩
  -- A node has one verdict, and it is the one the walk found.
  have granted : walked.allowed = true ↔ world.Verdict req.context req.node true := by
    cases allowed : walked.allowed with
    | true =>
      rw [allowed] at verdict
      exact iff_of_true rfl verdict
    | false =>
      rw [allowed] at verdict
      exact iff_of_false Bool.false_ne_true fun known => known.exclusive verdict
  rw [← granted]
  rcases outcome with ⟨allowed, -⟩ | ⟨-, rfl, -⟩
  · have gate := Walker.check_granted_iff_gate quiet.steady shows.toReads asks declared walk allowed
    rw [ran] at gate
    exact gate.trans (and_iff_right allowed).symm
  · refine ⟨fun allowed => ⟨allowed, ?_⟩, fun both => both.1⟩
    have gate := Walker.check_granted_iff_gate quiet.steady shows.toReads asks declared walk allowed
    rw [ran] at gate
    exact gate.mp allowed

/-- A document with a folder of its own for each arrow is the root of a tree. -/
theorem ownFolders_tree :
    (layeredWorld ownFolders (twoFolderSchema .exclusion)).Tree docRequest.node := by
  have layered : Layered ownFolders := by
    unfold Layered
    decide
  have users : (twoFolderSchema .exclusion).types.lookup "user" = none := rfl
  intro node reached
  rcases Relation.ReflTransGen.cases_head reached with rfl | ⟨next, ⟨_, _, child, _, opened⟩, below⟩
  · refine ⟨fun permDef declared => ?_, fun permDef declared child among first second one two differ => ?_⟩
    · obtain rfl := Except.ok.inj declared
      exact layered_separate layered users (by decide) (by decide)
    · -- Each arrow leads to one folder only.
      obtain ⟨t, stored, -, relation, rfl⟩ := layered_opens layered users one
      obtain ⟨u, kept, -, relation', rfl⟩ := layered_opens layered users two
      have alone : ∀ t ∈ ownFolders, ∀ u ∈ ownFolders, t.relation = u.relation → t = u := by decide
      exact absurd (by rw [alone t stored u kept (relation.trans relation'.symm)]) differ
  · obtain ⟨t, -, -, -, rfl⟩ := layered_opens layered users opened
    obtain rfl := layered_reaches layered users below
    have nothing : ∀ child last, ¬ (layeredWorld ownFolders (twoFolderSchema .exclusion)).Opens
        "folder" t.subjectID child last := by
      intro child last one
      obtain ⟨-, -, doc, -⟩ := layered_opens layered users one
      exact absurd doc (by decide)
    refine ⟨fun permDef declared => ⟨?_, ?_⟩, fun permDef declared child _ first _ one => ?_⟩
    · rintro child - last ⟨first, one, -⟩
      exact absurd one (nothing child first)
    · refine List.pairwise_of_forall fun child _ => ?_
      rintro n m ⟨first, one, -⟩
      exact absurd one (nothing child first)
    · exact absurd one (nothing child first)

/-- The document may be viewed: one folder grants and the excluded one refuses. -/
theorem check_decides_verdict_ownFolders :
    (layeredWorld ownFolders (twoFolderSchema .exclusion)).Verdict none docRequest.node true := by
  have decided := check_decides_verdict (acmeEngine (twoFolderSchema .exclusion) 25) literalLang
    (acmeStore ownFolders) acme (fun _ => 0) 0 docRequest (fun _ _ _ => rfl) rfl ownFolders_tree
    (show _ = Except.ok (allow []) from rfl)
  exact (decided.2.mp rfl).1

end ZanGuard
