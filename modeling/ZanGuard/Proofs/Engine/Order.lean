import ZanGuard.Lib.SearchOrder
import ZanGuard.Proofs.Engine.Congruence
import ZanGuard.Proofs.Engine.Siblings
import ZanGuard.Proofs.Storage.Live

/-! What the order of stored tuples can decide in a check, and what it cannot. -/

namespace ZanGuard

open Search

variable {V P : Type}

/-- Two answers with the same error, or with the same values in another order. -/
def Permuted {α : Type} : Except Err (List α) → Except Err (List α) → Prop
  | .ok list, .ok other => list.Perm other
  | .error e, .error other => e = other
  | _, _ => False

/-- Permuted answers are one error or two orders of one list. -/
theorem Permuted.cases {α : Type} {answer other : Except Err (List α)}
    (permuted : Permuted answer other) :
    (∃ e, answer = .error e ∧ other = .error e) ∨
      ∃ list list', answer = .ok list ∧ other = .ok list' ∧ list.Perm list' := by
  rcases answer with e | list <;> rcases other with e' | list'
  · obtain rfl : e = e' := permuted
    exact .inl ⟨e, rfl, rfl⟩
  · exact permuted.elim
  · exact permuted.elim
  · exact .inr ⟨list, list', rfl, rfl, permuted⟩

/-- Two stores that differ in the order of what they list. -/
structure Lookups.Reordered (store other : Lookups V) : Prop where
  checkDirect : store.checkDirect 0 = other.checkDirect 0
  listSubjects : ∀ type id relation,
    Permuted (store.listSubjects 0 type id relation) (other.listSubjects 0 type id relation)
  listRelatedObjects : ∀ type id relation,
    Permuted (store.listRelatedObjects 0 type id relation)
      (other.listRelatedObjects 0 type id relation)
  getObjectAttributes : store.getObjectAttributes 0 = other.getObjectAttributes 0
  getSubjectAttributes : store.getSubjectAttributes 0 = other.getSubjectAttributes 0

section Graph

variable {w : Walker V P} {other : Lookups V}

/-- A child opens the same items over a reordered store. -/
theorem Walker.childItems_same (reordered : w.store.Reordered other) (req : CheckRequest V)
    (child : PermissionRef) :
    SameItems (w.childItems req child) ((w.on other).childItems req child) := by
  -- Leaves are answered by lookups that do not list anything.
  have direct : ∀ type id relation,
      (w.on other).directAnswer req type id relation = w.directAnswer req type id relation := by
    intro type id relation
    simp only [Walker.directAnswer, Walker.on, reordered.checkDirect]
  have subjects : (w.on other).subjectItems req = w.subjectItems req := by
    funext subj
    simp only [Walker.subjectItems, Walker.memberAnswer, direct]
    rfl
  unfold Walker.childItems
  cases child.kind with
  | relation =>
    have listed := reordered.listSubjects req.objectType req.objectID child.relationRef
    rcases listed.cases with ⟨e, here, there⟩ | ⟨list, list', here, there, perm⟩
    · simp only [direct, show (w.on other).store = other from rfl, here, there]
      exact SameItems.refl _
    · simp only [direct, subjects, show (w.on other).store = other from rfl, here, there]
      intro item
      rw [List.mem_cons, List.mem_cons, (perm.flatMap_right _).mem_iff]
  | arrow =>
    have listed := reordered.listRelatedObjects req.objectType req.objectID child.arrowRef
    rcases listed.cases with ⟨e, here, there⟩ | ⟨list, list', here, there, perm⟩
    · simp only [Walker.on, here, there]
      exact SameItems.refl _
    · simp only [Walker.on, here, there]
      intro item
      exact (perm.flatMap_right _).mem_iff
  | condition =>
    have inline : (w.on other).inlineAnswer req = w.inlineAnswer req := by
      funext expr
      simp only [Walker.inlineAnswer, Walker.conditionAnswer, Walker.on,
        reordered.getObjectAttributes, reordered.getSubjectAttributes]
    simp only [inline]
    exact SameItems.refl _
  | other name => exact SameItems.refl _

/-- The children of a permission open the same branches over a reordered store. -/
theorem Walker.branches_same (reordered : w.store.Reordered other) (req : CheckRequest V)
    (children : List PermissionRef) :
    SameBranches (children.map (w.childItems req))
      (children.map ((w.on other).childItems req)) := by
  -- A child is the same on both sides, and its branch differs in the order of items only.
  constructor
  · intro items among
    obtain ⟨child, member, rfl⟩ := List.mem_map.mp among
    exact ⟨_, List.mem_map_of_mem member, Walker.childItems_same reordered req child⟩
  · intro items among
    obtain ⟨child, member, rfl⟩ := List.mem_map.mp among
    exact ⟨_, List.mem_map_of_mem member, Walker.childItems_same reordered req child⟩

/-- Every request has the same rule over a reordered store, up to the order of items. -/
theorem Walker.rule_reordered (reordered : w.store.Reordered other) (req : CheckRequest V) :
    (w.graph.rule req).Reordered ((w.on other).graph.rule req) := by
  -- The schema decides the operator, and it is the same on both sides.
  have schema : (w.on other).schema = w.schema := rfl
  simp only [Walker.graph, schema]
  cases w.schema.getPermission req.objectType req.permission with
  | error e => exact .any (SameBranches.refl _)
  | ok permDef =>
    simp only [Walker.permissionRule]
    cases permDef.operation with
    | union | direct => exact .any (Walker.branches_same reordered req _)
    | intersect => exact .all (Walker.branches_same reordered req _)
    | exclusion =>
      cases permDef.children with
      | nil => exact .any (SameBranches.refl _)
      | cons base excluded =>
        exact .butNot (Walker.childItems_same reordered req base)
          (Walker.branches_same reordered req excluded)
    | other code => exact .any (SameBranches.refl _)

end Graph

/-- No visit key is reached along two different ways from a node. -/
structure World.Treelike (world : World V P) (root : Node) : Prop where
  separate : ∀ node permDef, world.Reaches root node →
    world.schema.getPermission node.type node.permission = .ok permDef →
      world.Separate node permDef.children
  opened : ∀ node permDef, world.Reaches root node →
    world.schema.getPermission node.type node.permission = .ok permDef →
      ∀ child ∈ permDef.children, ∀ n m, world.Opens node.type node.id child n →
        world.Opens node.type node.id child m → n ≠ m →
          ∀ far deep, world.Reaches n far → world.Reaches m deep → world.key far ≠ world.key deep

section Tree

variable {w : Walker V P} {world : World V P}

/-- Two items of a child that open the same node are the same item. -/
theorem ChildItem.unique {req : CheckRequest V} {child : PermissionRef} {a b : RequestItem V}
    {node : Node} (first : ChildItem w world req child a (some node))
    (second : ChildItem w world req child b (some node)) : a = b := by
  -- A node opened by a userset names it, and one opened by an arrow names the target.
  have usersets : ∀ subj subj' : SubjectRef,
      (req.userset subj).node = (req.userset subj').node → subj = subj' := by
    rintro ⟨type, id, relation⟩ ⟨type', id', relation'⟩ same
    simpa [CheckRequest.userset, CheckRequest.node] using same
  have targets : ∀ target target' : ObjectRef, (req.target child.arrowPermission target).node =
      (req.target child.arrowPermission target').node → target = target' := by
    rintro ⟨type, id⟩ ⟨type', id'⟩ same
    simpa [CheckRequest.target, CheckRequest.node] using same
  -- The kind of the child and the schema decide which constructor an opened node belongs to.
  generalize opened : some node = other at second
  cases first with
  | member subj kind e undeclared _ =>
    cases second with
    | plain answer => cases opened
    | member subj' _ _ _ _ =>
      obtain rfl := usersets subj subj' (Option.some.inj opened)
      rfl
    | userset subj' _ permDef declared _ =>
      obtain rfl := usersets subj subj' (Option.some.inj opened)
      rw [undeclared] at declared
      cases declared
    | target target kind' _ =>
      rw [kind] at kind'
      cases kind'
  | userset subj kind permDef declared _ =>
    cases second with
    | plain answer => cases opened
    | member subj' _ e undeclared _ =>
      obtain rfl := usersets subj subj' (Option.some.inj opened)
      rw [undeclared] at declared
      cases declared
    | userset subj' _ _ _ _ =>
      obtain rfl := usersets subj subj' (Option.some.inj opened)
      rfl
    | target target kind' _ =>
      rw [kind] at kind'
      cases kind'
  | target target kind _ =>
    cases second with
    | plain answer => cases opened
    | member subj' kind' _ _ _ | userset subj' kind' _ _ _ =>
      rw [kind] at kind'
      cases kind'
    | target target' _ _ =>
      obtain rfl := targets target target' (Option.some.inj opened)
      rfl

/-- The items of a child meet no common key when the nodes it opens do not. -/
theorem Walker.childItems_loose (shows : w.ShowsAll world) {req : CheckRequest V}
    (asks : world.Asks req) {child : PermissionRef}
    (apart : ∀ n m, world.Opens req.objectType req.objectID child n →
      world.Opens req.objectType req.objectID child m → n ≠ m →
        ∀ far deep, world.Reaches n far → world.Reaches m deep → world.key far ≠ world.key deep) :
    w.graph.Loose (w.childItems req child) := by
  intro a first b second
  obtain ⟨opened, shape⟩ := Walker.childItems_cases shows first
  obtain ⟨opened', shape'⟩ := Walker.childItems_cases shows second
  -- Equal items are allowed to meet the same keys, so let the items differ.
  by_cases same : a = b
  · exact .inl same
  · right
    intro k marked met
    obtain ⟨n, rfl, opens, far, reached, rfl⟩ := shape.meets shows asks (.inl marked)
    obtain ⟨m, rfl, opens', deep, reached', key⟩ := shape'.meets shows asks met
    -- Different items open different nodes, below which the keys differ.
    have differ : n ≠ m := by
      rintro rfl
      exact same (shape.unique shape')
    exact apart n m opens opens' differ far deep reached reached' key.symm

/-- Where the world is treelike, so is the graph of the search. -/
theorem Walker.graph_treelike (shows : w.ShowsAll world) {req : CheckRequest V}
    (asks : world.Asks req) (tree : world.Treelike req.node) : w.graph.Treelike req where
  apart := by
    intro sub reach
    obtain ⟨asked, reached⟩ := Walker.reach_reaches shows asks reach
    rcases w.branches_cases sub with ⟨permDef, declared, all⟩ | ⟨e, only⟩
    · rw [all]
      exact Walker.apart_of_separate shows asked
        (tree.separate sub.node permDef reached (shows.schema ▸ declared))
    · -- A branch that only reports an error meets nothing.
      rw [only]
      refine ⟨?_, List.pairwise_singleton _ _⟩
      intro items among k met
      obtain rfl := List.mem_singleton.mp among
      exact absurd met (w.graph.not_meets_leaf _ k)
  loose := by
    intro sub reach items branch
    obtain ⟨asked, reached⟩ := Walker.reach_reaches shows asks reach
    rcases Walker.branch_cases branch with ⟨permDef, declared, child, among, rfl⟩ | ⟨e, rfl⟩
    · exact Walker.childItems_loose shows asked
        (tree.opened sub.node permDef reached (shows.schema ▸ declared) child among)
    · intro a first b second
      exact .inl ((List.mem_singleton.mp first).trans (List.mem_singleton.mp second).symm)

/-- On treelike worlds, two walks over reordered stores that return decide alike. -/
theorem Walker.permissionAt_reordered {other : Lookups V} (steady : w.store.Steady)
    (steady' : other.Steady) (reordered : w.store.Reordered other) (shows : w.ShowsAll world)
    (shows' : (w.on other).ShowsAll world) {req : CheckRequest V} (asks : world.Asks req)
    (tree : world.Treelike req.node) {permDef : PermissionDef P}
    (declared : w.schema.getPermission req.objectType req.permission = .ok permDef)
    {walked walked' : CheckResult} {after after' : WalkState}
    (ran : (w.permissionAt 0 req permDef).from .start = (.ok walked, after))
    (ran' : ((w.on other).permissionAt 0 req permDef).from .start = (.ok walked', after')) :
    walked.allowed = walked'.allowed := by
  -- Each walk is a search of its own graph, told by its evidence.
  have told : ∀ {v : Walker V P} {result : CheckResult} {end_ : WalkState}, v.store.Steady →
      v.schema.getPermission req.objectType req.permission = .ok permDef →
      (v.permissionAt 0 req permDef).from .start = (.ok result, end_) →
        Answers (walk v.graph (v.hopsAt 0) req []).1 result.allowed := by
    intro v result end_ steady declared ran
    have matched := walkPermission_matches steady (v.hopsAt 0) req permDef .start declared
    unfold Walker.permissionAt at ran
    rw [ran] at matched
    refine ⟨result.evidence, matched.answered, ?_⟩
    unfold CheckResult.evidence
    cases result.allowed <;> rfl
  exact walk_reordered (w.hopsAt 0) (Walker.rule_reordered reordered)
    (Walker.graph_treelike shows asks tree) (Walker.graph_treelike shows' asks tree)
    (told steady declared ran) (told (v := w.on other) steady' declared ran')

end Tree

section Unions

variable {w : Walker V P} {world : World V P}

/-- A walk that is shown every fact of a world is shown nothing but its facts. -/
theorem Walker.ShowsAll.shows (all : w.ShowsAll world) : w.Shows world where
  toReads := all.toReads
  direct n type id relation tested := (all.direct n type id relation true tested).mpr rfl
  subjects n type id relation listed found subj member :=
    (all.subjects n type id relation listed found subj).mpr member
  related n type id relation listed found target member :=
    (all.related n type id relation listed found target).mpr member

/-- Over unions, a walk that returns grants exactly what derives. -/
theorem Walker.permissionAt_iff_derives (shows : w.ShowsAll world) {req : CheckRequest V}
    (asks : world.Asks req) (unions : w.schema.UnionOnly) (blind : w.schema.IgnoresRequest w.lang)
    (distinct : world.DistinctKeys req.node) {permDef : PermissionDef P}
    (declared : w.schema.getPermission req.objectType req.permission = .ok permDef)
    {walked : CheckResult} {after : WalkState}
    (ran : (w.permissionAt 0 req permDef).from .start = (.ok walked, after)) :
    walked.allowed = true ↔ world.Derives req.node := by
  -- Unions subtract nothing, so a grant has a derivation.
  have plain : w.schema.NoExclusion := by
    intro type typed permission filed operation
    rcases unions type typed permission filed with union | direct
    · rw [operation] at union
      cases union
    · rw [operation] at direct
      cases direct
  constructor
  · intro allowed
    exact walkPermission_sound shows.shows plain blind _ req permDef _ walked after asks declared
      ran allowed
  · intro derives
    cases verdict : walked.allowed with
    | true => rfl
    | false =>
      exact absurd derives
        (Walker.refused_underivable asks shows distinct unions blind declared ran verdict)

end Unions

/-- Two checks whose walks decide alike, over the same attributes, decide alike. -/
theorem Walker.check_agrees {w w' : Walker V P} {world : World V P} (reads : w.Reads world)
    (reads' : w'.Reads world) {req : CheckRequest V} (asks : world.Asks req)
    {result result' : CheckResult} {after after' : WalkState}
    (ran : (w.check req).from .start = (.ok result, after))
    (ran' : (w'.check req).from .start = (.ok result', after'))
    (walks : ∀ permDef walked walked' mid mid',
      w.schema.getPermission req.objectType req.permission = .ok permDef →
      (w.permissionAt 0 req permDef).from .start = (.ok walked, mid) →
      (w'.permissionAt 0 req permDef).from .start = (.ok walked', mid') →
        walked.allowed = walked'.allowed) :
    result.allowed = result'.allowed := by
  obtain ⟨permDef, walked, mid, declared, walk, outcome⟩ := Walker.check_ok ran
  obtain ⟨other, walked', mid', declared', walk', outcome'⟩ := Walker.check_ok ran'
  obtain rfl : permDef = other := by
    rw [← reads.schema] at declared
    rw [← reads'.schema] at declared'
    exact Except.ok.inj (declared.symm.trans declared')
  have same := walks permDef walked walked' mid mid' declared walk walk'
  rcases outcome with ⟨granted, cond, verdict, gated, evaluated, rfl⟩ | ⟨open_, rfl, -⟩ <;>
    rcases outcome' with ⟨granted', cond', verdict', gated', evaluated', rfl⟩ | ⟨open', rfl, -⟩
  · -- Both gates were evaluated, over the same attributes.
    obtain rfl := Option.some.inj (gated.symm.trans gated')
    have verdicts : verdict = verdict' := by
      obtain ⟨-, unset, set⟩ := evaluateCondition_ok reads asks evaluated
      obtain ⟨-, unset', set'⟩ := evaluateCondition_ok reads' asks evaluated'
      cases compiled : cond.compiled with
      | none => rw [unset compiled, unset' compiled]
      | some program =>
        obtain ⟨value, run, shown⟩ := set program compiled
        obtain ⟨value', run', shown'⟩ := set' program compiled
        obtain rfl := Except.ok.inj (run.symm.trans run')
        exact Except.ok.inj (shown.symm.trans shown')
    rw [verdicts]
    split
    · exact same
    · rfl
  · rcases open' with refused | ungated
    · rw [← same, granted] at refused
      cases refused
    · rw [ungated] at gated
      cases gated
  · rcases open_ with refused | ungated
    · rw [same, granted'] at refused
      cases refused
    · rw [ungated] at gated'
      cases gated'
  · exact same

namespace Memory

/-- Two stores in which a tenant has the same live tuples in another order, and else the same. -/
structure Store.Reordered (s other : Store V) (tenantID : String) (now : Time) : Prop where
  live : (s.live tenantID now).Perm (other.live tenantID now)
  tenants : s.tenants.lookup tenantID = other.tenants.lookup tenantID
  objAttrs : s.objAttrs.lookup tenantID = other.objAttrs.lookup tenantID
  subAttrs : s.subAttrs.lookup tenantID = other.subAttrs.lookup tenantID

variable {s other : Store V} {tc : TenantContext V} {now : Time}

/-- The stores let the same reads pass. -/
theorem Store.Reordered.readable (reordered : s.Reordered other tc.tenantID now) :
    s.checkTenantReadable tc.tenantID = other.checkTenantReadable tc.tenantID := by
  simp only [Store.checkTenantReadable, reordered.tenants]

/-- Both stores hold the same attributes for an object. -/
theorem Store.Reordered.getObjectAttributes (reordered : s.Reordered other tc.tenantID now)
    (type id : String) :
    s.getObjectAttributes (some tc) type id = other.getObjectAttributes (some tc) type id := by
  exact Store.reading_congr reordered.readable (bucketGet_congr reordered.objAttrs _)

/-- Both stores hold the same attributes for a subject. -/
theorem Store.Reordered.getSubjectAttributes (reordered : s.Reordered other tc.tenantID now)
    (type id : String) :
    s.getSubjectAttributes (some tc) type id = other.getSubjectAttributes (some tc) type id := by
  exact Store.reading_congr reordered.readable (bucketGet_congr reordered.subAttrs _)

/-- Both stores show the same world. -/
theorem Store.Reordered.world (reordered : s.Reordered other tc.tenantID now)
    (lang : ExprLang V P) (cs : CompiledSchema P) (subjectType subjectID : String) :
    s.world tc lang cs now subjectType subjectID =
      other.world tc lang cs now subjectType subjectID := by
  -- Membership among the live tuples does not depend on their order.
  have member : ∀ t, (t ∈ s.tuplesOf tc.tenantID ∧ tupleIsExpiredAt t now = false) ↔
      (t ∈ other.tuplesOf tc.tenantID ∧ tupleIsExpiredAt t now = false) := by
    intro t
    have same := reordered.live.mem_iff (a := t)
    simpa [Store.live] using same
  unfold Store.world
  simp only [member, reordered.getObjectAttributes, reordered.getSubjectAttributes]

/-- The tuples a quiet store lists for an object and relation are live tuples of the tenant. -/
theorem Store.Quiet.liveTuples_eq {clock : Clock} (quiet : s.Quiet tc.tenantID clock now)
    (type id relation : String) :
    s.liveTuples tc.tenantID type id relation (clock 0) = (s.live tc.tenantID now).filter fun t =>
      t.objectType == type && t.objectID == id && t.relation == relation := by
  rw [quiet.liveTuples, Store.liveTuples_eq]

/-- Quiet stores that are reordered answer lookups in another order. -/
theorem Store.Reordered.lookups {clock clock' : Clock}
    (reordered : s.Reordered other tc.tenantID now) (quiet : s.Quiet tc.tenantID clock now)
    (quiet' : other.Quiet tc.tenantID clock' now) :
    (s.lookups (some tc) clock).Reordered (other.lookups (some tc) clock') := by
  -- The tuples listed for an object and relation are a selection of the live ones.
  have listed : ∀ {α : Type} (f : RelationTuple V → α) (type id relation : String),
      ((s.liveTuples tc.tenantID type id relation (clock 0)).map f).Perm
        ((other.liveTuples tc.tenantID type id relation (clock' 0)).map f) := by
    intro α f type id relation
    rw [quiet.liveTuples_eq, quiet'.liveTuples_eq]
    exact (reordered.live.filter _).map f
  have passes : ∀ {α : Type} (body body' : String → Except Err (List α)),
      Permuted (body tc.tenantID) (body' tc.tenantID) →
        Permuted (s.reading (some tc) body) (other.reading (some tc) body') := by
    intro α body body' perm
    simp only [Store.reading, tenantIDFromCtx, bind, Except.bind, reordered.readable]
    cases other.checkTenantReadable tc.tenantID with
    | error e => rfl
    | ok _ => exact perm
  exact {
    checkDirect := by
      funext type id relation subjectType subjectID
      have found : ∀ (store : Store V) (clock : Clock), store.Quiet tc.tenantID clock now →
          ∀ p : RelationTuple V → Bool,
            ((store.tuplesOf tc.tenantID).any fun t => p t && !tupleIsExpiredAt t (clock 0)) =
              (store.live tc.tenantID now).any p := by
        intro store clock quiet p
        rw [Store.live, List.any_filter, Bool.eq_iff_iff, List.any_eq_true, List.any_eq_true]
        refine exists_congr fun t => and_congr_right fun stored => ?_
        rw [quiet 0 t stored, Bool.and_comm]
      simp only [Store.lookups, Store.checkDirect, Store.reading, tenantIDFromCtx, bind,
        Except.bind, reordered.readable, found s clock quiet, found other clock' quiet']
      rw [reordered.live.any_eq]
    listSubjects := fun type id relation => passes _ _ (listed _ type id relation)
    listRelatedObjects := fun type id relation => passes _ _ (listed _ type id relation)
    getObjectAttributes := by
      funext type id
      exact reordered.getObjectAttributes type id
    getSubjectAttributes := by
      funext type id
      exact reordered.getSubjectAttributes type id }

end Memory

/-- Whatever order a tenant's live tuples have, checks that return decide alike on plain shapes. -/
theorem decision_reordered (e : Engine P) (lang : ExprLang V P) (s other : Memory.Store V)
    (tc : TenantContext V) (clock clock' : Memory.Clock) (now : Time) (req : CheckRequest V)
    {cs : CompiledSchema P} {result result' : CheckResult}
    (quiet : s.Quiet tc.tenantID clock now) (quiet' : other.Quiet tc.tenantID clock' now)
    (reordered : s.Reordered other tc.tenantID now) (chosen : e.schemaForTenant tc = .ok cs)
    (shape : (cs.UnionOnly ∧ cs.IgnoresRequest lang ∧
        (s.world tc lang cs now req.subjectType req.subjectID).DistinctKeys req.node) ∨
      (s.world tc lang cs now req.subjectType req.subjectID).Treelike req.node)
    (checked : e.check lang (s.lookups (some tc) clock) (some tc) req = .ok result)
    (checked' : e.check lang (other.lookups (some tc) clock') (some tc) req = .ok result') :
    result.allowed = result'.allowed := by
  obtain ⟨-, after, ran⟩ := Engine.check_ok chosen checked
  obtain ⟨-, after', ran'⟩ := Engine.check_ok chosen checked'
  have shows := s.showsAll tc e lang cs quiet req.subjectType req.subjectID
  have shows' := other.showsAll tc e lang cs quiet' req.subjectType req.subjectID
  rw [← reordered.world] at shows'
  have asks : (s.world tc lang cs now req.subjectType req.subjectID).Asks req := ⟨rfl, rfl⟩
  refine Walker.check_agrees shows.toReads shows'.toReads asks ran ran' ?_
  intro permDef walked walked' mid mid' declared walk walk'
  rcases shape with ⟨unions, blind, distinct⟩ | tree
  · -- Over unions both walks find exactly what derives, and that mentions no order.
    rw [Bool.eq_iff_iff,
      Walker.permissionAt_iff_derives shows asks unions blind distinct declared walk,
      Walker.permissionAt_iff_derives shows' asks unions blind distinct declared walk']
  · exact Walker.permissionAt_reordered quiet.steady quiet'.steady
      (reordered.lookups quiet quiet') shows shows' asks tree declared walk walk'

/-- Listing the tuples of a store backwards changes nothing but their order. -/
theorem acmeStore_reversed (tuples : List (RelationTuple Bool)) (now : Time) :
    (acmeStore tuples).Reordered (acmeStore tuples.reverse) "acme" now where
  live := (List.reverse_perm tuples).symm.filter _
  tenants := rfl
  objAttrs := rfl
  subAttrs := rfl

/-- A document whose folders have keys of their own is the root of a tree. -/
theorem layered_treelike {tuples : List (RelationTuple Bool)} {operation : PermOp}
    (layered : Layered tuples)
    (separate : (layeredWorld tuples (twoFolderSchema operation)).Separate docRequest.node
      [{ arrowRef := "a", arrowPermission := "view" },
        { arrowRef := "b", arrowPermission := "view" }])
    (named : ∀ t ∈ tuples, ∀ u ∈ tuples, t.subjectID ≠ u.subjectID →
      visitKey "folder" t.subjectID "view" "user" "u" ≠
        visitKey "folder" u.subjectID "view" "user" "u") :
    (layeredWorld tuples (twoFolderSchema operation)).Treelike docRequest.node := by
  -- Below the document there are only folders, which open nothing.
  have shape : ∀ node,
      (layeredWorld tuples (twoFolderSchema operation)).Reaches docRequest.node node →
        node = docRequest.node ∨ node.type ≠ "doc" := by
    intro node reached
    rcases Relation.ReflTransGen.cases_tail reached with same | ⟨before, -, hop⟩
    · exact .inl same
    · obtain ⟨permDef, -, child, -, opened⟩ := hop
      obtain ⟨t, -, -, -, rfl⟩ := layered_opens layered rfl opened
      exact .inr (by simp)
  have closed : ∀ (node : Node) child next, node.type ≠ "doc" →
      ¬ (layeredWorld tuples (twoFolderSchema operation)).Opens node.type node.id child next := by
    intro node child next folder opened
    obtain ⟨-, -, doc, -⟩ := layered_opens layered rfl opened
    exact folder doc
  constructor
  · intro node permDef reached declared
    rcases shape node reached with rfl | folder
    · obtain rfl := Except.ok.inj declared
      exact separate
    · refine ⟨?_, List.pairwise_of_forall ?_⟩
      · rintro child - next ⟨first, opened, -⟩
        exact absurd opened (closed node child first folder)
      · rintro child other n m ⟨first, opened, -⟩
        exact absurd opened (closed node child first folder)
  · intro node permDef reached declared child member n m opens opens' differ far deep near near'
    rcases shape node reached with rfl | folder
    · obtain rfl := Except.ok.inj declared
      -- The document opens folders, whose keys differ with their ids.
      obtain ⟨t, stored, -, -, rfl⟩ := layered_opens layered rfl opens
      obtain ⟨u, kept, -, -, rfl⟩ := layered_opens layered rfl opens'
      have permission : child.arrowPermission = "view" := by
        rcases List.mem_cons.mp member with rfl | member
        · rfl
        · obtain rfl := List.mem_singleton.mp member
          rfl
      rw [permission] at near near' differ
      rw [layered_reaches layered rfl near, layered_reaches layered rfl near']
      exact named t stored u kept fun same => differ (by rw [same])
    · exact absurd opens (closed node child n folder)

/-- The folder loop, and a document with folders of its own, are decided alike backwards. -/
theorem decision_reordered_backwards :
    (∃ result result', (acmeEngine folderSchema 25).check literalLang
        ((acmeStore folderLoop).lookups (some acme) fun _ => 0) (some acme) folderRequest =
          .ok result ∧
      (acmeEngine folderSchema 25).check literalLang
        ((acmeStore folderLoop.reverse).lookups (some acme) fun _ => 0) (some acme) folderRequest =
          .ok result' ∧ result.allowed = result'.allowed) ∧
    ∃ result result', (acmeEngine (twoFolderSchema .exclusion) 25).check literalLang
        ((acmeStore ownFolders).lookups (some acme) fun _ => 0) (some acme) docRequest =
          .ok result ∧
      (acmeEngine (twoFolderSchema .exclusion) 25).check literalLang
        ((acmeStore ownFolders.reverse).lookups (some acme) fun _ => 0) (some acme) docRequest =
          .ok result' ∧ result.allowed = result'.allowed := by
  constructor
  · refine ⟨_, _, rfl, rfl, ?_⟩
    exact decision_reordered (acmeEngine folderSchema 25) literalLang (acmeStore folderLoop)
      (acmeStore folderLoop.reverse) acme (fun _ => 0) (fun _ => 0) 0 folderRequest
      (fun _ _ _ => rfl) (fun _ _ _ => rfl) (acmeStore_reversed _ _) rfl
      (.inl ⟨by unfold CompiledSchema.UnionOnly; decide, fun _ _ _ _ _ _ _ _ _ _ _ => rfl,
        loopWorld_distinct⟩) rfl rfl
  · refine ⟨_, _, rfl, rfl, ?_⟩
    exact decision_reordered (acmeEngine (twoFolderSchema .exclusion) 25) literalLang
      (acmeStore ownFolders) (acmeStore ownFolders.reverse) acme (fun _ => 0) (fun _ => 0) 0
      docRequest (fun _ _ _ => rfl) (fun _ _ _ => rfl) (acmeStore_reversed _ _) rfl
      (.inr (layered_treelike (by unfold Layered; decide)
        (layered_separate (by unfold Layered; decide) rfl (by decide) (by decide)) (by decide)))
      rfl rfl

/-- A folder with two parents, one viewed by the user and one with a folder above it. -/
def forkedFolders : List (RelationTuple Bool) :=
  [fact "folder" "a" "parent" "folder" "b", fact "folder" "a" "parent" "folder" "c",
   fact "folder" "b" "viewer" "user" "u", fact "folder" "c" "parent" "folder" "d"]

/-- A document with two folders under one child, one of which the other child excludes. -/
def doubleFolders : List (RelationTuple Bool) :=
  [fact "doc" "1" "a" "folder" "x", fact "doc" "1" "a" "folder" "y",
   fact "doc" "1" "b" "folder" "y", fact "folder" "x" "viewer" "user" "u",
   fact "folder" "y" "viewer" "user" "u"]

/-- The order decides whether a check errs, and over an exclusion also what it answers. -/
theorem order_decides :
    (acmeStore forkedFolders).Reordered (acmeStore forkedFolders.reverse) "acme" 0 ∧
      granted ((acmeEngine folderSchema 1).check literalLang
        ((acmeStore forkedFolders).lookups (some acme) fun _ => 0) (some acme) folderRequest) =
          true ∧
      (acmeEngine folderSchema 1).check literalLang
        ((acmeStore forkedFolders.reverse).lookups (some acme) fun _ => 0) (some acme)
          folderRequest = .error (.maxCheckDepthExceeded 1) ∧
    (acmeStore doubleFolders).Reordered (acmeStore doubleFolders.reverse) "acme" 0 ∧
      (acmeEngine (twoFolderSchema .exclusion) 25).check literalLang
        ((acmeStore doubleFolders).lookups (some acme) fun _ => 0) (some acme) docRequest =
          .ok deny ∧
      (acmeEngine (twoFolderSchema .exclusion) 25).check literalLang
        ((acmeStore doubleFolders.reverse).lookups (some acme) fun _ => 0) (some acme) docRequest =
          .ok (allow []) :=
  ⟨acmeStore_reversed _ _, by decide, by decide, acmeStore_reversed _ _, by decide, by decide⟩

end ZanGuard
