import ZanGuard.Proofs.Engine.Sound

/-! A refused walk over unions leaves behind a set of nodes that no derivation rule can enter. -/

namespace ZanGuard

variable {V P : Type}

/-- A walk that is shown the facts of a world, and every one of them. -/
structure Walker.ShowsAll (w : Walker V P) (world : World V P) : Prop extends w.Reads world where
  direct : ∀ n type id relation verdict,
    w.store.checkDirect n type id relation world.subjectType world.subjectID = .ok verdict →
      (world.Direct type id relation ↔ verdict = true)
  subjects : ∀ n type id relation listed,
    w.store.listSubjects n type id relation = .ok listed →
      ∀ subj, world.Subject type id relation subj ↔ subj ∈ listed
  related : ∀ n type id relation listed,
    w.store.listRelatedObjects n type id relation = .ok listed →
      ∀ target, world.Related type id relation target ↔ target ∈ listed
  /-- Once subjects were listed, a membership test that does not say yes means no. -/
  member : ∀ n type id relation listed, w.store.listSubjects n type id relation = .ok listed →
    ∀ m type id relation,
      w.store.checkDirect m type id relation world.subjectType world.subjectID ≠ .ok true →
        ¬ world.Direct type id relation

/-- The visit key of a node, for the subject of a world. -/
def World.key (world : World V P) (node : Node) : String :=
  visitKey node.type node.id node.permission world.subjectType world.subjectID

/-- Different nodes reached from a node have different visit keys. -/
def World.DistinctKeys (world : World V P) (root : Node) : Prop :=
  ∀ n m, world.Reaches root n → world.Reaches root m → world.key n = world.key m → n = m

/-- Every permission is a union or a resolve. -/
def CompiledSchema.UnionOnly (cs : CompiledSchema P) : Prop :=
  cs.All fun permDef => permDef.operation = .union ∨ permDef.operation = .direct

/-- No permission has an inline condition among its children. -/
def CompiledSchema.NoInline (cs : CompiledSchema P) : Prop :=
  cs.All fun permDef => ∀ child ∈ permDef.children, child.kind ≠ .condition

section Explored

variable (world : World V P) (root : Node)

/-- The nodes a visited list does not speak against. -/
def World.Open (v : List String) (node : Node) : Prop :=
  world.Reaches root node → world.key node ∉ v

/-- Every visited key belongs to a declared node reached from the root. -/
def World.Known (v : List String) : Prop :=
  ∀ k ∈ v, ∃ node, world.Reaches root node ∧ world.Declares node.type node.permission ∧
    world.key node = k

/-- What a refused walk does to the visited list: it adds only nodes that cannot derive. -/
structure World.Explored (v w : List String) : Prop where
  grows : v ⊆ w
  known : world.Known root w
  closed : ∀ node permDef, world.Reaches root node → world.key node ∈ w → world.key node ∉ v →
    world.schema.getPermission node.type node.permission = .ok permDef →
      ¬ world.PermissionHolds (world.Open root w) node.type node.id permDef

variable {world root}

/-- Fewer nodes stay open as the visited list grows. -/
theorem World.Open.anti {v w : List String} (grows : v ⊆ w) (node : Node)
    (still : world.Open root w node) : world.Open root v node :=
  fun reached member => still reached (grows member)

theorem World.Explored.refl {v : List String} (known : world.Known root v) :
    world.Explored root v v where
  grows := List.Subset.refl v
  known := known
  closed _ _ _ member fresh := absurd member fresh

theorem World.Explored.trans {u v w : List String} (first : world.Explored root u v)
    (second : world.Explored root v w) : world.Explored root u w where
  grows := fun k member => second.grows (first.grows member)
  known := second.known
  closed := by
    intro node permDef reached member fresh declared holds
    by_cases early : world.key node ∈ v
    · -- What the first part ruled out stays ruled out with fewer nodes open.
      exact first.closed node permDef reached early fresh declared
        (holds.mono (World.Open.anti second.grows))
    · exact second.closed node permDef reached member early declared holds

end Explored

section Walkers

variable {w : Walker V P} {world : World V P} {root : Node}
  {descend : CheckRequest V → PermissionDef P → WalkM CheckResult}

/-- A recursive entry that refuses has visited its node and explored everything below it. -/
def DescentCloses (w : Walker V P) (world : World V P) (root : Node)
    (descend : CheckRequest V → PermissionDef P → WalkM CheckResult) : Prop :=
  ∀ req permDef st result after, world.Asks req → world.Reaches root req.node →
    w.schema.getPermission req.objectType req.permission = .ok permDef →
    world.Known root st.visited.keys →
    (descend req permDef).from st = (.ok result, after) → result.allowed = false →
      world.Explored root st.visited.keys after.visited.keys ∧
        world.key req.node ∈ after.visited.keys

/-- A request's visit key is the key of its node. -/
theorem World.Asks.key_eq {req : CheckRequest V} (asks : world.Asks req) :
    req.key = world.key req.node := by
  -- Both keys are built from the same five parts.
  unfold CheckRequest.key World.key CheckRequest.node
  rw [asks.1, asks.2]

/-- A userset that was passed over does not hold. -/
theorem subjectStep_closes (shows : w.ShowsAll world) (distinct : world.DistinctKeys root)
    (closes : DescentCloses w world root descend) {req : CheckRequest V} (asks : world.Asks req)
    {n : Nat} {type id relation : String} {listed : List SubjectRef}
    (answered : w.store.listSubjects n type id relation = .ok listed) {subj : SubjectRef}
    (reached : subj.relation ≠ "" → world.Reaches root ⟨subj.type, subj.id, subj.relation⟩)
    {st mid : WalkState} (known : world.Known root st.visited.keys)
    (step : SubjectStep w descend req subj st none mid) :
    world.Explored root st.visited.keys mid.visited.keys ∧
      ¬ world.UsersetHolds (world.Open root mid.visited.keys) subj := by
  -- There are four ways to pass over a subject, and each rules the userset out by another fact.
  have askedSub : world.Asks (req.userset subj) := asks
  cases step with
  | direct plain => exact ⟨.refl known, fun holds => holds.1 plain⟩
  | visited userset met =>
    refine ⟨.refl known, ?_⟩
    have present : world.key ⟨subj.type, subj.id, subj.relation⟩ ∈ st.visited.keys := by
      have key := askedSub.key_eq
      rw [VisitedSet.has_iff, key] at met
      exact met
    rintro ⟨-, ⟨-, still⟩ | ⟨undeclared, -⟩⟩
    · exact still (reached userset) present
    · -- A visited key belongs to a declared node, so this userset would have to be declared.
      obtain ⟨node, other, declared, same⟩ := known _ present
      obtain rfl := distinct _ _ other (reached userset) same
      exact undeclared declared
  | refusedMember userset undeclared tested kept =>
    rw [kept]
    refine ⟨.refl known, ?_⟩
    rintro ⟨-, ⟨⟨permDef, declared⟩, -⟩ | ⟨-, direct⟩⟩
    · rw [shows.schema, undeclared] at declared
      cases declared
    · rw [asks.1, asks.2] at tested
      exact shows.member _ _ _ _ _ answered _ _ _ _ tested direct
  | refused userset declared walked refused =>
    obtain ⟨explored, visited⟩ :=
      closes (req.userset subj) _ _ _ _ askedSub (reached userset) declared known walked refused
    refine ⟨explored, ?_⟩
    rintro ⟨-, ⟨-, still⟩ | ⟨undeclared, -⟩⟩
    · exact still (reached userset) visited
    · exact undeclared ⟨_, shows.schema ▸ declared⟩

/-- A userset loop that refuses leaves no userset that holds. -/
theorem walkSubjects_closes (shows : w.ShowsAll world) (distinct : world.DistinctKeys root)
    (closes : DescentCloses w world root descend) {req : CheckRequest V} (asks : world.Asks req)
    {n : Nat} {type id relation : String} {listed : List SubjectRef}
    (answered : w.store.listSubjects n type id relation = .ok listed) {subjects : List SubjectRef}
    (reached : ∀ subj ∈ subjects, subj.relation ≠ "" →
      world.Reaches root ⟨subj.type, subj.id, subj.relation⟩)
    {st after : WalkState} {result : CheckResult} (known : world.Known root st.visited.keys)
    (ran : (walkSubjects w descend req subjects).from st = (.ok result, after))
    (refused : result.allowed = false) :
    world.Explored root st.visited.keys after.visited.keys ∧
      ∀ subj ∈ subjects, ¬ world.UsersetHolds (world.Open root after.visited.keys) subj := by
  -- By induction on the subjects; the visited list grows, which only rules out more.
  induction subjects generalizing st with
  | nil =>
    obtain ⟨-, rfl⟩ := Prod.mk.inj ran
    exact ⟨.refl known, by simp⟩
  | cons subj rest ih =>
    rcases walkSubjects_cons_ok ran with ⟨mid, step, later⟩ | step
    · obtain ⟨first, passed⟩ := subjectStep_closes shows distinct closes asks answered
        (reached subj List.mem_cons_self) known step
      obtain ⟨second, others⟩ := ih
        (fun other member => reached other (List.mem_cons_of_mem _ member)) first.known later
      refine ⟨first.trans second, ?_⟩
      intro other member holds
      rcases List.mem_cons.mp member with rfl | member
      · exact passed (holds.mono (World.Open.anti second.grows))
      · exact others other member holds
    · -- A step that ends the loop grants, and this loop refused.
      cases step with
      | member _ _ _ granted => rw [granted] at refused; cases refused
      | granted _ _ _ granted => rw [granted] at refused; cases refused

/-- A target that was passed over does not hold. -/
theorem targetStep_closes (shows : w.ShowsAll world) (closes : DescentCloses w world root descend)
    {req : CheckRequest V} (asks : world.Asks req) {permission : String} {target : ObjectRef}
    (reached : world.Declares target.type permission →
      world.Reaches root ⟨target.type, target.id, permission⟩)
    {st mid : WalkState} (known : world.Known root st.visited.keys)
    (step : TargetStep w descend req permission target st none mid) :
    world.Explored root st.visited.keys mid.visited.keys ∧
      ¬ world.TargetHolds (world.Open root mid.visited.keys) permission target := by
  -- A target is passed over when it was visited, cannot be entered, or refused.
  have askedSub : world.Asks (req.target permission target) := asks
  cases step with
  | visited met =>
    refine ⟨.refl known, ?_⟩
    rintro ⟨declared, still⟩
    have key := askedSub.key_eq
    rw [VisitedSet.has_iff, key] at met
    exact still (reached declared) met
  | undeclared undeclared =>
    refine ⟨.refl known, ?_⟩
    rintro ⟨⟨permDef, declared⟩, -⟩
    rw [shows.schema, undeclared] at declared
    cases declared
  | refused declared walked refused =>
    have there := reached ⟨_, shows.schema ▸ declared⟩
    obtain ⟨explored, visited⟩ := closes (req.target permission target) _ _ _ _ askedSub
      there declared known walked refused
    exact ⟨explored, fun holds => holds.2 there visited⟩

/-- A target loop that refuses leaves no target that holds. -/
theorem walkTargets_closes (shows : w.ShowsAll world) (closes : DescentCloses w world root descend)
    {req : CheckRequest V} (asks : world.Asks req) {permission : String} {targets : List ObjectRef}
    (reached : ∀ target ∈ targets, world.Declares target.type permission →
      world.Reaches root ⟨target.type, target.id, permission⟩)
    {st after : WalkState} {result : CheckResult} (known : world.Known root st.visited.keys)
    (ran : (walkTargets w descend req permission targets).from st = (.ok result, after))
    (refused : result.allowed = false) :
    world.Explored root st.visited.keys after.visited.keys ∧
      ∀ target ∈ targets,
        ¬ world.TargetHolds (world.Open root after.visited.keys) permission target := by
  -- By induction on the targets, carrying the visited list along.
  induction targets generalizing st with
  | nil =>
    obtain ⟨-, rfl⟩ := Prod.mk.inj ran
    exact ⟨.refl known, by simp⟩
  | cons target rest ih =>
    rcases walkTargets_cons_ok ran with ⟨mid, step, later⟩ | step
    · obtain ⟨first, passed⟩ :=
        targetStep_closes shows closes asks (reached target List.mem_cons_self) known step
      obtain ⟨second, others⟩ := ih
        (fun other member => reached other (List.mem_cons_of_mem _ member)) first.known later
      refine ⟨first.trans second, ?_⟩
      intro other member holds
      rcases List.mem_cons.mp member with rfl | member
      · exact passed (holds.mono (World.Open.anti second.grows))
      · exact others other member holds
    · cases step with
      | granted _ _ granted => rw [granted] at refused; cases refused

/-- A child that refuses does not hold. -/
theorem walkChild_closes (shows : w.ShowsAll world) (distinct : world.DistinctKeys root)
    (closes : DescentCloses w world root descend) {req : CheckRequest V} (asks : world.Asks req)
    {permDef : PermissionDef P}
    (declared : w.schema.getPermission req.objectType req.permission = .ok permDef)
    (entered : world.Reaches root req.node) {child : PermissionRef}
    (among : child ∈ permDef.children)
    (blind : child.kind = .condition → IgnoresRequest w.lang child.conditionExpr)
    {st after : WalkState} {result : CheckResult} (known : world.Known root st.visited.keys)
    (ran : (walkChild w descend req child).from st = (.ok result, after))
    (refused : result.allowed = false) :
    world.Explored root st.visited.keys after.visited.keys ∧
      ¬ world.ChildHolds (world.Open root after.visited.keys) req.objectType req.objectID child := by
  -- The nodes below the child are reached from the root, one hop after its own.
  have filed : world.schema.getPermission req.node.type req.node.permission = .ok permDef :=
    shows.schema ▸ declared
  unfold walkChild at ran
  unfold World.ChildHolds
  cases kind : child.kind with
  | relation =>
    rw [kind] at ran
    rcases walkRelation_ok ran with ⟨granted, -⟩ | ⟨n, m, subjects, mid, tested, listed, kept, ran⟩
    · rw [granted] at refused
      cases refused
    · -- The membership test said no, and the listed subjects are all there are.
      rw [asks.1, asks.2] at tested
      have complete := shows.subjects _ _ _ _ _ listed
      rw [← kept] at known ⊢
      obtain ⟨explored, none⟩ := walkSubjects_closes shows distinct closes asks listed
        (fun subj member nonempty => entered.tail
          ⟨permDef, filed, child, among, .userset kind ((complete subj).mpr member) nonempty⟩)
        known ran refused
      refine ⟨explored, ?_⟩
      rintro (direct | ⟨subj, there, holds⟩)
      · exact absurd ((shows.direct _ _ _ _ _ tested).mp direct) (by decide)
      · exact none subj ((complete subj).mp there) holds
  | arrow =>
    rw [kind] at ran
    obtain ⟨n, targets, mid, listed, kept, ran⟩ := walkArrow_ok ran
    have complete := shows.related _ _ _ _ _ listed
    rw [← kept] at known ⊢
    obtain ⟨explored, none⟩ := walkTargets_closes shows closes asks
      (fun target member declares => entered.tail
        ⟨permDef, filed, child, among, .target kind ((complete target).mpr member) declares⟩)
      known ran refused
    refine ⟨explored, ?_⟩
    rintro ⟨target, there, holds⟩
    exact none target ((complete target).mp there) holds
  | condition =>
    rw [kind] at ran
    simp only [compileConditionExpr, compileCondition] at ran
    cases compiled : w.lang.compile (trimSpace child.conditionExpr) with
    | error cause => simp [compiled] at ran
    | ok program =>
      rw [compiled] at ran
      obtain ⟨verdict, mid, evaluated, ran⟩ := WalkM.from_bind_ok ran
      obtain ⟨kept, truth⟩ :=
        inlineCondition_ok shows.toReads asks (blind kind) compiled evaluated
      cases verdict with
      | true =>
        obtain ⟨same, -⟩ := Prod.mk.inj ran
        rw [← Except.ok.inj same] at refused
        exact absurd refused (by decide)
      | false =>
        obtain ⟨-, rfl⟩ := Prod.mk.inj ran
        rw [kept]
        exact ⟨.refl known, fun holds => absurd (truth.mp holds) (by decide)⟩
  | other name =>
    rw [kind] at ran
    simp at ran

/-- A union that refuses has no child that holds. -/
theorem walkUnion_closes (shows : w.ShowsAll world) (distinct : world.DistinctKeys root)
    (closes : DescentCloses w world root descend) {req : CheckRequest V} (asks : world.Asks req)
    {permDef : PermissionDef P}
    (declared : w.schema.getPermission req.objectType req.permission = .ok permDef)
    (entered : world.Reaches root req.node) {children : List PermissionRef}
    (among : ∀ child ∈ children, child ∈ permDef.children)
    (blind : ∀ child ∈ children, child.kind = .condition →
      IgnoresRequest w.lang child.conditionExpr)
    {st after : WalkState} {result : CheckResult} (known : world.Known root st.visited.keys)
    (ran : (walkUnion w descend req children).from st = (.ok result, after))
    (refused : result.allowed = false) :
    world.Explored root st.visited.keys after.visited.keys ∧
      ∀ child ∈ children,
        ¬ world.ChildHolds (world.Open root after.visited.keys) req.objectType req.objectID child := by
  -- By induction on the children; what the first ruled out stays ruled out after the rest.
  induction children generalizing st with
  | nil =>
    obtain ⟨-, rfl⟩ := Prod.mk.inj ran
    exact ⟨.refl known, by simp⟩
  | cons child rest ih =>
    obtain ⟨walked, mid, done, outcome⟩ := orElse_ok ran
    rcases outcome with ⟨granted, rfl, -⟩ | ⟨passed, later⟩
    · rw [granted] at refused
      cases refused
    · obtain ⟨first, fails⟩ := walkChild_closes shows distinct closes asks declared entered
        (among child List.mem_cons_self) (blind child List.mem_cons_self) known done passed
      obtain ⟨second, others⟩ := ih
        (fun other member => among other (List.mem_cons_of_mem _ member))
        (fun other member => blind other (List.mem_cons_of_mem _ member)) first.known later
      refine ⟨first.trans second, ?_⟩
      intro other member holds
      rcases List.mem_cons.mp member with rfl | member
      · exact fails (holds.mono (World.Open.anti second.grows))
      · exact others other member holds

end Walkers

/-- The recursive walk over unions closes what it refuses, whatever number of hops is left. -/
theorem walkPermission_closes {w : Walker V P} {world : World V P} {root : Node}
    (shows : w.ShowsAll world) (distinct : world.DistinctKeys root)
    (unions : w.schema.UnionOnly) (blind : w.schema.IgnoresRequest w.lang) (hops : Nat) :
    DescentCloses w world root (walkPermission w hops) := by
  -- A node is marked before its children run, so it counts as visited while they do.
  induction hops with
  | zero =>
    intro req permDef st result after _ _ _ _ ran _
    simp [walkPermission] at ran
  | succ hops ih =>
    intro req permDef st result after asks entered declared known ran refused
    have key := asks.key_eq
    rcases walkPermission_ok declared ran with ⟨met, -, rfl⟩ | ⟨fresh, ran⟩
    · rw [VisitedSet.has_iff, key] at met
      exact ⟨.refl known, met⟩
    · have filed : world.Declares req.node.type req.node.permission :=
        ⟨permDef, shows.schema ▸ declared⟩
      have marked : world.Known root (st.visited.add req.key).keys := by
        intro k member
        rcases List.mem_cons.mp member with rfl | member
        · exact ⟨req.node, entered, filed, key.symm⟩
        · exact known k member
      have union : walkOperation w (walkPermission w hops) req permDef =
          walkUnion w (walkPermission w hops) req permDef.children := by
        unfold walkOperation
        rcases unions.found declared with operation | operation <;> rw [operation]
      rw [union] at ran
      obtain ⟨below, fails⟩ := walkUnion_closes shows distinct ih asks declared entered
        (fun child member => member) (blind.found declared) marked ran refused
      have present : world.key req.node ∈ after.visited.keys :=
        below.grows (key ▸ List.mem_cons_self)
      refine ⟨⟨fun k member => below.grows (List.mem_cons_of_mem _ member), below.known, ?_⟩,
        present⟩
      intro node other reached member unvisited found holds
      by_cases same : world.key node = world.key req.node
      · -- The only node with this key is the one that was entered, and its children all failed.
        obtain rfl := distinct _ _ reached entered same
        rw [shows.schema] at found
        obtain rfl : permDef = other := Except.ok.inj (declared.symm.trans found)
        have some : ∃ child ∈ permDef.children, world.ChildHolds
            (world.Open root after.visited.keys) req.objectType req.objectID child := by
          unfold World.PermissionHolds at holds
          rcases unions.found declared with operation | operation <;>
            · rw [operation] at holds
              exact holds
        obtain ⟨child, member, held⟩ := some
        exact fails child member held
      · refine below.closed node other reached member ?_ found holds
        rw [show (st.visited.add req.key).keys = req.key :: st.visited.keys from rfl, key]
        simp [same, unvisited]

namespace Memory

/-- No stored tuple of a tenant expires between the instant and the readings of the clock. -/
def Store.Quiet (s : Store V) (tenantID : String) (clock : Clock) (now : Time) : Prop :=
  ∀ n, ∀ t ∈ s.tuplesOf tenantID, tupleIsExpiredAt t (clock n) = tupleIsExpiredAt t now

/-- Among the stored tuples of a quiet tenant, the live ones are the same at every reading. -/
theorem Store.Quiet.liveTuples {s : Store V} {tenantID : String} {clock : Clock} {now : Time}
    (quiet : s.Quiet tenantID clock now) (n : Nat) (type id relation : String) :
    s.liveTuples tenantID type id relation (clock n) = s.liveTuples tenantID type id relation now := by
  refine List.filter_congr ?_
  intro t stored
  rw [quiet n t stored]

/-- A quiet store shows every fact of the world at the instant. -/
theorem Store.showsAll (s : Store V) (tc : TenantContext V) (e : Engine P) (lang : ExprLang V P)
    (cs : CompiledSchema P) {clock : Clock} {now : Time} (quiet : s.Quiet tc.tenantID clock now)
    (subjectType subjectID : String) :
    (e.walker lang (s.lookups (some tc) clock) cs).ShowsAll
      (s.world tc lang cs now subjectType subjectID) := by
  -- A stored live tuple is seen by every membership test at any reading.
  have seen : ∀ n type id relation,
      (s.world tc lang cs now subjectType subjectID).Direct type id relation →
      s.checkTenantReadable tc.tenantID = .ok () →
        s.checkDirect (some tc) type id relation subjectType subjectID (clock n) = .ok true := by
    rintro n type id relation ⟨t, ⟨stored, live⟩, hot, hoi, hr, hst, hsi, hsr⟩ readable
    rw [← quiet n t stored] at live
    have hst : t.subjectType = subjectType := hst
    have hsi : t.subjectID = subjectID := hsi
    simp only [Store.checkDirect, Store.reading, tenantIDFromCtx, bind, Except.bind, readable,
      Except.ok.injEq, List.any_eq_true]
    exact ⟨t, stored, by simp [hot, hoi, hr, hst, hsi, hsr, live]⟩
  refine { schema := rfl, lang := rfl, objectAttrs := fun _ _ _ => rfl, subjectAttrs := fun _ => rfl,
           direct := ?_, subjects := ?_, related := ?_, member := ?_ }
  · intro n type id relation verdict tested
    obtain ⟨readable, -⟩ := Store.reading_ok tested
    constructor
    · intro direct
      have known := seen n type id relation direct readable
      exact Except.ok.inj (tested.symm.trans known)
    · -- A test that says yes has found a tuple that was live at its reading.
      rintro rfl
      obtain ⟨t, stored, live, fields⟩ := Store.checkDirect_found tested
      rw [quiet n t stored] at live
      exact ⟨t, ⟨stored, live⟩, fields⟩
  · intro n type id relation listed found subj
    obtain ⟨-, found⟩ := Store.reading_ok found
    obtain rfl := Except.ok.inj found
    rw [quiet.liveTuples]
    exact Store.mem_map_liveTuples.symm
  · intro n type id relation listed found target
    obtain ⟨-, found⟩ := Store.reading_ok found
    obtain rfl := Except.ok.inj found
    rw [quiet.liveTuples]
    exact Store.mem_map_liveTuples.symm
  · intro n type id relation listed found m type' id' relation' tested direct
    obtain ⟨readable, -⟩ := Store.reading_ok found
    exact tested (seen m type' id' relation' direct readable)

end Memory

/-- A walk over unions that refuses its root leaves the root underivable. -/
theorem Walker.refused_underivable {w : Walker V P} {world : World V P} {req : CheckRequest V}
    (asks : world.Asks req) (shows : w.ShowsAll world)
    (distinct : world.DistinctKeys req.node) (unions : w.schema.UnionOnly)
    (blind : w.schema.IgnoresRequest w.lang) {permDef : PermissionDef P}
    (declared : w.schema.getPermission req.objectType req.permission = .ok permDef)
    {walked : CheckResult} {after : WalkState}
    (ran : (w.permissionAt 0 req permDef).from .start = (.ok walked, after))
    (refused : walked.allowed = false) : ¬ world.Derives req.node := by
  -- The walk starts with nothing visited, so every visited key is one it added.
  have nothing : world.Known req.node WalkState.start.visited.keys := by
    intro k member
    exact absurd member List.not_mem_nil
  obtain ⟨explored, visited⟩ := walkPermission_closes shows distinct unions blind _ req permDef _
    walked after asks .refl declared nothing ran refused
  -- The nodes left open form a set no derivation rule leads out of.
  intro derived
  have still : world.Open req.node after.visited.keys req.node := by
    refine derived.induction ?_
    intro node other found holds reached member
    exact explored.closed node other reached member List.not_mem_nil found holds
  exact still .refl visited

/-- Over unions whose inline conditions ignore the request, whatever derives is allowed. -/
theorem check_allowed_of_derives (e : Engine P) (lang : ExprLang V P) (s : Memory.Store V)
    (tc : TenantContext V) (clock : Memory.Clock) (now : Time) (req : CheckRequest V)
    {cs : CompiledSchema P} {result : CheckResult} (quiet : s.Quiet tc.tenantID clock now)
    (chosen : e.schemaForTenant tc = .ok cs) (unions : cs.UnionOnly)
    (blind : cs.IgnoresRequest lang)
    (distinct : (s.world tc lang cs now req.subjectType req.subjectID).DistinctKeys req.node)
    (checked : e.check lang (s.lookups (some tc) clock) (some tc) req = .ok result)
    (derives : (s.world tc lang cs now req.subjectType req.subjectID).Derives req.node)
    (gate : (s.world tc lang cs now req.subjectType req.subjectID).GateOpen req.objectType
      req.objectID req.permission req.context) :
    result.allowed = true := by
  -- The walk must have granted, since a refusal would leave the node underivable.
  obtain ⟨-, after, ran⟩ := Engine.check_ok chosen checked
  obtain ⟨permDef, walked, mid, declared, walk, outcome⟩ := Walker.check_ok ran
  have shows := s.showsAll tc e lang cs quiet req.subjectType req.subjectID
  have asks : (s.world tc lang cs now req.subjectType req.subjectID).Asks req := ⟨rfl, rfl⟩
  have granted : walked.allowed = true := by
    cases verdict : walked.allowed with
    | true => rfl
    | false =>
      exact absurd derives
        (Walker.refused_underivable asks shows distinct unions blind declared walk verdict)
  rcases outcome with ⟨-, cond, verdict, gated, evaluated, rfl⟩ | ⟨-, rfl, -⟩
  · -- An open gate evaluates to true, so it lets the grant through.
    obtain ⟨-, unset, set⟩ := evaluateCondition_ok shows.toReads asks evaluated
    have passed : verdict = true := by
      cases compiled : cond.compiled with
      | none => exact unset compiled
      | some program =>
        obtain ⟨value, ran, shown⟩ := set program compiled
        obtain ⟨again, rerun, truth⟩ := gate permDef cond program declared gated compiled
        obtain rfl := Except.ok.inj (ran.symm.trans rerun)
        exact Except.ok.inj (shown.symm.trans truth)
    rw [if_pos passed]
    exact granted
  · exact granted

/-- Over unions of relations and arrows, a check without an error allows whatever derives. -/
theorem check_complete (e : Engine P) (lang : ExprLang V P) (s : Memory.Store V)
    (tc : TenantContext V) (clock : Memory.Clock) (now : Time) (req : CheckRequest V)
    {cs : CompiledSchema P} {result : CheckResult} (quiet : s.Quiet tc.tenantID clock now)
    (chosen : e.schemaForTenant tc = .ok cs) (unions : cs.UnionOnly) (plain : cs.NoInline)
    (distinct : (s.world tc lang cs now req.subjectType req.subjectID).DistinctKeys req.node)
    (checked : e.check lang (s.lookups (some tc) clock) (some tc) req = .ok result)
    (derives : (s.world tc lang cs now req.subjectType req.subjectID).Derives req.node)
    (gate : (s.world tc lang cs now req.subjectType req.subjectID).GateOpen req.objectType
      req.objectID req.permission req.context) :
    result.allowed = true := by
  -- Without inline conditions there is none that could read the request.
  have blind : cs.IgnoresRequest lang := by
    intro type typed permission filed child member kind
    exact absurd kind (plain type typed permission filed child member)
  exact check_allowed_of_derives e lang s tc clock now req quiet chosen unions blind distinct
    checked derives gate

/-- The world of the folder loop, for its viewer. -/
def loopWorld : World Bool Bool :=
  (acmeStore folderLoop).world acme literalLang folderSchema 0 "user" "u"

/-- A hop from a folder of the loop leads to a folder of the loop. -/
theorem loopWorld_hop {node next : Node} (inside : node.type = "folder" ∧ node.permission = "view")
    (hop : loopWorld.Hop node next) :
    next = ⟨"folder", "a", "view"⟩ ∨ next = ⟨"folder", "b", "view"⟩ := by
  -- The schema has one arrow and no userset is stored, so a hop goes along a parent tuple.
  obtain ⟨permDef, declared, child, member, opened⟩ := hop
  cases opened with
  | userset kind listed nonempty =>
    -- None of the stored tuples has a userset as its subject.
    obtain ⟨t, ⟨stored, -⟩, -, -, -, rfl⟩ := listed
    have plain : ∀ t ∈ folderLoop, t.subjectRelation = "" := by decide
    exact absurd (plain t stored) nonempty
  | target kind related declares =>
    rw [inside.1, inside.2] at declared
    obtain rfl := Except.ok.inj declared
    have arrow : ∀ child ∈ [({ relationRef := "viewer" } : PermissionRef),
        { arrowRef := "parent", arrowPermission := "view" }], child.kind = .arrow →
          child.arrowRef = "parent" ∧ child.arrowPermission = "view" := by decide
    obtain ⟨ref, permission⟩ := arrow _ member kind
    obtain ⟨t, ⟨stored, -⟩, -, -, relation, rfl⟩ := related
    have parents : ∀ t ∈ folderLoop, t.relation = "parent" →
        t.subjectType = "folder" ∧ (t.subjectID = "a" ∨ t.subjectID = "b") := by decide
    obtain ⟨type, id⟩ := parents t stored (relation.trans ref)
    rcases id with id | id
    · exact .inl (by simp [type, id, permission])
    · exact .inr (by simp [type, id, permission])

/-- The loop has two nodes. -/
theorem loopWorld_reaches {node : Node} (reached : loopWorld.Reaches ⟨"folder", "a", "view"⟩ node) :
    node = ⟨"folder", "a", "view"⟩ ∨ node = ⟨"folder", "b", "view"⟩ := by
  -- By induction on the hops: neither folder leads out of the loop.
  induction reached with
  | refl => exact .inl rfl
  | tail _ hop ih =>
    rcases ih with rfl | rfl
    · exact loopWorld_hop ⟨rfl, rfl⟩ hop
    · exact loopWorld_hop ⟨rfl, rfl⟩ hop

/-- The two nodes of the loop have different keys. -/
theorem loopWorld_distinct : loopWorld.DistinctKeys ⟨"folder", "a", "view"⟩ := by
  -- The two ids make the keys differ.
  have apart : loopWorld.key ⟨"folder", "a", "view"⟩ ≠ loopWorld.key ⟨"folder", "b", "view"⟩ := by
    decide
  intro n m first second same
  rcases loopWorld_reaches first with rfl | rfl <;> rcases loopWorld_reaches second with rfl | rfl
  · rfl
  · exact absurd same apart
  · exact absurd same.symm apart
  · rfl

/-- The viewer of the second folder derives the first one, through one hop. -/
theorem loopWorld_derives : loopWorld.Derives ⟨"folder", "a", "view"⟩ := by
  -- The third tuple makes the subject a viewer of the second folder.
  have viewer : loopWorld.Derives ⟨"folder", "b", "view"⟩ := by
    refine .intro rfl ⟨{ relationRef := "viewer" }, by decide, .inl ?_⟩
    exact ⟨_, ⟨List.mem_of_getElem? (i := 2) rfl, rfl⟩, rfl, rfl, rfl, rfl, rfl, rfl⟩
  refine .intro rfl ⟨{ arrowRef := "parent", arrowPermission := "view" }, by decide, ?_⟩
  exact ⟨_, ⟨_, ⟨List.mem_of_getElem? (i := 0) rfl, rfl⟩, rfl, rfl, rfl, rfl⟩, ⟨_, rfl⟩, viewer⟩

/-- The check of the first folder allows, and it could not have refused. -/
theorem check_complete_folderLoop : ∃ result, (acmeEngine folderSchema 25).check literalLang
    ((acmeStore folderLoop).lookups (some acme) fun _ => 0) (some acme) folderRequest = .ok result ∧
      result.allowed = true := by
  refine ⟨allow ["folder:b#viewer@user:u"], rfl, ?_⟩
  refine check_complete (acmeEngine folderSchema 25) literalLang (acmeStore folderLoop) acme
    (fun _ => 0) 0 folderRequest (fun _ _ _ => rfl) rfl (by unfold CompiledSchema.UnionOnly; decide)
    (by unfold CompiledSchema.NoInline; decide) loopWorld_distinct rfl loopWorld_derives ?_
  -- The gate holds the literal true, whatever it is evaluated over.
  intro permDef cond program declared gated compiled
  obtain rfl := Except.ok.inj declared
  obtain rfl := Option.some.inj gated
  obtain rfl := Option.some.inj compiled
  exact ⟨true, rfl, rfl⟩

end ZanGuard
