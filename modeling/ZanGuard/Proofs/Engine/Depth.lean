import ZanGuard.Proofs.Engine.Paths

/-! A walk that goes too deep has followed a chain of distinct nodes. -/

namespace ZanGuard

open Std.Do

set_option mvcgen.warning false

variable {V P : Type}

/-- No lookup of a store fails as a walk that goes too deep does. -/
structure Lookups.NeverTooDeep (store : Lookups V) : Prop where
  direct : ∀ {n type id relation subjectType subjectID e},
    store.checkDirect n type id relation subjectType subjectID = .error e → ¬ e.TooDeep
  subjects : ∀ {n type id relation e},
    store.listSubjects n type id relation = .error e → ¬ e.TooDeep
  related : ∀ {n type id relation e},
    store.listRelatedObjects n type id relation = .error e → ¬ e.TooDeep

/-- A chain of hops over declared nodes, all different and none of them visited. -/
structure World.Chain (world : World V P) (visited : List String) (node : Node) (length : Nat)
    (chain : List Node) : Prop where
  length : chain.length = length
  first : chain.head? = some node
  hops : chain.IsChain world.Hop
  declared : ∀ n ∈ chain, world.Declares n.type n.permission
  fresh : ∀ n ∈ chain, world.key n ∉ visited
  apart : (chain.map world.key).Nodup

/-- A chain of some length starts at a node. -/
def World.Deep (world : World V P) (visited : List String) (node : Node) (length : Nat) : Prop :=
  ∃ chain, world.Chain visited node length chain

section Chains

variable {world : World V P} {visited : List String} {node next : Node}

/-- A declared node that was not visited is a chain by itself. -/
theorem World.deep_one (declared : world.Declares node.type node.permission)
    (fresh : world.key node ∉ visited) : world.Deep visited node 1 := by
  -- There is one node to look at, for each of the two conditions.
  refine ⟨[node], rfl, rfl, List.isChain_singleton _, ?_, ?_, by simp⟩
  · intro n member
    rw [List.mem_singleton.mp member]
    exact declared
  · intro n member
    rw [List.mem_singleton.mp member]
    exact fresh

/-- A hop into a chain that avoids the node it leaves makes the chain longer. -/
theorem World.Deep.cons {length : Nat} (declared : world.Declares node.type node.permission)
    (fresh : world.key node ∉ visited) (hop : world.Hop node next)
    (deep : world.Deep (world.key node :: visited) next length) :
    world.Deep visited node (length + 1) := by
  obtain ⟨chain, longer⟩ := deep
  refine ⟨node :: chain, by simp [longer.length], rfl, ?_, ?_, ?_, ?_⟩
  · -- The hop leads to the first node of the chain.
    have first := longer.first
    have hops := longer.hops
    cases chain with
    | nil => exact List.isChain_singleton _
    | cons head rest =>
      obtain rfl : head = next := Option.some.inj first
      exact List.isChain_cons_cons.mpr ⟨hop, hops⟩
  · -- The node it leaves is declared, and so are those of the chain.
    rintro n (_ | ⟨_, member⟩)
    · exact declared
    · exact longer.declared n member
  · -- Those of the chain avoid the visited nodes and the one it leaves.
    rintro n (_ | ⟨_, member⟩)
    · exact fresh
    · exact fun seen => longer.fresh n member (List.mem_cons_of_mem _ seen)
  · -- The nodes of the chain were not visited, and the node it leaves was.
    refine List.nodup_cons.mpr ⟨?_, longer.apart⟩
    intro again
    obtain ⟨n, member, same⟩ := List.mem_map.mp again
    exact longer.fresh n member (same ▸ List.mem_cons_self)

end Chains

/-- A step that only adds to the visited set, and that goes too deep only for a reason. -/
def DeepOnlyIf {α : Type} (visited : List String) (reason : Prop) (step : WalkM α) : Prop :=
  ⦃fun st => ⌜visited ⊆ st.visited.keys⌝⦄
  step
  ⦃post⟨fun _ st => ⌜visited ⊆ st.visited.keys⌝, fun e _ => ⌜e.TooDeep → reason⌝⟩⦄

/-- Text that does not compile is not a matter of depth. -/
theorem compileConditionExpr_shallow {lang : ExprLang V P} {raw : String} {e : Err}
    (failed : compileConditionExpr lang raw = .error e) : ¬ e.TooDeep := by
  -- Compiling fails with an error of the compiler.
  rintro ⟨max, rfl⟩
  simp only [compileConditionExpr, compileCondition] at failed
  split at failed
  · cases failed
  · cases failed

/-- A permission that is not there is not a matter of depth. -/
theorem CompiledSchema.getPermission_shallow {cs : CompiledSchema P}
    {objectType permission : String} {e : Err}
    (missing : cs.getPermission objectType permission = .error e) : ¬ e.TooDeep := by
  -- Either the type is unknown, or the permission is.
  rintro ⟨max, rfl⟩
  unfold getPermission at missing
  -- The type is unknown.
  split at missing
  · cases missing
  · -- The type is known, and the permission is not.
    split at missing
    · cases missing
    · cases missing

/-- A tenant that is refused is not a matter of depth. -/
theorem checkTenant_shallow {ctx : Context V} {e : Err} (refused : checkTenant ctx = .error e) :
    ¬ e.TooDeep := by
  rintro ⟨max, rfl⟩
  rcases checkTenant_error refused with same | same | ⟨id, status, same⟩ <;> cases same

section Walkers

variable {w : Walker V P} {world : World V P} {hops : Nat} {visited : List String} {reason : Prop}
  {descend : CheckRequest V → PermissionDef P → WalkM CheckResult} {req : CheckRequest V}

/-- Below an unvisited node the visited set grows, and going too deep takes a chain of hops. -/
def DescentDeep (w : Walker V P) (world : World V P) (hops : Nat)
    (descend : CheckRequest V → PermissionDef P → WalkM CheckResult) : Prop :=
  ∀ (visited : List String) sub permDef, world.Asks sub →
    w.schema.getPermission sub.objectType sub.permission = .ok permDef →
    ⦃fun st => ⌜visited ⊆ st.visited.keys ∧ sub.key ∉ st.visited.keys⌝⦄
    descend sub permDef
    ⦃post⟨fun _ st => ⌜visited ⊆ st.visited.keys⌝,
      fun e _ => ⌜e.TooDeep → world.Deep visited sub.node hops⌝⟩⦄

/-- The userset loop goes too deep only below one of its usersets. -/
theorem walkSubjects_deep (below : DescentDeep w world hops descend) (asks : world.Asks req)
    (subjects : List SubjectRef)
    (blame : ∀ subj ∈ subjects, subj.relation ≠ "" →
      world.Deep visited (req.userset subj).node hops → reason) :
    DeepOnlyIf visited reason (walkSubjects w descend req subjects) := by
  -- By induction on the subjects, the answers from below taken for the visited set of the loop.
  have below := below visited
  unfold DeepOnlyIf at *
  induction subjects with
  | nil => mvcgen [walkSubjects]
  | cons subj rest ih =>
    have later := ih fun other member => blame other (List.mem_cons_of_mem _ member)
    mvcgen [walkSubjects, later, below]
    -- The loop enters a declared userset right after testing that it was not visited.
    · rename_i grown unseen _ _
      exact ⟨grown, fun seen => unseen ((VisitedSet.has_iff _ _).mpr seen)⟩
    · -- Going too deep below it is a reason by assumption.
      rename_i userset _ _ _ _ _ _ _ _ _
      exact fun deep tooDeep => blame subj List.mem_cons_self userset (deep tooDeep)

/-- A relation goes too deep only below a userset that a live tuple lists. -/
theorem walkRelation_deep (shows : w.Shows world) (shallow : w.store.NeverTooDeep)
    (below : DescentDeep w world hops descend) (asks : world.Asks req) (relation : String)
    (blame : ∀ subj, world.Subject req.objectType req.objectID relation subj →
      subj.relation ≠ "" → world.Deep visited (req.userset subj).node hops → reason) :
    DeepOnlyIf visited reason (walkRelation w descend req relation) := by
  -- Whatever is listed, the loop over it has its lemma.
  have usersets : ∀ subjects : List SubjectRef,
      (∀ subj ∈ subjects, subj.relation ≠ "" →
        world.Deep visited (req.userset subj).node hops → reason) →
      DeepOnlyIf visited reason (walkSubjects w descend req subjects) :=
    walkSubjects_deep below asks
  unfold DeepOnlyIf at *
  mvcgen [walkRelation, lookup, usersets]
  · -- What is listed stems from a live tuple.
    rename_i listed
    intro subj member
    exact blame subj (shows.subjects _ _ _ _ _ listed subj member)
  -- Neither of the two lookups fails for depth.
  · rename_i failed
    exact fun tooDeep => absurd tooDeep (shallow.subjects failed)
  · rename_i failed
    exact fun tooDeep => absurd tooDeep (shallow.direct failed)

/-- The target loop goes too deep only below one of its targets. -/
theorem walkTargets_deep (below : DescentDeep w world hops descend) (asks : world.Asks req)
    (permission : String) (targets : List ObjectRef)
    (blame : ∀ target ∈ targets,
      (∃ permDef, w.schema.getPermission target.type permission = .ok permDef) →
      world.Deep visited (req.target permission target).node hops → reason) :
    DeepOnlyIf visited reason (walkTargets w descend req permission targets) := by
  -- By induction on the targets, as for the subjects.
  have below := below visited
  unfold DeepOnlyIf at *
  induction targets with
  | nil => mvcgen [walkTargets]
  | cons target rest ih =>
    have later := ih fun other member => blame other (List.mem_cons_of_mem _ member)
    mvcgen [walkTargets, later, below]
    -- As for usersets, the call site has tested the key of the node it enters.
    · rename_i grown unseen _ _
      exact ⟨grown, fun seen => unseen ((VisitedSet.has_iff _ _).mpr seen)⟩
    · -- Only a target that declares the permission is entered.
      rename_i declared _ _
      exact fun deep tooDeep => blame target List.mem_cons_self ⟨_, declared⟩ (deep tooDeep)

/-- An arrow goes too deep only below a target that a live tuple relates. -/
theorem walkArrow_deep (shows : w.Shows world) (shallow : w.store.NeverTooDeep)
    (below : DescentDeep w world hops descend) (asks : world.Asks req)
    (relation permission : String)
    (blame : ∀ target, world.Related req.objectType req.objectID relation target →
      world.Declares target.type permission →
      world.Deep visited (req.target permission target).node hops → reason) :
    DeepOnlyIf visited reason (walkArrow w descend req relation permission) := by
  have loop : ∀ targets : List ObjectRef,
      (∀ target ∈ targets,
        (∃ permDef, w.schema.getPermission target.type permission = .ok permDef) →
        world.Deep visited (req.target permission target).node hops → reason) →
      DeepOnlyIf visited reason (walkTargets w descend req permission targets) :=
    walkTargets_deep below asks permission
  unfold DeepOnlyIf at *
  mvcgen [walkArrow, lookup, loop]
  · -- What is listed stems from a live tuple.
    rename_i listed
    rintro target member ⟨permDef, declared⟩
    exact blame target (shows.related _ _ _ _ _ listed target member)
      ⟨permDef, shows.schema ▸ declared⟩
  · -- The lookup itself does not fail for depth.
    rename_i failed
    exact fun tooDeep => absurd tooDeep (shallow.related failed)

/-- An inline condition never goes too deep. -/
theorem walkInline_deep {child : PermissionRef} (kind : child.kind = .condition) :
    DeepOnlyIf visited reason (walkChild w descend req child) := by
  have condition := evaluateCondition_frame w req
  unfold DeepOnlyIf walkChild
  rw [kind]
  mvcgen [condition]
  -- The text does not compile, the condition is true or false, or its evaluation fails.
  · rename_i failed _ _
    exact fun tooDeep => absurd tooDeep (compileConditionExpr_shallow failed)
  · -- A true condition has left the visited set as it was.
    rename_i grown _ _ _ kept
    rw [kept.1]
    exact grown
  · -- So has a false one.
    rename_i grown _ _ _ kept
    rw [kept.1]
    exact grown
  · exact fun shallow tooDeep => absurd tooDeep shallow

/-- A child goes too deep only below a node it opens. -/
theorem walkChild_deep (shows : w.Shows world) (shallow : w.store.NeverTooDeep)
    (below : DescentDeep w world hops descend) (asks : world.Asks req) (child : PermissionRef)
    (blame : ∀ next, world.Opens req.objectType req.objectID child next →
      world.Deep visited next hops → reason) :
    DeepOnlyIf visited reason (walkChild w descend req child) := by
  -- One case for each kind of reference; only usersets and targets are entered.
  rcases child.kind_cases with kind | kind | kind
  · unfold walkChild
    rw [kind]
    refine walkArrow_deep shows shallow below asks _ _ ?_
    intro target related declares
    exact blame _ (.target kind related declares)
  · exact walkInline_deep kind
  · unfold walkChild
    rw [kind]
    refine walkRelation_deep shows shallow below asks _ ?_
    intro subj listed userset
    exact blame _ (.userset kind listed userset)

/-- The three child loops go too deep only where one of the children does. -/
theorem walkChildren_deep (children : List PermissionRef)
    (each : ∀ child ∈ children, DeepOnlyIf visited reason (walkChild w descend req child)) :
    DeepOnlyIf visited reason (walkUnion w descend req children) ∧
      DeepOnlyIf visited reason (walkAll w descend req children) ∧
      DeepOnlyIf visited reason (walkExcluded w descend req children) := by
  -- By induction on the children; the loops differ only in when they stop.
  unfold DeepOnlyIf at *
  induction children with
  | nil => refine ⟨?_, ?_, ?_⟩ <;> mvcgen [walkUnion, walkAll, walkExcluded]
  | cons child rest ih =>
    have first := each child List.mem_cons_self
    obtain ⟨union, all, excluded⟩ :=
      ih fun other member => each other (List.mem_cons_of_mem _ member)
    refine ⟨?_, ?_, ?_⟩
    · mvcgen [walkUnion, first, union]
    · mvcgen [walkAll, first, all]
    · mvcgen [walkExcluded, first, excluded]

/-- An operation goes too deep only where one of the children does. -/
theorem walkOperation_deep (permDef : PermissionDef P)
    (each : ∀ child ∈ permDef.children,
      DeepOnlyIf visited reason (walkChild w descend req child)) :
    DeepOnlyIf visited reason (walkOperation w descend req permDef) := by
  -- Each operation runs one of the loops, or fails before any.
  obtain ⟨union, all, -⟩ := walkChildren_deep permDef.children each
  unfold walkOperation
  cases operation : permDef.operation with
  | union | direct => exact union
  | intersect =>
    unfold DeepOnlyIf at *
    mvcgen [walkIntersect, all]
  | exclusion =>
    cases listed : permDef.children with
    | nil =>
      unfold DeepOnlyIf
      mvcgen [walkExclusion]
    | cons first rest =>
      -- The base runs before the loop over the others.
      rw [listed] at each
      have base := each first List.mem_cons_self
      obtain ⟨-, -, excluded⟩ :=
        walkChildren_deep rest fun other member => each other (List.mem_cons_of_mem _ member)
      unfold DeepOnlyIf at *
      mvcgen [walkExclusion, base, excluded]
  -- An operation the walk does not know is refused at once.
  | other code =>
    unfold DeepOnlyIf
    mvcgen
    rintro ⟨max, same⟩
    cases same

end Walkers

/-- With a number of hops left, a walk that goes too deep has made all of them and one more. -/
theorem walkPermission_deep {w : Walker V P} {world : World V P} (shows : w.Shows world)
    (shallow : w.store.NeverTooDeep) (hops : Nat) :
    DescentDeep w world (hops + 1) (walkPermission w hops) := by
  -- By induction on the hops left: each hop puts its node in front of the chain below it.
  induction hops with
  | zero =>
    intro visited req permDef asks declared
    have declares : world.Declares req.objectType req.permission :=
      ⟨permDef, shows.schema ▸ declared⟩
    -- With no hop left the walk fails where it stands, and the chain is its node alone.
    mvcgen [walkPermission]
    rename_i before
    exact fun _ => World.deep_one declares (asks.key_eq ▸ fun seen => before.2 (before.1 seen))
  | succ hops ih =>
    intro visited req permDef asks declared
    have found : world.schema.getPermission req.objectType req.permission = .ok permDef :=
      shows.schema ▸ declared
    have keyed : visitKey req.objectType req.objectID permDef.name req.subjectType req.subjectID =
        world.key req.node :=
      (CheckRequest.visitKey_declared declared).trans asks.key_eq
    -- Below the node its key counts as visited, so a chain from there never comes back to it.
    have operation : ∀ fresh : world.key req.node ∉ visited,
        DeepOnlyIf (world.key req.node :: visited) (world.Deep visited req.node (hops + 2))
          (walkOperation w (walkPermission w hops) req permDef) := by
      intro fresh
      refine walkOperation_deep permDef fun child among => ?_
      refine walkChild_deep shows shallow ih asks child fun next opens deep => ?_
      exact deep.cons ⟨permDef, found⟩ fresh ⟨permDef, found, child, among, opens⟩
    unfold DeepOnlyIf at operation
    mvcgen [walkPermission, operation]
    · -- A node met again is refused.
      rename_i before _
      exact before.1
    · -- The node was not visited when the call site tested it.
      rename_i before _ _
      exact asks.key_eq ▸ fun seen => before.2 (before.1 seen)
    · -- The walk below starts with the node among the visited ones.
      rename_i before _ _
      intro k member
      rcases List.mem_cons.mp member with rfl | seen
      · exact keyed ▸ List.mem_cons_self
      · exact List.mem_cons_of_mem _ (before.1 seen)
    · -- What was visited before is still visited after it.
      exact fun grown => (List.cons_subset.mp grown).2

/-- A check that goes too deep has followed a chain that uses up its depth. -/
theorem Walker.check_deep {w : Walker V P} {world : World V P} (shows : w.Shows world)
    (shallow : w.store.NeverTooDeep) {req : CheckRequest V} (asks : world.Asks req) :
    ⦃fun st => ⌜st.visited = .empty⌝⦄
    w.check req
    ⦃post⟨fun _ _ => ⌜True⌝,
      fun e _ => ⌜e.TooDeep → world.Deep [] req.node (w.hopsAt 0 + 1)⌝⟩⦄ := by
  have walk := walkPermission_deep shows shallow (w.hopsAt 0) []
  have gate := evaluateCondition_frame w req
  mvcgen [Walker.check, Walker.permissionAt, walk, gate]
  · rename_i missing _ _
    exact fun tooDeep => absurd tooDeep (CompiledSchema.getPermission_shallow missing)
  · rename_i empty
    rw [empty]
    exact ⟨List.nil_subset _, List.not_mem_nil⟩
  · -- The gate wraps whatever its condition failed with.
    rintro - ⟨max, same⟩
    cases same

namespace Memory

/-- A read fails with what its guard or its body fails with. -/
theorem Store.reading_error {α : Type} {s : Store V} {tc : TenantContext V}
    {body : String → Except Err α} {e : Err} (failed : s.reading (some tc) body = .error e) :
    s.checkTenantReadable tc.tenantID = .error e ∨ body tc.tenantID = .error e := by
  -- The guard of a read comes first, and its body only after it has passed.
  unfold Store.reading tenantIDFromCtx at failed
  simp only [bind, Except.bind] at failed
  cases readable : s.checkTenantReadable tc.tenantID with
  | error refused =>
    rw [readable] at failed
    obtain rfl : refused = e := Except.error.inj failed
    exact .inl rfl
  | ok _ =>
    rw [readable] at failed
    exact .inr failed

/-- A tenant that cannot be read is not a matter of depth. -/
theorem Store.reading_shallow {α : Type} {s : Store V} {tc : TenantContext V} {value : String → α}
    {e : Err} (failed : s.reading (some tc) (fun tenantID => .ok (value tenantID)) = .error e) :
    ¬ e.TooDeep := by
  -- The guard has two errors of its own, and the body has none.
  rintro ⟨max, rfl⟩
  rcases Store.reading_error failed with refused | failed
  · unfold Store.checkTenantReadable at refused
    split at refused
    · cases refused
    · split at refused
      · cases refused
      · cases refused
  · cases failed

/-- The lookups of a store fail only where its tenant cannot be read. -/
theorem Store.lookups_neverTooDeep (s : Store V) (tc : TenantContext V) (clock : Clock) :
    (s.lookups (some tc) clock).NeverTooDeep where
  direct failed := Store.reading_shallow failed
  subjects failed := Store.reading_shallow failed
  related failed := Store.reading_shallow failed

end Memory

/--
A check fails for its depth only on a graph that is that deep.

The chain starts at the requested node and hops along tuples that were live when the check began.
-/
theorem depth_error_needs_chain (e : Engine P) (lang : ExprLang V P) (s : Memory.Store V)
    (tc : TenantContext V) (clock : Memory.Clock) (now : Time) (req : CheckRequest V)
    {cs : CompiledSchema P} {limit : Int} (forward : ∀ n, now ≤ clock n)
    (chosen : e.schemaForTenant tc = .ok cs) (positive : 0 ≤ e.cfg.maxCheckDepth)
    (exceeded : e.check lang (s.lookups (some tc) clock) (some tc) req =
      .error (.maxCheckDepthExceeded limit)) :
    ∃ chain : List Node, (chain.length : Int) = e.cfg.maxCheckDepth + 2 ∧
      chain.head? = some req.node ∧ chain.Nodup ∧
      chain.IsChain (s.world tc lang cs now req.subjectType req.subjectID).Hop ∧
      ∀ node ∈ chain, ∃ permDef, cs.getPermission node.type node.permission = .ok permDef := by
  -- The error comes from the walk, since the tenant's own errors are others.
  have passes : checkTenant (some tc) = .ok tc := by
    cases passed : checkTenant (some tc) with
    | ok other => rw [checkTenant_same passed]
    | error refused =>
      rw [Engine.check_refused passed] at exceeded
      exact absurd ⟨limit, Except.error.inj exceeded⟩ (checkTenant_shallow passed)
  rw [Engine.check_eq passes chosen] at exceeded
  have asks : (s.world tc lang cs now req.subjectType req.subjectID).Asks req := ⟨rfl, rfl⟩
  have triple := Walker.check_deep (s.shows tc e lang cs forward req.subjectType req.subjectID)
    (s.lookups_neverTooDeep tc clock) asks
  cases outcome : ((e.walker lang (s.lookups (some tc) clock) cs).check req).from .start with
  | mk out after =>
    rw [outcome] at exceeded
    obtain rfl : out = .error (.maxCheckDepthExceeded limit) := exceeded
    obtain ⟨chain, deep⟩ := WalkM.triple_error triple rfl outcome ⟨limit, rfl⟩
    refine ⟨chain, ?_, deep.first, deep.apart.of_map, deep.hops, deep.declared⟩
    have hops : (e.walker lang (s.lookups (some tc) clock) cs).hopsAt 0 =
        (e.cfg.maxCheckDepth + 1 - (0 : Nat)).toNat := rfl
    rw [deep.length, hops]
    omega

/-- Three folders in a row, and the first of them once more above the last. -/
def folderRow : List (RelationTuple Bool) :=
  [fact "folder" "a" "parent" "folder" "b", fact "folder" "b" "parent" "folder" "c",
   fact "folder" "c" "parent" "folder" "a"]

/-- A row of three folders is too deep for a limit of one, cycle or not. -/
theorem depth_error_needs_chain_folderRow :
    ∃ chain : List Node, (chain.length : Int) = 1 + 2 ∧
      chain.head? = some ⟨"folder", "a", "view"⟩ ∧ chain.Nodup ∧
      chain.IsChain ((acmeStore folderRow).world acme literalLang folderSchema 0 "user" "u").Hop ∧
      ∀ node ∈ chain, ∃ permDef,
        folderSchema.getPermission node.type node.permission = .ok permDef :=
  depth_error_needs_chain (acmeEngine folderSchema 1) literalLang (acmeStore folderRow) acme
    (fun _ => 0) 0 folderRequest (fun _ => le_rfl) rfl (by decide)
    (show _ = Except.error (Err.maxCheckDepthExceeded 1) from rfl)

end ZanGuard
