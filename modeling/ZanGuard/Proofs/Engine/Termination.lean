import ZanGuard.Proofs.Engine.Visits

/-! A check enters no node twice, and so it ends without its limit of depth. -/

namespace ZanGuard

open Visits

variable {V P : Type}

/-- A store that lists only what stands in finitely many tuples, live or not when it is asked. -/
structure FiniteStore (V : Type) where
  lookups : Lookups V
  tuples : List (RelationTuple V)
  subjects : ∀ {n type id relation listed},
    lookups.listSubjects n type id relation = .ok listed →
      ∀ subj ∈ listed, ∃ t ∈ tuples, t.subjectType = subj.type ∧ t.subjectID = subj.id
  related : ∀ {n type id relation listed},
    lookups.listRelatedObjects n type id relation = .ok listed →
      ∀ target ∈ listed, ∃ t ∈ tuples, t.subjectType = target.type ∧ t.subjectID = target.id

/-- The memory store lists the tuples of its tenant. -/
def Memory.Store.finite (s : Memory.Store V) (tc : TenantContext V) (clock : Memory.Clock) :
    FiniteStore V where
  lookups := s.lookups (some tc) clock
  tuples := s.tuplesOf tc.tenantID
  subjects := by
    intro n type id relation listed found subj member
    obtain ⟨t, ⟨stored, -⟩, -, -, -, rfl⟩ := Store.mem_of_listed found member
    exact ⟨t, stored, rfl, rfl⟩
  related := by
    intro n type id relation listed found target member
    obtain ⟨t, ⟨stored, -⟩, -, -, -, rfl⟩ := Store.mem_of_listed found member
    exact ⟨t, stored, rfl, rfl⟩

/-- The objects that occur in tuples, and the one a request is about. -/
def objectsOf (tuples : List (RelationTuple V)) (req : CheckRequest V) : List ObjectRef :=
  { type := req.objectType, id := req.objectID } :: tuples.flatMap fun t =>
    [{ type := t.objectType, id := t.objectID }, { type := t.subjectType, id := t.subjectID }]

/-- The permissions a type declares. -/
def CompiledSchema.permissionsOf (cs : CompiledSchema P) (type : String) : List String :=
  match cs.types.lookup type with
  | none => []
  | some td => td.permissions.keys

/-- Objects paired with the permissions of their types. -/
def CompiledSchema.nodes (cs : CompiledSchema P) (objects : List ObjectRef) : Finset Node :=
  (objects.flatMap fun object => (cs.permissionsOf object.type).map fun permission =>
    { type := object.type, id := object.id, permission : Node }).toFinset

/-- The nodes of a check: its objects, paired with the permissions of the schema in force. -/
def Engine.nodes (e : Engine P) (tuples : List (RelationTuple V)) (ctx : Context V)
    (req : CheckRequest V) : Finset Node :=
  match checkTenant ctx >>= e.schemaForTenant with
  | .error _ => ∅
  | .ok cs => cs.nodes (objectsOf tuples req)

/-- The key under which a check for the subject of a request remembers a node. -/
def CheckRequest.keyOf (req : CheckRequest V) (node : Node) : String :=
  visitKey node.type node.id node.permission req.subjectType req.subjectID

/--
A check ends because it runs out of new nodes, and not because of its limit of depth.

An `entered` node is one for which the body of `walkPermission` was run, after its visited test.
-/
structure Engine.Terminates (e : Engine P) (lang : ExprLang V P) (store : FiniteStore V)
    (ctx : Context V) (req : CheckRequest V) : Prop where
  /-- The record is that of the check. -/
  outcome : (e.visits lang store.lookups ctx req).1 = e.check lang store.lookups ctx req
  /-- No node is entered twice. -/
  once : (entered (e.visits lang store.lookups ctx req).2).Nodup
  /-- All of them pair an object of the tuples or the request with a permission of its type. -/
  among : ∀ node ∈ entered (e.visits lang store.lookups ctx req).2,
    node ∈ e.nodes store.tuples ctx req
  /-- Each of them leaves fewer that can be entered. -/
  shrinks : ∀ before node after,
    entered (e.visits lang store.lookups ctx req).2 = before ++ node :: after →
      unvisited req.keyOf (e.nodes store.tuples ctx req) (before ++ [node]) ⊂
        unvisited req.keyOf (e.nodes store.tuples ctx req) before
  /-- A limit that leaves room for all of them is never met, -/
  ends : (e.nodes store.tuples ctx req).card ≤ e.cfg.maxCheckDepth + 1 →
    ∀ node, Event.stopped node ∉ (e.visits lang store.lookups ctx req).2
  /-- and raising it makes no difference. -/
  same : (e.nodes store.tuples ctx req).card ≤ e.cfg.maxCheckDepth + 1 →
    ∀ cfg : Config, e.cfg.maxCheckDepth ≤ cfg.maxCheckDepth →
      (e.limited cfg).check lang store.lookups ctx req = e.check lang store.lookups ctx req

/-- A declared permission of an object is a node. -/
theorem CompiledSchema.mem_nodes {cs : CompiledSchema P} {objects : List ObjectRef}
    {object : ObjectRef} (member : object ∈ objects) {permission : String}
    (declares : cs.Declares object.type permission) :
    ⟨object.type, object.id, permission⟩ ∈ cs.nodes objects := by
  obtain ⟨permDef, found⟩ := declares
  obtain ⟨td, typed, filed⟩ := getPermission_mem found
  -- What a type declares is listed among its permissions.
  have listed : permission ∈ cs.permissionsOf object.type := by
    rw [permissionsOf, AList.mem_lookup_iff.mpr typed]
    exact List.mem_keys_of_mem filed
  exact List.mem_toFinset.mpr
    (List.mem_flatMap.mpr ⟨object, member, List.mem_map.mpr ⟨permission, listed, rfl⟩⟩)

section InForce

variable {e : Engine P} {ctx : Context V} {cs : CompiledSchema P}

/-- The nodes of a check are those of the schema in force. -/
theorem Engine.InForce.nodes_eq (force : e.InForce ctx cs) (tuples : List (RelationTuple V))
    (req : CheckRequest V) : e.nodes tuples ctx req = cs.nodes (objectsOf tuples req) := by
  obtain ⟨tc, passed, chosen⟩ := force
  simp only [Engine.nodes, passed, bind, Except.bind, chosen]

/-- A declared permission of the requested object is a node. -/
theorem Engine.InForce.root_mem (force : e.InForce ctx cs) (tuples : List (RelationTuple V))
    {req : CheckRequest V} (declares : cs.Declares req.objectType req.permission) :
    req.node ∈ e.nodes tuples ctx req := by
  have object : { type := req.objectType, id := req.objectID } ∈ objectsOf tuples req :=
    List.mem_cons_self
  rw [force.nodes_eq]
  exact CompiledSchema.mem_nodes object declares

/-- So is a declared permission of an object that a tuple has as its subject. -/
theorem Engine.InForce.subject_mem (force : e.InForce ctx cs) {tuples : List (RelationTuple V)}
    (req : CheckRequest V) {type id permission : String}
    (listed : ∃ t ∈ tuples, t.subjectType = type ∧ t.subjectID = id)
    (declares : cs.Declares type permission) :
    ⟨type, id, permission⟩ ∈ e.nodes tuples ctx req := by
  obtain ⟨t, stored, rfl, rfl⟩ := listed
  have object : { type := t.subjectType, id := t.subjectID } ∈ objectsOf tuples req :=
    List.mem_cons_of_mem _ (List.mem_flatMap.mpr ⟨t, stored, by simp⟩)
  rw [force.nodes_eq]
  exact CompiledSchema.mem_nodes object declares

end InForce

/--
A check terminates, whatever its limit of depth is.

The schema, the tuples and the request are arbitrary, and the store may fail at any lookup.
-/
theorem check_terminates (e : Engine P) (lang : ExprLang V P) (store : FiniteStore V)
    (ctx : Context V) (req : CheckRequest V) : e.Terminates lang store ctx req := by
  -- The search may enter the nodes that are counted, and may pass over any.
  let rules : Rules Node String :=
    { key := req.keyOf, mayEnter := (· ∈ e.nodes store.tuples ctx req), maySkip := fun _ => True
      limit := (e.cfg.maxCheckDepth + 1).toNat }
  have obeys : ∀ cs, e.InForce ctx cs →
      (e.walker lang store.lookups cs).Obeys rules req.subjectType req.subjectID := by
    intro cs force
    -- Whatever a walk comes to is the subject of a tuple.
    refine { key := fun _ => rfl, userset := ?_, target := ?_ }
    · intro n type id relation listed found subj member _
      exact ⟨trivial, force.subject_mem req (store.subjects found subj member)⟩
    · intro type permission permDef child n id listed _ _ _ found target member
      exact ⟨trivial, force.subject_mem req (store.related found target member)⟩
  have root : ∀ cs, e.InForce ctx cs →
      cs.Declares req.objectType req.permission → rules.mayEnter req.node :=
    fun cs force => force.root_mem store.tuples
  obtain ⟨outcome, allowed, same⟩ := Engine.visits_recorded obeys root rfl
  have among : ∀ node, rules.mayEnter node → node ∈ e.nodes store.tuples ctx req := fun _ may => may
  have room : (e.nodes store.tuples ctx req).card ≤ e.cfg.maxCheckDepth + 1 →
      (e.nodes store.tuples ctx req).card ≤ rules.limit := by
    intro enough
    show _ ≤ (e.cfg.maxCheckDepth + 1).toNat
    omega
  exact
    { outcome
      once := allowed.nodup
      among := allowed.entered_apart.1
      shrinks := fun _ _ _ order => allowed.shrinks among order
      ends := fun enough node => allowed.not_stopped among (room enough) node
      same := fun enough cfg deeper => same ⟨_, among, room enough⟩ cfg deeper }

/-- Folders that contain each other are entered once, and then passed over. -/
example :
    ((acmeEngine folderSchema 25).visits literalLang
      ((acmeStore folderLoop).finite acme fun _ => 6).lookups (some acme) folderRequest).2 =
        [.entered ⟨"folder", "a", "view"⟩, .entered ⟨"folder", "b", "view"⟩,
          .skipped ⟨"folder", "a", "view"⟩] := by
  decide

end ZanGuard
