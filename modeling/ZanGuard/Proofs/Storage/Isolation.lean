import ZanGuard.Proofs.Engine.Sound
import ZanGuard.Storage.System

/-! Operations work inside the slice of their own tenant, so tenants cannot observe one another. -/

namespace ZanGuard

variable {V P : Type}

namespace Memory

/-- Everything a store holds for one tenant. -/
structure Slice (V : Type) where
  tenant : Option (Tenant V)
  tuples : Option (List (RelationTuple V))
  objAttrs : Option (StringMap (AnyMap V))
  subAttrs : Option (StringMap (AnyMap V))
  changelog : Option (List (ChangelogEntry V))
  sequence : Option UInt64

/-- The part of a store that belongs to a tenant. -/
def Store.slice (s : Store V) (tenantID : String) : Slice V where
  tenant := s.tenants.lookup tenantID
  tuples := s.tuples.lookup tenantID
  objAttrs := s.objAttrs.lookup tenantID
  subAttrs := s.subAttrs.lookup tenantID
  changelog := s.changelog.lookup tenantID
  sequence := s.seqCounter.lookup tenantID

/-- Two stores with equal slices hold equal buckets for the tenant. -/
theorem slice_eq_iff {s t : Store V} {tenantID : String} :
    s.slice tenantID = t.slice tenantID ↔
      s.tenants.lookup tenantID = t.tenants.lookup tenantID ∧
      s.tuples.lookup tenantID = t.tuples.lookup tenantID ∧
      s.objAttrs.lookup tenantID = t.objAttrs.lookup tenantID ∧
      s.subAttrs.lookup tenantID = t.subAttrs.lookup tenantID ∧
      s.changelog.lookup tenantID = t.changelog.lookup tenantID ∧
      s.seqCounter.lookup tenantID = t.seqCounter.lookup tenantID := by
  simp only [Store.slice, Slice.mk.injEq]

section Foreign

variable {s : Store V} {mine other : String}

/-- Opening the buckets of a tenant does not touch another's. -/
theorem initTenant_foreign (apart : mine ≠ other) :
    (s.initTenant other).slice mine = s.slice mine := by
  -- Either the buckets are there already, or new ones go under the other tenant.
  unfold Store.initTenant
  split
  · rfl
  · simp [Store.slice, AList.lookup_insert_ne apart]

/-- Logging a change of a tenant does not touch another's slice. -/
theorem appendTupleChangelogUnsafe_foreign (apart : mine ≠ other) (op : ChangeOp)
    (tuple : RelationTuple V) (source : String) (timestamp : Time) :
    (s.appendTupleChangelogUnsafe other op tuple source timestamp).slice mine = s.slice mine := by
  simp [Store.appendTupleChangelogUnsafe, Store.slice, AList.lookup_insert_ne apart]

/-- Logging a batch of a tenant does not touch another's slice. -/
theorem logInserts_foreign (apart : mine ≠ other) (clock : Clock) (i : Nat)
    (staged : List (RelationTuple V)) :
    (s.logInserts other clock i staged).slice mine = s.slice mine := by
  -- By induction on the batch, one entry at a time.
  induction staged generalizing s i with
  | nil => rfl
  | cons t rest ih => rw [Store.logInserts, ih, appendTupleChangelogUnsafe_foreign apart]

/-- Writing a batch of a tenant does not touch another's slice. -/
theorem writeTuplesLocked_foreign (apart : mine ≠ other) (tuples : List (RelationTuple V))
    (clock : Clock) : (s.writeTuplesLocked other tuples clock).2.slice mine = s.slice mine := by
  -- A batch is refused as a whole or goes into the buckets of its tenant.
  unfold Store.writeTuplesLocked
  split
  · rfl
  · simp only
    split
    · rfl
    · rw [logInserts_foreign apart]
      simp [Store.slice, AList.lookup_insert_ne apart]

/-- A write touches only what its body touches, for the tenant of its context. -/
theorem writing_foreign {ctx : Context V} {body : String → Except Err Unit × Store V}
    (apart : ctx.map (·.tenantID) ≠ some mine)
    (touches : ∀ tenantID, mine ≠ tenantID → (body tenantID).2.slice mine = s.slice mine) :
    (s.writing ctx body).2.slice mine = s.slice mine := by
  -- The body runs for the tenant of the context, if it runs at all.
  unfold Store.writing
  cases ctx with
  | none => rfl
  | some tc =>
    have other : mine ≠ tc.tenantID := fun same => apart (by simp [same])
    simp only [tenantIDFromCtx]
    split
    · rfl
    · exact touches tc.tenantID other

end Foreign

section Own

variable {s t : Store V} {mine : String}

/-- Two outcomes a tenant cannot tell apart. -/
def Alike (mine : String) (left right : Except Err Unit × Store V) : Prop :=
  left.1 = right.1 ∧ left.2.slice mine = right.2.slice mine

/-- Stores with equal slices let a tenant write alike. -/
theorem writing_own (same : s.slice mine = t.slice mine) {ctx : Context V}
    (owned : ctx.map (·.tenantID) = some mine) {body again : String → Except Err Unit × Store V}
    (bodies : Alike mine (body mine) (again mine)) :
    Alike mine (s.writing ctx body) (t.writing ctx again) := by
  -- The guard reads the tenant record, which is part of the slice.
  obtain ⟨tenant, -⟩ := slice_eq_iff.mp same
  cases ctx with
  | none => simp at owned
  | some tc =>
    obtain rfl : tc.tenantID = mine := by simpa using owned
    have writable : s.checkTenantWritable tc.tenantID = t.checkTenantWritable tc.tenantID := by
      simp only [Store.checkTenantWritable, tenant]
    simp only [Store.writing, tenantIDFromCtx, writable]
    split
    · exact ⟨rfl, same⟩
    · exact bodies

/-- Stores with equal slices let a tenant read alike. -/
theorem reading_own {α : Type} (same : s.slice mine = t.slice mine) {ctx : Context V}
    (owned : ctx.map (·.tenantID) = some mine) {body again : String → Except Err α}
    (bodies : body mine = again mine) : s.reading ctx body = t.reading ctx again := by
  -- The guard reads the tenant record, which is part of the slice.
  obtain ⟨tenant, -⟩ := slice_eq_iff.mp same
  cases ctx with
  | none => simp at owned
  | some tc =>
    obtain rfl : tc.tenantID = mine := by simpa using owned
    have readable : s.checkTenantReadable tc.tenantID = t.checkTenantReadable tc.tenantID := by
      simp only [Store.checkTenantReadable, tenant]
    simp only [Store.reading, tenantIDFromCtx, bind, Except.bind, readable, bodies]

/-- Stores with equal slices open a tenant's buckets alike. -/
theorem initTenant_own (same : s.slice mine = t.slice mine) :
    (s.initTenant mine).slice mine = (t.initTenant mine).slice mine := by
  -- Whether buckets are there is seen in the slice itself.
  obtain ⟨tenant, tuples, -⟩ := slice_eq_iff.mp same
  simp only [Store.initTenant, tuples]
  split
  · exact same
  · simp [Store.slice, tenant]

/-- Stores with equal slices log a tenant's change alike. -/
theorem appendTupleChangelogUnsafe_own (same : s.slice mine = t.slice mine) (op : ChangeOp)
    (tuple : RelationTuple V) (source : String) (timestamp : Time) :
    (s.appendTupleChangelogUnsafe mine op tuple source timestamp).slice mine =
      (t.appendTupleChangelogUnsafe mine op tuple source timestamp).slice mine := by
  obtain ⟨tenant, tuples, objAttrs, subAttrs, changelog, sequence⟩ := slice_eq_iff.mp same
  simp [Store.appendTupleChangelogUnsafe, Store.slice, Store.seqOf, Store.changelogOf, tenant,
    tuples, objAttrs, subAttrs, changelog, sequence]

/-- Stores with equal slices log a tenant's batch alike. -/
theorem logInserts_own (same : s.slice mine = t.slice mine) (clock : Clock) (i : Nat)
    (staged : List (RelationTuple V)) :
    (s.logInserts mine clock i staged).slice mine =
      (t.logInserts mine clock i staged).slice mine := by
  -- By induction on the batch, keeping the slices equal.
  induction staged generalizing s t i with
  | nil => exact same
  | cons tuple rest ih => exact ih (appendTupleChangelogUnsafe_own same _ _ _ _) (i + 1)

/-- Stores with equal slices write a tenant's batch alike. -/
theorem writeTuplesLocked_own (same : s.slice mine = t.slice mine)
    (tuples : List (RelationTuple V)) (clock : Clock) :
    Alike mine (s.writeTuplesLocked mine tuples clock) (t.writeTuplesLocked mine tuples clock) := by
  -- The indexes are built from the stored tuples, which are the same list.
  obtain ⟨tenant, stored, objAttrs, subAttrs, changelog, sequence⟩ := slice_eq_iff.mp same
  have listed : s.tuplesOf mine = t.tuplesOf mine := by simp only [Store.tuplesOf, stored]
  unfold Store.writeTuplesLocked
  split
  · exact ⟨rfl, same⟩
  · simp only [listed]
    split
    · exact ⟨rfl, same⟩
    · -- Both stores place the batch into equal lists and then log it.
      refine ⟨rfl, logInserts_own ?_ clock 1 _⟩
      simp [Store.slice, tenant, objAttrs, subAttrs, changelog, sequence]

/-- Stores with equal slices answer a tenant's lookups alike. -/
theorem lookups_own (same : s.slice mine = t.slice mine) {ctx : Context V}
    (owned : ctx.map (·.tenantID) = some mine) (clock : Clock) :
    s.lookups ctx clock = t.lookups ctx clock := by
  -- Each lookup reads one bucket of the tenant.
  obtain ⟨tenant, stored, objAttrs, subAttrs, changelog, sequence⟩ := slice_eq_iff.mp same
  have listed : s.tuplesOf mine = t.tuplesOf mine := by simp only [Store.tuplesOf, stored]
  simp only [Store.lookups, Lookups.mk.injEq]
  refine ⟨?_, ?_, ?_, ?_, ?_⟩
  · funext n objectType objectID relation subjectType subjectID
    exact reading_own same owned (by simp only [listed])
  · funext n objectType objectID relation
    exact reading_own same owned (by simp only [Store.liveTuples, listed])
  · funext n objectType objectID relation
    exact reading_own same owned (by simp only [Store.liveTuples, listed])
  · funext n objectType objectID
    exact reading_own same owned (by simp only [bucketGet, objAttrs])
  · funext n subjectType subjectID
    exact reading_own same owned (by simp only [bucketGet, subAttrs])

end Own

end Memory

open Memory

/-- Two deployments a tenant with a schema of its own cannot tell apart. -/
structure SameFor (mine : String) (left right : System V P) : Prop where
  slice : left.store.slice mine = right.store.slice mine
  schema : left.engine.schemas.lookup mine = right.engine.schemas.lookup mine
  cfg : left.engine.cfg = right.engine.cfg

/-- A check is made in a schema mode that reads the tenant's own schema. -/
def Op.OwnSchema : Op V P → Prop
  | .check (some tc) _ _ => tc.tenant.schemaMode = .own ∨ tc.tenant.schemaMode = .inherited
  | _ => True

/-- Deployments that agree on a tenant's store slice keep agreeing after alike outcomes. -/
theorem SameFor.mutate {mine : String} {left right : System V P} (same : SameFor mine left right)
    {first second : Except Err Unit × Store V} (alike : Alike mine first second) :
    (left.mutate first).1 = (right.mutate second).1 ∧
      SameFor mine (left.mutate first).2 (right.mutate second).2 := by
  obtain ⟨outcome, slices⟩ := alike
  exact ⟨congrArg Reply.done outcome, slices, same.schema, same.cfg⟩

/-- Deployments that agree for a tenant answer its checks alike. -/
theorem SameFor.check {mine : String} {left right : System V P} (same : SameFor mine left right)
    (lang : ExprLang V P) {ctx : Context V} (owned : ctx.map (·.tenantID) = some mine)
    (req : CheckRequest V) (clock : Clock)
    (modes : (Op.check ctx req clock : Op V P).OwnSchema) :
    left.engine.check lang (left.store.lookups ctx clock) ctx req =
      right.engine.check lang (right.store.lookups ctx clock) ctx req := by
  rw [lookups_own same.slice owned clock]
  cases ctx with
  | none => rfl
  | some tc =>
    obtain rfl : tc.tenantID = mine := by simpa using owned
    have chosen : left.engine.schemaForTenant tc = right.engine.schemaForTenant tc := by
      unfold Engine.schemaForTenant
      rcases modes with mode | mode <;> simp only [mode, same.schema]
    unfold Engine.check
    -- The tenant's own record decides whether the check goes on, and it comes with the call.
    cases passed : checkTenant (some tc) with
    | error e => rfl
    | ok passing =>
      obtain rfl := checkTenant_same passed
      simp only [bind, Except.bind, chosen, same.cfg]

/-- Deployments that agree for a tenant answer its calls alike, and agree for it afterwards. -/
theorem SameFor.step {mine : String} {left right : System V P} (same : SameFor mine left right)
    (lang : ExprLang V P) {op : Op V P} (owned : op.owner = some mine) (modes : op.OwnSchema) :
    (System.step lang left op).1 = (System.step lang right op).1 ∧
      SameFor mine (System.step lang left op).2 (System.step lang right op).2 := by
  -- One case for each call: the reply and the new slice depend on the old slice only.
  obtain ⟨tenant, stored, objAttrs, subAttrs, changelog, sequence⟩ := slice_eq_iff.mp same.slice
  have listed : left.store.tuplesOf mine = right.store.tuplesOf mine := by
    simp only [Store.tuplesOf, stored]
  have logged : left.store.changelogOf mine = right.store.changelogOf mine := by
    simp only [Store.changelogOf, changelog]
  have counted : left.store.seqOf mine = right.store.seqOf mine := by
    simp only [Store.seqOf, sequence]
  cases op with
  | createTenant t clock =>
    obtain rfl : t.id = mine := by simpa [Op.owner] using owned
    refine same.mutate ?_
    simp only [Store.createTenant, tenant]
    split
    · exact ⟨rfl, same.slice⟩
    · refine ⟨rfl, initTenant_own ?_⟩
      simp [Store.slice, stored, objAttrs, subAttrs, changelog, sequence]
  | getTenant id =>
    obtain rfl : id = mine := by simpa [Op.owner] using owned
    exact ⟨by simp only [System.step, Store.getTenant, tenant], same⟩
  | updateTenant t clock =>
    obtain rfl : t.id = mine := by simpa [Op.owner] using owned
    refine same.mutate ?_
    simp only [Store.updateTenant, tenant]
    split
    · exact ⟨rfl, same.slice⟩
    · refine ⟨rfl, ?_⟩
      simp [Store.slice, stored, objAttrs, subAttrs, changelog, sequence]
  | writeTuple ctx tuple clock =>
    exact same.mutate (writing_own same.slice owned (writeTuplesLocked_own same.slice _ _))
  | writeTuples ctx tuples clock =>
    exact same.mutate (writing_own same.slice owned (writeTuplesLocked_own same.slice _ _))
  | deleteTuple ctx tuple clock =>
    refine same.mutate (writing_own same.slice owned ?_)
    simp only [listed]
    split
    · exact ⟨rfl, same.slice⟩
    · refine ⟨rfl, appendTupleChangelogUnsafe_own ?_ _ _ _ _⟩
      simp [Store.slice, tenant, objAttrs, subAttrs, changelog, sequence]
  | readTuples ctx filter clock =>
    exact ⟨congrArg Reply.tuples (reading_own same.slice owned (by simp only [listed])), same⟩
  | checkDirect ctx objectType objectID relation subjectType subjectID now =>
    exact ⟨congrArg Reply.verdict (reading_own same.slice owned (by simp only [listed])), same⟩
  | listRelatedObjects ctx objectType objectID relation now =>
    exact ⟨congrArg Reply.objects
      (reading_own same.slice owned (by simp only [Store.liveTuples, listed])), same⟩
  | listSubjects ctx objectType objectID relation now =>
    exact ⟨congrArg Reply.subjects
      (reading_own same.slice owned (by simp only [Store.liveTuples, listed])), same⟩
  | expand ctx objectType objectID relation now =>
    exact ⟨congrArg Reply.tree
      (reading_own same.slice owned (by simp only [Store.liveTuples, listed])), same⟩
  | getObjectAttributes ctx objectType objectID =>
    exact ⟨congrArg Reply.attrs
      (reading_own same.slice owned (by simp only [bucketGet, objAttrs])), same⟩
  | setObjectAttributes ctx objectType objectID attrs =>
    refine same.mutate (writing_own same.slice owned ?_)
    simp only [bucketSet, objAttrs]
    cases right.store.objAttrs.lookup mine with
    | none => exact ⟨rfl, same.slice⟩
    | some bucket =>
      exact ⟨rfl, by simp [Store.slice, tenant, stored, subAttrs, changelog, sequence]⟩
  | listObjectAttributes ctx objectType =>
    exact ⟨congrArg Reply.entities
      (reading_own same.slice owned (by simp only [bucketList, objAttrs])), same⟩
  | getSubjectAttributes ctx subjectType subjectID =>
    exact ⟨congrArg Reply.attrs
      (reading_own same.slice owned (by simp only [bucketGet, subAttrs])), same⟩
  | setSubjectAttributes ctx subjectType subjectID attrs =>
    refine same.mutate (writing_own same.slice owned ?_)
    simp only [bucketSet, subAttrs]
    cases right.store.subAttrs.lookup mine with
    | none => exact ⟨rfl, same.slice⟩
    | some bucket =>
      exact ⟨rfl, by simp [Store.slice, tenant, stored, objAttrs, changelog, sequence]⟩
  | listSubjectAttributes ctx subjectType =>
    exact ⟨congrArg Reply.entities
      (reading_own same.slice owned (by simp only [bucketList, subAttrs])), same⟩
  | appendChangelog ctx entry clock =>
    refine same.mutate (writing_own same.slice owned ⟨rfl, ?_⟩)
    simp [Store.slice, tenant, stored, objAttrs, subAttrs, logged, counted]
  | readChangelog ctx sinceSeq limit =>
    exact ⟨congrArg Reply.entries (reading_own same.slice owned (by simp only [logged])), same⟩
  | latestSequence ctx =>
    exact ⟨congrArg Reply.sequence (reading_own same.slice owned (by simp only [counted])), same⟩
  | countTuples ctx clock =>
    exact ⟨congrArg Reply.count (reading_own same.slice owned (by simp only [listed])), same⟩
  | purgeTenantData ctx =>
    cases ctx with
    | none => simp [Op.owner] at owned
    | some tc =>
      obtain rfl : tc.tenantID = mine := by simpa [Op.owner] using owned
      exact same.mutate ⟨rfl, by simp [Store.purgeTenantData, tenantIDFromCtx, Store.slice, tenant]⟩
  | loadSchema id cs =>
    obtain rfl : id = mine := by simpa [Op.owner] using owned
    exact ⟨rfl, same.slice, by simp [System.step, Engine.loadSchema], same.cfg⟩
  | loadSharedSchema ref cs => cases owned
  | check ctx req clock =>
    exact ⟨congrArg Reply.checked (same.check lang owned req clock modes), same⟩

/-- A call of another tenant leaves a tenant's view as it was. -/
theorem step_foreign {mine : String} (sys : System V P) (lang : ExprLang V P) {op : Op V P}
    (foreign : op.owner ≠ some mine) : SameFor mine (System.step lang sys op).2 sys := by
  -- Reads return the state they were given, and writes stay inside the bucket they insert into.
  have kept : ∀ {result : Except Err Unit × Store V}, result.2.slice mine = sys.store.slice mine →
      SameFor mine (sys.mutate result).2 sys := fun slices => ⟨slices, rfl, rfl⟩
  cases op with
  | createTenant t clock =>
    have apart : mine ≠ t.id := fun same => foreign (by simp [Op.owner, same])
    refine kept ?_
    simp only [Store.createTenant]
    split
    · rfl
    · rw [initTenant_foreign apart]
      simp [Store.slice, AList.lookup_insert_ne apart]
  | updateTenant t clock =>
    have apart : mine ≠ t.id := fun same => foreign (by simp [Op.owner, same])
    refine kept ?_
    simp only [Store.updateTenant]
    split
    · rfl
    · simp [Store.slice, AList.lookup_insert_ne apart]
  | writeTuple ctx tuple clock =>
    exact kept (writing_foreign foreign fun _ apart => writeTuplesLocked_foreign apart _ _)
  | writeTuples ctx tuples clock =>
    exact kept (writing_foreign foreign fun _ apart => writeTuplesLocked_foreign apart _ _)
  | deleteTuple ctx tuple clock =>
    refine kept (writing_foreign foreign fun tenantID apart => ?_)
    simp only
    split
    · rfl
    · rw [appendTupleChangelogUnsafe_foreign apart]
      simp [Store.slice, AList.lookup_insert_ne apart]
  | setObjectAttributes ctx objectType objectID attrs =>
    refine kept (writing_foreign foreign fun tenantID apart => ?_)
    simp only [bucketSet]
    cases sys.store.objAttrs.lookup tenantID with
    | none => rfl
    | some bucket => simp [Store.slice, AList.lookup_insert_ne apart]
  | setSubjectAttributes ctx subjectType subjectID attrs =>
    refine kept (writing_foreign foreign fun tenantID apart => ?_)
    simp only [bucketSet]
    cases sys.store.subAttrs.lookup tenantID with
    | none => rfl
    | some bucket => simp [Store.slice, AList.lookup_insert_ne apart]
  | appendChangelog ctx entry clock =>
    refine kept (writing_foreign foreign fun tenantID apart => ?_)
    simp [Store.slice, AList.lookup_insert_ne apart]
  | purgeTenantData ctx =>
    cases ctx with
    | none => exact kept rfl
    | some tc =>
      have apart : mine ≠ tc.tenantID := fun same => foreign (by simp [Op.owner, same])
      exact kept (by
        simp [Store.purgeTenantData, tenantIDFromCtx, Store.slice, AList.lookup_insert_ne apart])
  | loadSchema id cs =>
    have apart : mine ≠ id := fun same => foreign (by simp [Op.owner, same])
    exact ⟨rfl, by simp [System.step, Engine.loadSchema, AList.lookup_insert_ne apart], rfl⟩
  | _ => exact ⟨rfl, rfl, rfl⟩

/-- A tenant's view is an unwinding of the deployment. -/
theorem isolation_unwinding (lang : ExprLang V P) (mine : String) :
    (system lang).Unwinding (fun op => decide (op.owner = some mine)) Op.OwnSchema
      (SameFor mine) where
  own owned modes same := same.step lang (of_decide_eq_true owned) modes
  foreign := by
    intro left right op foreign same
    have untouched := step_foreign left lang (of_decide_eq_false foreign)
    exact ⟨untouched.slice.trans same.slice, untouched.schema.trans same.schema,
      untouched.cfg.trans same.cfg⟩

/-- A tenant's replies are those of the run in which only that tenant made calls. -/
theorem tenant_isolation (lang : ExprLang V P) (cfg : Config) (mine : String)
    (ops : List (Op V P)) (modes : ∀ op ∈ ops, op.owner = some mine → op.OwnSchema) :
    ((system lang).trace (System.new cfg) ops).filter (fun call => call.1.owner = some mine) =
      (system lang).trace (System.new cfg) (ops.filter fun op => op.owner = some mine) := by
  refine (isolation_unwinding lang mine).trace_filter ?_ ⟨rfl, rfl, rfl⟩
  exact fun op member owned => modes op member (of_decide_eq_true owned)

/-- A second active tenant. -/
def globex : TenantContext Bool :=
  { tenantID := "globex", tenant := { acme.tenant with id := "globex" } }

/-- Two tenants create themselves and write the same tuple, and one of them looks at the outcome. -/
def twoTenants : List (Op Bool Bool) :=
  [.createTenant acme.tenant fun _ => 1,
   .createTenant globex.tenant fun _ => 2,
   .loadSchema "globex" folderSchema,
   .loadSchema "acme" folderSchema,
   .writeTuple (some globex) (fact "folder" "a" "viewer" "user" "u") fun _ => 3,
   .writeTuple (some acme) (fact "folder" "a" "viewer" "user" "u") fun _ => 4,
   .latestSequence (some acme),
   .check (some acme) folderRequest fun _ => 5]

/-- The first tenant's replies do not change when the second one's calls are left out. -/
theorem tenant_isolation_twoTenants :
    ((system literalLang).trace (System.new defaultConfig) twoTenants).filter
        (fun call => call.1.owner = some "acme") =
      (system literalLang).trace (System.new defaultConfig)
        (twoTenants.filter fun op => op.owner = some "acme") := by
  refine tenant_isolation literalLang defaultConfig "acme" twoTenants ?_
  intro op member _
  -- Every call of the run is one of the eight listed.
  simp only [twoTenants, List.mem_cons, List.not_mem_nil, or_false] at member
  rcases member with rfl | rfl | rfl | rfl | rfl | rfl | rfl | rfl
  -- Only the last call is a check, and it reads the tenant's own schema.
  · trivial
  · trivial
  · trivial
  · trivial
  · trivial
  · trivial
  · trivial
  · exact .inl rfl

end ZanGuard
