import ZanGuard.Engine.Check

/-! The in-memory store: per-tenant buckets, and the operations that read and write them. -/

namespace ZanGuard.Memory

/-- The clock readings one call makes, in order. -/
abbrev Clock := Nat → Time

/-- The store's maps, each keyed by tenant. -/
structure Store (V : Type) where
  tenants : StringMap (Tenant V)
  tuples : StringMap (List (RelationTuple V))
  /-- Attributes by the text `type:id`. -/
  objAttrs : StringMap (StringMap (AnyMap V))
  subAttrs : StringMap (StringMap (AnyMap V))
  changelog : StringMap (List (ChangelogEntry V))
  seqCounter : StringMap UInt64

variable {V : Type}

/-- An empty store. -/
def Store.new : Store V :=
  { tenants := ∅, tuples := ∅, objAttrs := ∅, subAttrs := ∅, changelog := ∅, seqCounter := ∅ }

/-- The tuples of a tenant; a missing bucket reads as an empty one. -/
def Store.tuplesOf (s : Store V) (tenantID : String) : List (RelationTuple V) :=
  (s.tuples.lookup tenantID).getD []

/-- The changelog of a tenant. -/
def Store.changelogOf (s : Store V) (tenantID : String) : List (ChangelogEntry V) :=
  (s.changelog.lookup tenantID).getD []

/-- The last sequence number a tenant was given. -/
def Store.seqOf (s : Store V) (tenantID : String) : UInt64 :=
  (s.seqCounter.lookup tenantID).getD 0

/-- The stored status of a tenant. -/
def Store.statusOf (s : Store V) (tenantID : String) : Option TenantStatus :=
  (s.tenants.lookup tenantID).map (·.status)

/-- Whether a tuple is expired at an instant; its own expiry instant counts as past. -/
def tupleIsExpiredAt (t : RelationTuple V) (now : Time) : Bool :=
  match t.expiresAt with
  | none => false
  | some expiresAt => !(expiresAt > now)

/-- The text under which a tuple counts as the same fact as another. -/
def tupleIdentityKey (t : RelationTuple V) : String :=
  t.objectType ++ ":" ++ t.objectID ++ "#" ++ t.relation ++ "@" ++
    t.subjectType ++ ":" ++ t.subjectID ++ "#" ++ t.subjectRelation

/-- Whether a filter lets a tuple pass, field by field. -/
def matchesTupleFilter (t : RelationTuple V) (filter : Option TupleFilter) : Bool :=
  match filter with
  | none => true
  | some f =>
    (f.objectType == "" || t.objectType == f.objectType) &&
    (f.objectID == "" || t.objectID == f.objectID) &&
    (f.relation == "" || t.relation == f.relation) &&
    (f.subjectType == "" || t.subjectType == f.subjectType) &&
    (f.subjectID == "" || t.subjectID == f.subjectID) &&
    (f.subjectRelation == "" || t.subjectRelation == f.subjectRelation)

/-! ### Tenants -/

/-- Give a tenant its buckets, unless it has them already. -/
def Store.initTenant (s : Store V) (tenantID : String) : Store V :=
  -- The map of tuples stands for all five maps.
  match s.tuples.lookup tenantID with
  | some _ => s
  | none =>
    { s with
      tuples := s.tuples.insert tenantID []
      objAttrs := s.objAttrs.insert tenantID ∅
      subAttrs := s.subAttrs.insert tenantID ∅
      changelog := s.changelog.insert tenantID []
      seqCounter := s.seqCounter.insert tenantID 0 }

/-- Store a new tenant and open its buckets. -/
def Store.createTenant (s : Store V) (tenant : Tenant V) (clock : Clock) :
    Except Err Unit × Store V :=
  match s.tenants.lookup tenant.id with
  | some _ => (.error (.tenantExists tenant.id), s)
  | none =>
    let now := clock 0
    let t := { tenant with
      createdAt := if isZeroTime tenant.createdAt then now else tenant.createdAt
      updatedAt := now }
    (.ok (), { s with tenants := s.tenants.insert tenant.id t }.initTenant tenant.id)

/-- Read a tenant record. -/
def Store.getTenant (s : Store V) (tenantID : String) : Except Err (Tenant V) :=
  match s.tenants.lookup tenantID with
  | none => .error .tenantNotFound
  | some t => .ok t

/-- Replace a tenant record as a whole, without looking at the stored one. -/
def Store.updateTenant (s : Store V) (tenant : Tenant V) (clock : Clock) :
    Except Err Unit × Store V :=
  match s.tenants.lookup tenant.id with
  | none => (.error .tenantNotFound, s)
  | some _ =>
    -- The caller's record takes the place of the stored one, its parent and its status included.
    (.ok (), { s with tenants := s.tenants.insert tenant.id { tenant with updatedAt := clock 0 } })

/-- The page of a listing that a filter asks for. -/
def applyTenantFilter (tenants : List (Tenant V)) (filter : Option TenantFilter) :
    Except Err (List (Tenant V)) :=
  match filter with
  | none => .ok tenants
  | some f =>
    if f.offset ≥ tenants.length then .ok []
    else
      let start := if f.offset < 0 then 0 else f.offset
      -- The sum of the two numbers wraps around before it is compared with the length.
      let stop := addInt start f.limit
      slice tenants start
        (if f.limit > 0 ∧ stop < tenants.length then stop else tenants.length)

/-- The tenants a filter selects, ordered by their IDs. -/
def Store.selectTenants (s : Store V) (filter : Option TenantFilter) : List (Tenant V) :=
  let selected := (s.tenants.entries.map (·.2)).filter fun t =>
    match filter with
    | none => true
    | some f =>
      (f.status == .other "" || t.status == f.status) &&
        (f.parentID == "" || t.parentTenantID == f.parentID)
  selected.mergeSort fun a b => a.id ≤ b.id

/-- The page of the selected tenants that a filter asks for. -/
def Store.listTenants (s : Store V) (filter : Option TenantFilter) :
    Except Err (List (Tenant V)) :=
  applyTenantFilter (s.selectTenants filter) filter

/-- Writes need a stored tenant that is none of deleted, suspended and pending. -/
def Store.checkTenantWritable (s : Store V) (tenantID : String) : Except Err Unit :=
  match s.tenants.lookup tenantID with
  | none => .error .tenantNotFound
  | some t =>
    match t.status with
    | .deleted => .error .tenantDeleted
    | .suspended => .error .tenantSuspended
    -- A pending tenant is refused like a suspended one.
    | .pending => .error .tenantSuspended
    | _ => .ok ()

/-- Reads need a stored tenant that is not deleted. -/
def Store.checkTenantReadable (s : Store V) (tenantID : String) : Except Err Unit :=
  match s.tenants.lookup tenantID with
  | none => .error .tenantNotFound
  | some t => if t.status = .deleted then .error .tenantDeleted else .ok ()

/-- The frame of a write: find the tenant in the context and check that it is writable. -/
def Store.writing (s : Store V) (ctx : Context V)
    (body : String → Except Err Unit × Store V) : Except Err Unit × Store V :=
  match tenantIDFromCtx ctx with
  | .error e => (.error e, s)
  | .ok tenantID =>
    match s.checkTenantWritable tenantID with
    | .error e => (.error e, s)
    | .ok () => body tenantID

/-- The frame of a read: find the tenant in the context and check that it is readable. -/
def Store.reading {α : Type} (s : Store V) (ctx : Context V) (body : String → Except Err α) :
    Except Err α := do
  let tenantID ← tenantIDFromCtx ctx
  s.checkTenantReadable tenantID
  body tenantID

/-! ### Tuples -/

/-- Add a changelog entry under the next sequence number. -/
def Store.appendTupleChangelogUnsafe (s : Store V) (tenantID : String) (op : ChangeOp)
    (tuple : RelationTuple V) (source : String) (timestamp : Time) : Store V :=
  -- The counter is a machine integer, and wraps around after its last value.
  let sequence := s.seqOf tenantID + 1
  let entry : ChangelogEntry V := { sequence, tenantID, operation := op, tuple, timestamp, source }
  { s with
    seqCounter := s.seqCounter.insert tenantID sequence
    changelog := s.changelog.insert tenantID (s.changelogOf tenantID ++ [entry]) }

/-- What a batch write knows about the stored tuples. -/
structure TupleIndex where
  existingKeys : List String
  expiredIndexes : StringMap Nat

/-- File one stored tuple, keeping the first position of each expired key. -/
def TupleIndex.file (index : TupleIndex) (now : Time) (i : Nat) (t : RelationTuple V) : TupleIndex :=
  let key := tupleIdentityKey t
  if tupleIsExpiredAt t now then
    match index.expiredIndexes.lookup key with
    | some _ => index
    | none => { index with expiredIndexes := index.expiredIndexes.insert key i }
  else { index with existingKeys := key :: index.existingKeys }

/-- File the stored tuples in order, from a position on. -/
def TupleIndex.build (now : Time) : TupleIndex → Nat → List (RelationTuple V) → TupleIndex
  | index, _, [] => index
  | index, i, t :: rest => build now (index.file now i t) (i + 1) rest

/-- The stored form of a tuple that is being written. -/
def stageTuple (tenantID : String) (now : Time) (tuple : RelationTuple V) : RelationTuple V :=
  { tuple with
    tenantID
    createdAt := if isZeroTime tuple.createdAt then now else tuple.createdAt
    updatedAt := now }

/-- Stage a batch, refusing a key that is live in the store or was met in the batch. -/
def stageTuples (tenantID : String) (now : Time) (existingKeys : List String) :
    List String → List (RelationTuple V) → Except Err (List (RelationTuple V))
  | _, [] => .ok []
  | batchKeys, tuple :: rest => do
    let key := tupleIdentityKey tuple
    -- Expired tuples have no key among these, so they may be written again.
    if key ∈ existingKeys then throw .duplicateTuple
    if key ∈ batchKeys then throw .duplicateTuple
    let staged ← stageTuples tenantID now existingKeys (key :: batchKeys) rest
    return stageTuple tenantID now tuple :: staged

/-- Put staged tuples into the slots of expired ones, and collect the others. -/
def placeTuples (expiredIndexes : StringMap Nat) :
    List (RelationTuple V) → List (RelationTuple V) → List (RelationTuple V) →
      List (RelationTuple V) × List (RelationTuple V)
  | slots, appends, [] => (slots, appends)
  | slots, appends, t :: rest =>
    match expiredIndexes.lookup (tupleIdentityKey t) with
    -- An expired tuple is overwritten where it stands.
    | some i => placeTuples expiredIndexes (slots.set i t) appends rest
    | none => placeTuples expiredIndexes slots (appends ++ [t]) rest

/-- Log staged tuples one by one, each at a clock reading of its own from the given one on. -/
def Store.logInserts (s : Store V) (tenantID : String) (clock : Clock) :
    Nat → List (RelationTuple V) → Store V
  | _, [] => s
  | i, t :: rest =>
    (s.appendTupleChangelogUnsafe tenantID .insert t "api" (clock i)).logInserts tenantID clock
      (i + 1) rest

/-- Write a batch as a whole, or refuse it as a whole. -/
def Store.writeTuplesLocked (s : Store V) (tenantID : String) (tuples : List (RelationTuple V))
    (clock : Clock) : Except Err Unit × Store V :=
  if tuples.isEmpty then (.ok (), s)
  else
    let now := clock 0
    let index := TupleIndex.build now { existingKeys := [], expiredIndexes := ∅ } 0
      (s.tuplesOf tenantID)
    match stageTuples tenantID now index.existingKeys [] tuples with
    | .error e => (.error e, s)
    | .ok staged =>
      let (slots, appends) := placeTuples index.expiredIndexes (s.tuplesOf tenantID) [] staged
      let s := { s with tuples := s.tuples.insert tenantID (slots ++ appends) }
      -- The log is written in a loop of its own, after every tuple is in place.
      (.ok (), s.logInserts tenantID clock 1 staged)

/-- Write one tuple. -/
def Store.writeTuple (s : Store V) (ctx : Context V) (tuple : RelationTuple V) (clock : Clock) :
    Except Err Unit × Store V :=
  s.writing ctx fun tenantID => s.writeTuplesLocked tenantID [tuple] clock

/-- Write a batch of tuples. -/
def Store.writeTuples (s : Store V) (ctx : Context V) (tuples : List (RelationTuple V))
    (clock : Clock) : Except Err Unit × Store V :=
  s.writing ctx fun tenantID => s.writeTuplesLocked tenantID tuples clock

/-- Whether two tuples agree in the six fields a deletion compares. -/
def sameIdentity (t u : RelationTuple V) : Bool :=
  t.objectType == u.objectType && t.objectID == u.objectID && t.relation == u.relation &&
    t.subjectType == u.subjectType && t.subjectID == u.subjectID &&
    t.subjectRelation == u.subjectRelation

/-- Delete the first stored tuple that agrees with the given one, expired or not. -/
def Store.deleteTuple (s : Store V) (ctx : Context V) (tuple : RelationTuple V) (clock : Clock) :
    Except Err Unit × Store V :=
  s.writing ctx fun tenantID =>
    let ts := s.tuplesOf tenantID
    match ts.find? (sameIdentity · tuple) with
    | none => (.error .notFound, s)
    | some t =>
      -- The stored tuple is logged, with whatever it has beyond its identity.
      let s := { s with tuples := s.tuples.insert tenantID (ts.eraseP (sameIdentity · tuple)) }
      (.ok (), s.appendTupleChangelogUnsafe tenantID .delete t "api" (clock 0))

/-- The tuples a filter selects, without the expired ones unless it asks for them. -/
def Store.readTuples (s : Store V) (ctx : Context V) (filter : Option TupleFilter) (clock : Clock) :
    Except Err (List (RelationTuple V)) :=
  s.reading ctx fun tenantID =>
    let includeExpired := filter.any (·.includeExpired)
    .ok ((s.tuplesOf tenantID).filter fun t =>
      (includeExpired || !tupleIsExpiredAt t (clock 0)) && matchesTupleFilter t filter)

/-- Whether a live tuple relates object and subject directly. -/
def Store.checkDirect (s : Store V) (ctx : Context V)
    (objectType objectID relation subjectType subjectID : String) (now : Time) : Except Err Bool :=
  s.reading ctx fun tenantID =>
    .ok ((s.tuplesOf tenantID).any fun t =>
      t.objectType == objectType && t.objectID == objectID && t.relation == relation &&
        t.subjectType == subjectType && t.subjectID == subjectID && t.subjectRelation == "" &&
        !tupleIsExpiredAt t now)

/-- The live tuples of an object and relation, in stored order. -/
def Store.liveTuples (s : Store V) (tenantID objectType objectID relation : String) (now : Time) :
    List (RelationTuple V) :=
  (s.tuplesOf tenantID).filter fun t =>
    t.objectType == objectType && t.objectID == objectID && t.relation == relation &&
      !tupleIsExpiredAt t now

/-- The objects an object is related to. -/
def Store.listRelatedObjects (s : Store V) (ctx : Context V)
    (objectType objectID relation : String) (now : Time) : Except Err (List ObjectRef) :=
  s.reading ctx fun tenantID =>
    .ok ((s.liveTuples tenantID objectType objectID relation now).map fun t =>
      { type := t.subjectType, id := t.subjectID })

/-- The subjects of an object and relation. -/
def Store.listSubjects (s : Store V) (ctx : Context V) (objectType objectID relation : String)
    (now : Time) : Except Err (List SubjectRef) :=
  s.reading ctx fun tenantID =>
    .ok ((s.liveTuples tenantID objectType objectID relation now).map fun t =>
      { type := t.subjectType, id := t.subjectID, relation := t.subjectRelation })

/-- The subject tree of an object and relation, one level deep. -/
def Store.expand (s : Store V) (ctx : Context V) (objectType objectID relation : String)
    (now : Time) : Except Err SubjectTree :=
  s.reading ctx fun tenantID =>
    .ok {
      subject := { type := objectType, id := objectID, relation }
      children := (s.liveTuples tenantID objectType objectID relation now).map fun t =>
        { type := t.subjectType, id := t.subjectID, relation := t.subjectRelation } }

/-- Whether a live tuple of another tenant relates object and subject, usersets included. -/
def Store.checkDirectCrossTenant (s : Store V)
    (targetTenantID objectType objectID relation subjectType subjectID : String) (clock : Clock) :
    Except Err Bool := do
  s.checkTenantReadable targetTenantID
  -- There is no comparison of the subject relation.
  return (s.tuplesOf targetTenantID).any fun t =>
    t.objectType == objectType && t.objectID == objectID && t.relation == relation &&
      t.subjectType == subjectType && t.subjectID == subjectID && !tupleIsExpiredAt t (clock 0)

/-! ### Attributes -/

/-- The text attributes are stored under. -/
def attrKey (type id : String) : String :=
  type ++ ":" ++ id

/-- Read the attributes stored under a key of a bucket. -/
def bucketGet (buckets : StringMap (StringMap (AnyMap V))) (tenantID key : String) :
    Except Err (AnyMap V) :=
  match (buckets.lookup tenantID).bind (·.lookup key) with
  | none => .error .notFound
  | some attrs => .ok attrs

/-- Store attributes under a key of a bucket; a bucket that was never made cannot be assigned to. -/
def bucketSet (buckets : StringMap (StringMap (AnyMap V))) (tenantID key : String)
    (attrs : AnyMap V) : Except Err (StringMap (StringMap (AnyMap V))) :=
  match buckets.lookup tenantID with
  | none => .error .nilMapAssignment
  | some bucket => .ok (buckets.insert tenantID (bucket.insert key attrs))

/-- Split a stored key at its first colon. -/
def splitAttrKey (key : String) : Option (String × String) :=
  match key.toList.span (· ≠ ':') with
  | (type, _ :: id) => some (.ofList type, .ofList id)
  | (_, []) => none

/--
List the attributes of a bucket, optionally of one type only.

Go iterates a map in no fixed order; the model lists the last key set first.
-/
def bucketList (buckets : StringMap (StringMap (AnyMap V))) (tenantID type : String) :
    List (EntityAttributes V) :=
  ((buckets.lookup tenantID).getD ∅).entries.filterMap fun entry =>
    match splitAttrKey entry.1 with
    | none => none
    | some (entryType, id) =>
      if type ≠ "" ∧ entryType ≠ type then none
      else some { tenantID, type := entryType, id, attributes := entry.2 }

/-- The attributes of an object. -/
def Store.getObjectAttributes (s : Store V) (ctx : Context V) (objectType objectID : String) :
    Except Err (AnyMap V) :=
  s.reading ctx fun tenantID => bucketGet s.objAttrs tenantID (attrKey objectType objectID)

/-- Replace the attributes of an object. -/
def Store.setObjectAttributes (s : Store V) (ctx : Context V) (objectType objectID : String)
    (attrs : AnyMap V) : Except Err Unit × Store V :=
  s.writing ctx fun tenantID =>
    match bucketSet s.objAttrs tenantID (attrKey objectType objectID) attrs with
    | .error e => (.error e, s)
    | .ok objAttrs => (.ok (), { s with objAttrs })

/-- The attributes of all objects, or of those of one type. -/
def Store.listObjectAttributes (s : Store V) (ctx : Context V) (objectType : String) :
    Except Err (List (EntityAttributes V)) :=
  s.reading ctx fun tenantID => .ok (bucketList s.objAttrs tenantID objectType)

/-- The attributes of a subject. -/
def Store.getSubjectAttributes (s : Store V) (ctx : Context V) (subjectType subjectID : String) :
    Except Err (AnyMap V) :=
  s.reading ctx fun tenantID => bucketGet s.subAttrs tenantID (attrKey subjectType subjectID)

/-- Replace the attributes of a subject. -/
def Store.setSubjectAttributes (s : Store V) (ctx : Context V) (subjectType subjectID : String)
    (attrs : AnyMap V) : Except Err Unit × Store V :=
  s.writing ctx fun tenantID =>
    match bucketSet s.subAttrs tenantID (attrKey subjectType subjectID) attrs with
    | .error e => (.error e, s)
    | .ok subAttrs => (.ok (), { s with subAttrs })

/-- The attributes of all subjects, or of those of one type. -/
def Store.listSubjectAttributes (s : Store V) (ctx : Context V) (subjectType : String) :
    Except Err (List (EntityAttributes V)) :=
  s.reading ctx fun tenantID => .ok (bucketList s.subAttrs tenantID subjectType)

/-! ### Changelog -/

/-- Add an entry a caller has made, under the next sequence number. -/
def Store.appendChangelog (s : Store V) (ctx : Context V) (entry : ChangelogEntry V)
    (clock : Clock) : Except Err Unit × Store V :=
  s.writing ctx fun tenantID =>
    let sequence := s.seqOf tenantID + 1
    -- What the caller has set for the tenant and the number is overwritten.
    let e := { entry with
      tenantID, sequence
      timestamp := if isZeroTime entry.timestamp then clock 0 else entry.timestamp }
    (.ok (), { s with
      seqCounter := s.seqCounter.insert tenantID sequence
      changelog := s.changelog.insert tenantID (s.changelogOf tenantID ++ [e]) })

/-- The entries after a sequence number, at most `limit` of them when the limit is positive. -/
def Store.readChangelog (s : Store V) (ctx : Context V) (sinceSeq : UInt64) (limit : Int) :
    Except Err (List (ChangelogEntry V)) :=
  s.reading ctx fun tenantID =>
    let newer := (s.changelogOf tenantID).filter (·.sequence > sinceSeq)
    .ok (if limit > 0 then newer.take limit.toNat else newer)

/-- The last sequence number given out. -/
def Store.latestSequence (s : Store V) (ctx : Context V) : Except Err UInt64 :=
  s.reading ctx fun tenantID => .ok (s.seqOf tenantID)

/-! ### Tenant data -/

/-- The number of live tuples. -/
def Store.countTuples (s : Store V) (ctx : Context V) (clock : Clock) : Except Err Nat :=
  s.reading ctx fun tenantID =>
    .ok ((s.tuplesOf tenantID).countP fun t => !tupleIsExpiredAt t (clock 0))

/-- Encode tuples one by one, up to the first that cannot be encoded. -/
def encodeTuples (encode : RelationTuple V → Except String String) :
    List (RelationTuple V) → List String × Except Err Unit
  | [] => ([], .ok ())
  | t :: rest =>
    match encode t with
    -- The lines before this one have been written by now.
    | .error cause => ([], .error (.marshal cause))
    | .ok line =>
      let (lines, outcome) := encodeTuples encode rest
      (line :: lines, outcome)

/-- Write the live tuples of a tenant, one line each, and report what was written. -/
def Store.exportTenantSnapshot (s : Store V) (encode : RelationTuple V → Except String String)
    (ctx : Context V) (clock : Clock) : Except Err (List String × Except Err Unit) :=
  s.reading ctx fun tenantID =>
    .ok (encodeTuples encode ((s.tuplesOf tenantID).filter fun t => !tupleIsExpiredAt t (clock 0)))

/-- Reset every bucket of a tenant, whatever its status. -/
def Store.purgeTenantData (s : Store V) (ctx : Context V) : Except Err Unit × Store V :=
  match tenantIDFromCtx ctx with
  | .error e => (.error e, s)
  | .ok tenantID =>
    -- The numbers start over as well.
    (.ok (), { s with
      tuples := s.tuples.insert tenantID []
      objAttrs := s.objAttrs.insert tenantID ∅
      subAttrs := s.subAttrs.insert tenantID ∅
      changelog := s.changelog.insert tenantID []
      seqCounter := s.seqCounter.insert tenantID 0 })

/-- The lookups of a check against this store, the `n`-th one made at the clock reading `n`. -/
def Store.lookups (s : Store V) (ctx : Context V) (clock : Clock) : Lookups V where
  checkDirect n objectType objectID relation subjectType subjectID :=
    s.checkDirect ctx objectType objectID relation subjectType subjectID (clock n)
  listRelatedObjects n objectType objectID relation :=
    s.listRelatedObjects ctx objectType objectID relation (clock n)
  listSubjects n objectType objectID relation :=
    s.listSubjects ctx objectType objectID relation (clock n)
  getObjectAttributes _ objectType objectID := s.getObjectAttributes ctx objectType objectID
  getSubjectAttributes _ subjectType subjectID := s.getSubjectAttributes ctx subjectType subjectID

end ZanGuard.Memory
