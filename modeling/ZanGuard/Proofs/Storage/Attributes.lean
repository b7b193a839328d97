import Mathlib.Data.List.Induction
import Mathlib.Data.List.TakeDrop
import Mathlib.Data.List.TakeWhile
import ZanGuard.Lib.Marks
import ZanGuard.Storage.Deployment

/-! Attributes in memory: when those of one object or subject are never those of another. -/

namespace ZanGuard.Memory

variable {V : Type}

/-! ### Keys -/

/-- A key is the two texts with a colon between them. -/
theorem toList_attrKey (type id : String) :
    (attrKey type id).toList = type.toList ++ ':' :: id.toList := by
  simp [attrKey]

/-- A key of texts without colons is the key of no other texts. -/
theorem attrKey_inj {type id otherType otherID : String} (noneBefore : ':' ∉ type.toList)
    (noneAfter : ':' ∉ id.toList) (same : attrKey type id = attrKey otherType otherID) :
    type = otherType ∧ id = otherID := by
  have chars := congrArg String.toList same
  rw [toList_attrKey, toList_attrKey] at chars
  obtain ⟨types, ids⟩ := Marks.only_inj noneBefore noneAfter chars
  exact ⟨String.toList_inj.mp types, String.toList_inj.mp ids⟩

/-- A key of texts with a colon is the key of other texts as well. -/
theorem exists_same_attrKey {type id : String} (colon : ':' ∈ type.toList ∨ ':' ∈ id.toList) :
    ∃ otherType otherID, (otherType, otherID) ≠ (type, id) ∧
      attrKey otherType otherID = attrKey type id := by
  -- The key is split at the other colon.
  rcases colon with inside | inside
  · obtain ⟨before, after, split⟩ := List.append_of_mem inside
    refine ⟨.ofList before, .ofList (after ++ ':' :: id.toList), ?_, ?_⟩
    · intro same
      have types := congrArg (fun pair => pair.1.toList.length) same
      simp [split] at types
    · rw [← String.toList_inj]
      simp [toList_attrKey, split]
  · obtain ⟨before, after, split⟩ := List.append_of_mem inside
    refine ⟨.ofList (type.toList ++ ':' :: before), .ofList after, ?_, ?_⟩
    · intro same
      have types := congrArg (fun pair => pair.1.toList.length) same
      simp at types
    · rw [← String.toList_inj]
      simp [toList_attrKey, split]

/-- A key is split at its first colon. -/
theorem splitAttrKey_of {key : String} {before after : List Char}
    (split : key.toList = before ++ ':' :: after) (first : ':' ∉ before) :
    splitAttrKey key = some (.ofList before, .ofList after) := by
  have all : ∀ c ∈ before, decide (c ≠ ':') = true := fun c member => by
    simpa using fun same : c = ':' => first (same ▸ member)
  unfold splitAttrKey
  rw [List.span_eq_takeWhile_dropWhile, split, List.takeWhile_append_of_pos all,
    List.dropWhile_append_of_pos all]
  simp

/-- A key without a colon is not split. -/
theorem splitAttrKey_none {key : String} (without : ':' ∉ key.toList) : splitAttrKey key = none := by
  have all : ∀ c ∈ key.toList, decide (c ≠ ':') = true := fun c member => by
    simpa using fun same : c = ':' => without (same ▸ member)
  unfold splitAttrKey
  rw [List.span_eq_takeWhile_dropWhile, List.dropWhile_eq_nil_iff.mpr all]

/-- What a key is split into makes up the key. -/
theorem attrKey_of_split {key type id : String} (split : splitAttrKey key = some (type, id)) :
    attrKey type id = key := by
  by_cases colon : ':' ∈ key.toList
  · obtain ⟨before, after, chars, first⟩ := List.eq_append_cons_of_mem colon
    rw [splitAttrKey_of chars first] at split
    obtain ⟨rfl, rfl⟩ := Prod.mk.inj (Option.some.inj split)
    rw [← String.toList_inj, toList_attrKey, chars, String.toList_ofList, String.toList_ofList]
  · rw [splitAttrKey_none colon] at split
    cases split

/-- The key of a type without a colon is split into the texts it was made of. -/
theorem splitAttrKey_attrKey {type : String} (noneBefore : ':' ∉ type.toList) (id : String) :
    splitAttrKey (attrKey type id) = some (type, id) := by
  rw [splitAttrKey_of (toList_attrKey type id) noneBefore, String.ofList_toList,
    String.ofList_toList]

/-! ### Runs of calls -/

/-- What attributes belong to. -/
inductive Entity where
  | object
  | subject
  deriving DecidableEq

/-- A call that sets attributes. -/
structure SetCall (V : Type) where
  entity : Entity
  type : String
  id : String
  attrs : AnyMap V

/-- Carry out a call that sets attributes. -/
def Store.setAttributes (s : Store V) (ctx : Context V) (call : SetCall V) :
    Except Err Unit × Store V :=
  match call.entity with
  | .object => s.setObjectAttributes ctx call.type call.id call.attrs
  | .subject => s.setSubjectAttributes ctx call.type call.id call.attrs

/-- The attributes of an object or a subject. -/
def Store.getAttributes (s : Store V) (ctx : Context V) (entity : Entity) (type id : String) :
    Except Err (AnyMap V) :=
  match entity with
  | .object => s.getObjectAttributes ctx type id
  | .subject => s.getSubjectAttributes ctx type id

/-- The attributes of all objects or subjects, or of those of one type. -/
def Store.listAttributes (s : Store V) (ctx : Context V) (entity : Entity) (type : String) :
    Except Err (List (EntityAttributes V)) :=
  match entity with
  | .object => s.listObjectAttributes ctx type
  | .subject => s.listSubjectAttributes ctx type

/-- The store after a number of calls. -/
def Store.setAll (s : Store V) (ctx : Context V) (calls : List (SetCall V)) : Store V :=
  calls.foldl (fun s call => (s.setAttributes ctx call).2) s

/-- The attributes of the last call that passes a test. -/
def lastWhere (calls : List (SetCall V)) (test : SetCall V → Bool) : Option (AnyMap V) :=
  (calls.reverse.find? test).map (·.attrs)

/-- The attributes last set for an object or a subject. -/
def lastSet (calls : List (SetCall V)) (entity : Entity) (type id : String) : Option (AnyMap V) :=
  lastWhere calls fun call => call.entity = entity ∧ call.type = type ∧ call.id = id

/-- The attributes last set under a key. -/
def lastUnder (calls : List (SetCall V)) (entity : Entity) (key : String) : Option (AnyMap V) :=
  lastWhere calls fun call => call.entity = entity ∧ attrKey call.type call.id = key

/-- One more call is the last one that passes a test, or leaves the last one as it was. -/
theorem lastWhere_concat (calls : List (SetCall V)) (call : SetCall V) (test : SetCall V → Bool) :
    lastWhere (calls ++ [call]) test =
      if test call then some call.attrs else lastWhere calls test := by
  unfold lastWhere
  rw [List.reverse_append, List.reverse_singleton, List.singleton_append, List.find?_cons]
  cases test call <;> rfl

/-- Two tests that agree on all calls have the same last call. -/
theorem lastWhere_congr {calls : List (SetCall V)} {first second : SetCall V → Bool}
    (same : ∀ call ∈ calls, first call = second call) :
    lastWhere calls first = lastWhere calls second := by
  -- The induction is on the calls, the last one first.
  induction calls using List.reverseRecOn with
  | nil => rfl
  | append_singleton calls call ih =>
    rw [lastWhere_concat, lastWhere_concat, same call (by simp),
      ih fun other member => same other (by simp [member])]

/-- Where a call passes a test, there is a last one, and otherwise there is none. -/
theorem lastWhere_isSome {calls : List (SetCall V)} {test : SetCall V → Bool} :
    (lastWhere calls test).isSome = true ↔ ∃ call ∈ calls, test call = true := by
  simp [lastWhere]

/-- The attributes of a tenant's objects or subjects, by key. -/
def Store.bucketsOf (s : Store V) (entity : Entity) : StringMap (StringMap (AnyMap V)) :=
  match entity with
  | .object => s.objAttrs
  | .subject => s.subAttrs

/-- A tenant is active, and its buckets hold what a number of calls have set. -/
structure Holds (s : Store V) (tenantID : String) (calls : List (SetCall V)) : Prop where
  active : s.statusOf tenantID = some .active
  buckets : ∀ entity, ∃ bucket, (s.bucketsOf entity).lookup tenantID = some bucket ∧
    ∀ key, bucket.lookup key = lastUnder calls entity key

/-- A tenant that is active may be written. -/
theorem checkTenantWritable_active {s : Store V} {tenantID : String}
    (active : s.statusOf tenantID = some .active) : s.checkTenantWritable tenantID = .ok () := by
  obtain ⟨t, found, status⟩ := Option.map_eq_some_iff.mp active
  simp [Store.checkTenantWritable, found, status]

/-- A tenant that is active may be read. -/
theorem checkTenantReadable_active {s : Store V} {tenantID : String}
    (active : s.statusOf tenantID = some .active) : s.checkTenantReadable tenantID = .ok () := by
  obtain ⟨t, found, status⟩ := Option.map_eq_some_iff.mp active
  simp [Store.checkTenantReadable, found, status]

/-- Setting a value in a bucket that is there succeeds. -/
theorem bucketSet_ok {buckets : StringMap (StringMap (AnyMap V))} {tenantID : String}
    {bucket : StringMap (AnyMap V)} (there : buckets.lookup tenantID = some bucket) (key : String)
    (attrs : AnyMap V) :
    bucketSet buckets tenantID key attrs =
      .ok (buckets.insert tenantID (bucket.insert key attrs)) := by
  simp [bucketSet, there]

/-- A call of an active tenant sets the value in its bucket, and nothing else. -/
theorem setAttributes_ok {s : Store V} {tc : TenantContext V} {call : SetCall V}
    {bucket : StringMap (AnyMap V)} (active : s.statusOf tc.tenantID = some .active)
    (there : (s.bucketsOf call.entity).lookup tc.tenantID = some bucket) :
    (s.setAttributes (some tc) call).1 = .ok () ∧
      (s.setAttributes (some tc) call).2.tenants = s.tenants ∧
      ∀ entity, ((s.setAttributes (some tc) call).2.bucketsOf entity).lookup tc.tenantID =
        if entity = call.entity then some (bucket.insert (attrKey call.type call.id) call.attrs)
        else (s.bucketsOf entity).lookup tc.tenantID := by
  have writable := checkTenantWritable_active active
  obtain ⟨entity, type, id, attrs⟩ := call
  -- The two calls do the same to different maps.
  cases entity with
  | object =>
    have made := bucketSet_ok there (attrKey type id) attrs
    -- The store speaks of its two maps by their names.
    simp only [Store.bucketsOf] at made
    simp only [Store.setAttributes, Store.setObjectAttributes, Store.writing, tenantIDFromCtx,
      writable, made]
    refine ⟨trivial, trivial, fun entity => ?_⟩
    cases entity <;> simp [Store.bucketsOf]
  | subject =>
    have made := bucketSet_ok there (attrKey type id) attrs
    simp only [Store.bucketsOf] at made
    simp only [Store.setAttributes, Store.setSubjectAttributes, Store.writing, tenantIDFromCtx,
      writable, made]
    refine ⟨trivial, trivial, fun entity => ?_⟩
    cases entity <;> simp [Store.bucketsOf]

/-- One more call of an active tenant succeeds, and its buckets hold what it has set. -/
theorem Holds.set {s : Store V} {tc : TenantContext V} {calls : List (SetCall V)}
    (holds : Holds s tc.tenantID calls) (call : SetCall V) :
    (s.setAttributes (some tc) call).1 = .ok () ∧
      Holds (s.setAttributes (some tc) call).2 tc.tenantID (calls ++ [call]) := by
  obtain ⟨bucket, there, held⟩ := holds.buckets call.entity
  obtain ⟨done, tenants, buckets⟩ := setAttributes_ok holds.active there
  refine ⟨done, ?_, fun entity => ?_⟩
  · -- No call changes the status of the tenant.
    rw [Store.statusOf, tenants]
    exact holds.active
  · rw [buckets entity]
    simp only [lastUnder, lastWhere_concat]
    by_cases same : entity = call.entity
    · -- The bucket of the call holds the new value under its key, and the others as before.
      subst same
      refine ⟨_, if_pos rfl, fun key => ?_⟩
      by_cases named : attrKey call.type call.id = key
      · subst named
        simp
      · rw [AList.lookup_insert_ne (Ne.symm named), held key]
        simp [named, lastUnder]
    · -- The other bucket stays as it is.
      obtain ⟨other, found, kept⟩ := holds.buckets entity
      refine ⟨other, by rw [if_neg same, found], fun key => ?_⟩
      rw [kept key]
      simp [Ne.symm same, lastUnder]

/-- After a run the buckets hold what all its calls have set. -/
theorem Holds.setAll {s : Store V} {tc : TenantContext V} {before : List (SetCall V)}
    (holds : Holds s tc.tenantID before) (calls : List (SetCall V)) :
    Holds (s.setAll (some tc) calls) tc.tenantID (before ++ calls) := by
  -- The induction is on the calls, from whatever the ones before them have set.
  induction calls generalizing s before with
  | nil => simpa [Store.setAll] using holds
  | cons call rest ih =>
    have later := ih (holds.set call).2
    rwa [List.append_assoc, List.singleton_append] at later

/-- A tenant whose buckets are empty has set nothing. -/
theorem Holds.start {s : Store V} {tenantID : String}
    (active : s.statusOf tenantID = some .active)
    (fresh : ∀ entity, (s.bucketsOf entity).lookup tenantID = some ∅) : Holds s tenantID [] where
  active := active
  buckets entity := ⟨∅, fresh entity, fun key => by simp [lastUnder, lastWhere]⟩

/-! ### What is read back -/

section Reads

variable {s : Store V} {tc : TenantContext V} {calls : List (SetCall V)}

/-- What is read for an object or a subject is what was last set under its key. -/
theorem Holds.get (holds : Holds s tc.tenantID calls) (entity : Entity) (type id : String) :
    s.getAttributes (some tc) entity type id =
      match lastUnder calls entity (attrKey type id) with
      | none => .error .notFound
      | some attrs => .ok attrs := by
  have readable := checkTenantReadable_active holds.active
  obtain ⟨bucket, there, held⟩ := holds.buckets entity
  -- Both reads look the key up in the bucket of their kind.
  cases entity with
  | object =>
    simp only [Store.bucketsOf] at there
    cases last : lastUnder calls .object (attrKey type id) <;>
      simp [Store.getAttributes, Store.getObjectAttributes, Store.reading, tenantIDFromCtx, readable,
        bind, Except.bind, bucketGet, there, held, last]
  | subject =>
    simp only [Store.bucketsOf] at there
    cases last : lastUnder calls .subject (attrKey type id) <;>
      simp [Store.getAttributes, Store.getSubjectAttributes, Store.reading, tenantIDFromCtx, readable,
        bind, Except.bind, bucketGet, there, held, last]

/-- An entry of a key, when the key can be split and its type is asked for. -/
def entryOf (tenantID type : String) (entry : Sigma fun _ : String => AnyMap V) :
    Option (EntityAttributes V) :=
  match splitAttrKey entry.1 with
  | none => none
  | some (entryType, id) =>
    if type ≠ "" ∧ entryType ≠ type then none
    else some { tenantID, type := entryType, id, attributes := entry.2 }

/-- An entry belongs to what its key is split into. -/
theorem entryOf_eq_some {tenantID type : String} {entry : Sigma fun _ : String => AnyMap V}
    {e : EntityAttributes V} :
    entryOf tenantID type entry = some e ↔
      splitAttrKey entry.1 = some (e.type, e.id) ∧ (type = "" ∨ e.type = type) ∧
        e.tenantID = tenantID ∧ e.attributes = entry.2 := by
  unfold entryOf
  -- A key without a colon makes up no entry.
  cases split : splitAttrKey entry.1 with
  | none => simp
  | some pair =>
    obtain ⟨entryType, id⟩ := pair
    obtain ⟨owner, ownType, ownID, attrs⟩ := e
    simp only [Option.some.injEq, Prod.mk.injEq]
    constructor
    · intro made
      split at made
      · cases made
      · -- The split is the pair of the entry, which is kept when its type is asked for.
        rename_i asked
        cases made
        refine ⟨⟨rfl, rfl⟩, ?_, rfl, rfl⟩
        tauto
    · rintro ⟨⟨rfl, rfl⟩, asked, rfl, rfl⟩
      rw [if_neg (by tauto)]

/-- A listing has the entries of the keys in the bucket. -/
theorem Holds.list (holds : Holds s tc.tenantID calls) (entity : Entity) (type : String) :
    ∃ bucket : StringMap (AnyMap V), (∀ key, bucket.lookup key = lastUnder calls entity key) ∧
      s.listAttributes (some tc) entity type =
        .ok (bucket.entries.filterMap (entryOf tc.tenantID type)) := by
  have readable := checkTenantReadable_active holds.active
  obtain ⟨bucket, there, held⟩ := holds.buckets entity
  refine ⟨bucket, held, ?_⟩
  -- Both listings go over the bucket of their kind, and the function they pass over it is the same.
  cases entity with
  | object =>
    simp only [Store.bucketsOf] at there
    simp only [Store.listAttributes, Store.listObjectAttributes, Store.reading, tenantIDFromCtx,
      readable, bind, Except.bind, bucketList, there, Option.getD]
    rfl
  | subject =>
    simp only [Store.bucketsOf] at there
    simp only [Store.listAttributes, Store.listSubjectAttributes, Store.reading, tenantIDFromCtx,
      readable, bind, Except.bind, bucketList, there, Option.getD]
    rfl

/-- What is listed was last set under the key it makes up. -/
theorem mem_listed {bucket : StringMap (AnyMap V)} {entity : Entity} {type : String}
    (held : ∀ key, bucket.lookup key = lastUnder calls entity key) {e : EntityAttributes V} :
    e ∈ bucket.entries.filterMap (entryOf tc.tenantID type) ↔
      splitAttrKey (attrKey e.type e.id) = some (e.type, e.id) ∧ (type = "" ∨ e.type = type) ∧
        e.tenantID = tc.tenantID ∧
        lastUnder calls entity (attrKey e.type e.id) = some e.attributes := by
  rw [List.mem_filterMap]
  constructor
  · rintro ⟨⟨key, attrs⟩, stored, made⟩
    obtain ⟨split, asked, owner, own⟩ := entryOf_eq_some.mp made
    -- The key is put together again from the two texts it was split into.
    obtain rfl := attrKey_of_split split
    refine ⟨split, asked, owner, ?_⟩
    rw [← held, AList.mem_lookup_iff.mpr stored, own]
  · rintro ⟨split, asked, owner, last⟩
    refine ⟨⟨attrKey e.type e.id, e.attributes⟩, ?_, entryOf_eq_some.mpr ⟨split, asked, owner, rfl⟩⟩
    -- What was last set under the key is stored in the bucket.
    rw [← held] at last
    exact AList.mem_lookup_iff.mp last

/-- No two entries of a listing belong to the same object or subject. -/
theorem nodup_listed (bucket : StringMap (AnyMap V)) (tenantID type : String) :
    ((bucket.entries.filterMap (entryOf tenantID type)).map fun e => (e.type, e.id)).Nodup := by
  -- The keys are distinct, and each makes up no more than one of them.
  rw [List.Nodup, List.pairwise_map, List.pairwise_filterMap]
  have distinct := List.nodupKeys_iff_pairwise.mp bucket.nodupKeys
  refine distinct.imp fun {first second} apart e own f other same => apart ?_
  obtain ⟨split, -⟩ := entryOf_eq_some.mp own
  obtain ⟨splitOther, -⟩ := entryOf_eq_some.mp other
  rw [← attrKey_of_split split, ← attrKey_of_split splitOther, (Prod.mk.inj same).1,
    (Prod.mk.inj same).2]

end Reads

/-! ### Attributes of one object or subject -/

/-- What is read and listed is what was last set for each object or subject, and nothing else. -/
structure StoredApart (s : Store V) (tc : TenantContext V) (calls : List (SetCall V))
    (entity : Entity) : Prop where
  get : ∀ type id, s.getAttributes (some tc) entity type id =
    match lastSet calls entity type id with
    | none => .error .notFound
    | some attrs => .ok attrs
  list : ∀ type, ∃ listed, s.listAttributes (some tc) entity type = .ok listed ∧
    (listed.map fun e => (e.type, e.id)).Nodup ∧
    ∀ e : EntityAttributes V, e ∈ listed ↔ e.tenantID = tc.tenantID ∧
      (type = "" ∨ e.type = type) ∧ lastSet calls entity e.type e.id = some e.attributes

/-- No text of a call that sets attributes of a kind has a colon. -/
def NoColon (calls : List (SetCall V)) (entity : Entity) : Prop :=
  ∀ call ∈ calls, call.entity = entity → ':' ∉ call.type.toList ∧ ':' ∉ call.id.toList

instance (calls : List (SetCall V)) (entity : Entity) : Decidable (NoColon calls entity) :=
  inferInstanceAs (Decidable (∀ call ∈ calls, _))

section Apart

variable {s : Store V} {tc : TenantContext V} {calls : List (SetCall V)} {entity : Entity}

/-- Without colons, what was last set under a key was last set for the object or subject. -/
theorem lastUnder_eq_lastSet (clean : NoColon calls entity) (type id : String) :
    lastUnder calls entity (attrKey type id) = lastSet calls entity type id := by
  -- The two tests agree on every call of the run.
  refine lastWhere_congr fun call member => ?_
  rw [decide_eq_decide]
  refine and_congr_right fun kind => ⟨fun same => ?_, fun ⟨types, ids⟩ => by rw [types, ids]⟩
  obtain ⟨noneBefore, noneAfter⟩ := clean call member kind
  exact attrKey_inj noneBefore noneAfter same

/-- Without colons, attributes are stored for each object and subject on its own. -/
theorem Holds.storedApart (holds : Holds s tc.tenantID calls) (clean : NoColon calls entity) :
    StoredApart s tc calls entity where
  get type id := by rw [holds.get, lastUnder_eq_lastSet clean]
  list type := by
    obtain ⟨bucket, held, listed⟩ := holds.list entity type
    refine ⟨_, listed, nodup_listed bucket tc.tenantID type, fun e => ?_⟩
    rw [mem_listed held, lastUnder_eq_lastSet clean]
    -- The key of something that was set is split into its type and its ID.
    have split : lastSet calls entity e.type e.id = some e.attributes →
        splitAttrKey (attrKey e.type e.id) = some (e.type, e.id) := by
      intro last
      obtain ⟨call, member, named⟩ := lastWhere_isSome.mp (Option.isSome_of_mem last)
      obtain ⟨kind, types, -⟩ := of_decide_eq_true named
      rw [← types, splitAttrKey_attrKey (clean call member kind).1]
    tauto

/-- With a colon, two of them share a key, and not both are listed. -/
theorem Holds.noColon (holds : Holds s tc.tenantID calls) (apart : StoredApart s tc calls entity) :
    NoColon calls entity := by
  intro call member kind
  rw [← not_or]
  intro colon
  obtain ⟨type, id, different, same⟩ := exists_same_attrKey colon
  -- What was set for the one is read for the other as well.
  obtain ⟨attrs, set⟩ : ∃ attrs, lastSet calls entity call.type call.id = some attrs := by
    refine Option.isSome_iff_exists.mp (lastWhere_isSome.mpr ⟨call, member, ?_⟩)
    simp [kind]
  have read := (holds.get entity type id).symm.trans (apart.get type id)
  have own := (holds.get entity call.type call.id).symm.trans (apart.get call.type call.id)
  rw [same, own, set] at read
  obtain ⟨others, setToo⟩ : ∃ attrs, lastSet calls entity type id = some attrs := by
    cases last : lastSet calls entity type id with
    | none => simp [last] at read
    | some others => exact ⟨others, rfl⟩
  -- Both are listed, but the key they share is split in one way only.
  obtain ⟨bucket, held, listed⟩ := holds.list entity ""
  obtain ⟨all, listedAll, -, members⟩ := apart.list ""
  obtain rfl := Except.ok.inj (listed.symm.trans listedAll)
  have first := (mem_listed held).mp
    ((members ⟨tc.tenantID, call.type, call.id, attrs⟩).mpr ⟨rfl, .inl rfl, set⟩)
  have second := (mem_listed held).mp
    ((members ⟨tc.tenantID, type, id, others⟩).mpr ⟨rfl, .inl rfl, setToo⟩)
  have split := first.1.symm.trans (same ▸ second.1)
  exact different (Option.some.inj split).symm

end Apart

/--
Attributes are stored for each object and subject on its own exactly where no colon is in a text
they are set for.
-/
theorem attributes_apart_iff (s : Store V) (tc : TenantContext V)
    (active : s.statusOf tc.tenantID = some .active)
    (fresh : ∀ entity, (s.bucketsOf entity).lookup tc.tenantID = some ∅)
    (calls : List (SetCall V)) (entity : Entity) :
    StoredApart (s.setAll (some tc) calls) tc calls entity ↔ NoColon calls entity := by
  have holds := (Holds.start active fresh).setAll calls
  rw [List.nil_append] at holds
  -- What was set before the run is nothing.
  exact ⟨holds.noColon, holds.storedApart⟩

/-- A store after a tenant was created and activated. -/
def activatedStore : Store Bool :=
  let lang : ExprLang Bool Unit := ⟨fun _ => .ok (), fun _ _ => .ok true, .ok⟩
  ((deployment lang).final (.new { maxCheckDepth := 25 })
    [.create "acme" "Acme" .own fun _ => 1, .activate "acme" fun _ => 2]).store

/-- A context for that tenant. -/
def activatedContext : TenantContext Bool :=
  { tenantID := "acme", tenant := { id := "acme", status := .active, schemaMode := .own } }

/-- Two documents, and a user of the name of one of them. -/
def plainCalls : List (SetCall Bool) :=
  [⟨.object, "doc", "1", some (AList.singleton "public" true)⟩,
   ⟨.object, "doc", "2", some ∅⟩, ⟨.subject, "user", "1", some (AList.singleton "admin" true)⟩]

/-- Their attributes are stored for each of them. -/
theorem attributes_apart_iff_plain :
    StoredApart (activatedStore.setAll (some activatedContext) plainCalls) activatedContext
      plainCalls .object :=
  (attributes_apart_iff activatedStore activatedContext (by decide)
    (fun entity => by cases entity <;> rfl) plainCalls .object).mpr (by decide)

/-- The attributes of an object whose type has a colon are those of another object. -/
theorem colon_attributes_shared :
    let calls : List (SetCall Bool) := [⟨.object, "a:b", "c", some (AList.singleton "public" true)⟩]
    let s := activatedStore.setAll (some activatedContext) calls
    s.getObjectAttributes (some activatedContext) "a" "b:c" =
        .ok (some (AList.singleton "public" true)) ∧
      lastSet calls .object "a" "b:c" = none ∧
      s.listObjectAttributes (some activatedContext) "a:b" = .ok [] ∧
      ¬ StoredApart s activatedContext calls .object := by
  intro calls s
  have shared : s.getObjectAttributes (some activatedContext) "a" "b:c" =
      .ok (some (AList.singleton "public" true)) := rfl
  have unset : lastSet calls .object "a" "b:c" = none := by decide
  refine ⟨shared, unset, by decide, fun apart => ?_⟩
  have read := apart.get "a" "b:c"
  rw [unset] at read
  cases shared.symm.trans read

end ZanGuard.Memory
