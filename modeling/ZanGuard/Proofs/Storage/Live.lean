import ZanGuard.Storage.Memory

/-! What the lookups of the in-memory store read off the live tuples of a tenant. -/

namespace ZanGuard.Memory

variable {V : Type}

/-- The live tuples of a tenant at an instant, in stored order. -/
def Store.live (s : Store V) (tenantID : String) (now : Time) : List (RelationTuple V) :=
  (s.tuplesOf tenantID).filter fun t => !tupleIsExpiredAt t now

/-- The live tuples of an object and relation are selected among all live ones. -/
theorem Store.liveTuples_eq (s : Store V) (tenantID type id relation : String) (now : Time) :
    s.liveTuples tenantID type id relation now = (s.live tenantID now).filter fun t =>
      t.objectType == type && t.objectID == id && t.relation == relation := by
  rw [Store.liveTuples, Store.live, List.filter_filter]

/-- A test for a stored tuple that is live is a test among the live ones. -/
theorem Store.any_live (s : Store V) (tenantID : String) (now : Time)
    (p : RelationTuple V → Bool) :
    ((s.tuplesOf tenantID).any fun t => p t && !tupleIsExpiredAt t now) =
      (s.live tenantID now).any p := by
  rw [Store.live, List.any_filter]
  congr 1
  funext t
  exact Bool.and_comm _ _

/-- A read whose guard and whose body agree answers alike. -/
theorem Store.reading_congr {s t : Store V} {tc : TenantContext V} {α : Type}
    {body body' : String → Except Err α}
    (readable : s.checkTenantReadable tc.tenantID = t.checkTenantReadable tc.tenantID)
    (alike : body tc.tenantID = body' tc.tenantID) :
    s.reading (some tc) body = t.reading (some tc) body' := by
  simp only [Store.reading, tenantIDFromCtx, bind, Except.bind, readable, alike]

/-- Attributes are read alike where the buckets of the tenant agree. -/
theorem bucketGet_congr {buckets buckets' : StringMap (StringMap (AnyMap V))} {tenantID : String}
    (same : buckets.lookup tenantID = buckets'.lookup tenantID) (key : String) :
    bucketGet buckets tenantID key = bucketGet buckets' tenantID key := by
  rw [bucketGet, bucketGet, same]

end ZanGuard.Memory
