import ZanGuard.Proofs.Engine.Gates
import ZanGuard.Proofs.Engine.Order
import ZanGuard.Proofs.Storage.Isolation
import ZanGuard.Proofs.Storage.Written

/-! Over unions, what was granted stays granted while tuples are only added. -/

namespace ZanGuard

variable {V P : Type}

/-- A node that derives keeps deriving when more tuples are live. -/
theorem World.Derives.grow {world : World V P} {live : RelationTuple V → Prop}
    (more : ∀ t, world.live t → live t) {node : Node} (derived : world.Derives node) :
    { world with live }.Derives node := by
  have direct : ∀ {type id relation}, world.Direct type id relation →
      { world with live }.Direct type id relation := by
    rintro type id relation ⟨t, there, fields⟩
    exact ⟨t, more t there, fields⟩
  -- The nodes that derive from more tuples are closed under the rules for fewer.
  refine derived.induction fun other permDef declared holds => ?_
  suffices holds' : { world with live }.PermissionHolds { world with live }.Derives other.type other.id
      permDef from World.Derives.intro declared holds'
  have child : ∀ child, world.ChildHolds { world with live }.Derives other.type other.id child →
      { world with live }.ChildHolds { world with live }.Derives other.type other.id child := by
    intro child held
    unfold World.ChildHolds at held ⊢
    cases kind : child.kind with
    | relation =>
      rw [kind] at held
      rcases held with own | ⟨subj, ⟨t, there, fields⟩, nonempty, userset⟩
      · exact .inl (direct own)
      · refine .inr ⟨subj, ⟨t, more t there, fields⟩, nonempty, ?_⟩
        rcases userset with ⟨declares, derives⟩ | ⟨undeclared, member⟩
        · exact .inl ⟨declares, derives⟩
        · exact .inr ⟨undeclared, direct member⟩
    | arrow =>
      rw [kind] at held
      obtain ⟨target, ⟨t, there, fields⟩, reached⟩ := held
      exact ⟨target, ⟨t, more t there, fields⟩, reached⟩
    | condition => rwa [kind] at held
    | other name => rwa [kind] at held
  unfold World.PermissionHolds at holds ⊢
  cases operation : permDef.operation with
  | union | direct =>
    rw [operation] at holds
    obtain ⟨one, member, held⟩ := holds
    exact ⟨one, member, child one held⟩
  | intersect =>
    rw [operation] at holds
    exact ⟨holds.1, fun one member => child one (holds.2 one member)⟩
  | exclusion | other code => rwa [operation] at holds

open Memory

/-- A store that holds, for a tenant, whatever another one holds that is live at an instant. -/
structure Memory.Store.Grown (s after : Store V) (mine : String) (later : Time) : Prop where
  tuples : ∀ t ∈ s.tuplesOf mine, tupleIsExpiredAt t later = false → t ∈ after.tuplesOf mine
  tenant : after.tenants.lookup mine = s.tenants.lookup mine
  objAttrs : after.objAttrs.lookup mine = s.objAttrs.lookup mine
  subAttrs : after.subAttrs.lookup mine = s.subAttrs.lookup mine

/-- A write grows the store, if it comes early enough. -/
theorem Memory.Store.Grown.written {s after : Store V} {mine : String} {later : Time}
    (grown : s.Grown after mine later) (ctx : Context V) (batch : List (RelationTuple V))
    {clock : Clock} (early : ctx.map (·.tenantID) = some mine → clock 0 ≤ later) :
    s.Grown (after.writing ctx fun id => after.writeTuplesLocked id batch clock).2 mine later := by
  by_cases own : ctx.map (·.tenantID) = some mine
  · obtain ⟨tc, rfl, rfl⟩ := Option.map_eq_some_iff.mp own
    -- Only the tuples, the log and its counter are written.
    have frame : ∀ t ∈ s.tuplesOf tc.tenantID, tupleIsExpiredAt t later = false →
        t ∈ (after.writeTuplesLocked tc.tenantID batch clock).2.tuplesOf tc.tenantID :=
      fun t there live => writeTuplesLocked_keeps (grown.tuples t there live)
        (live_earlier (early rfl) live)
    unfold Store.writing
    simp only [tenantIDFromCtx]
    split
    · exact grown
    · obtain ⟨tenants, objAttrs, subAttrs⟩ :=
        (writeTuplesLocked_frame after tc.tenantID batch clock).1
      exact ⟨frame, tenants ▸ grown.tenant, objAttrs ▸ grown.objAttrs, subAttrs ▸ grown.subAttrs⟩
  · have kept : (after.writing ctx fun id => after.writeTuplesLocked id batch clock).2.slice mine =
        after.slice mine := writing_foreign own fun _ apart => writeTuplesLocked_foreign apart _ _
    obtain ⟨tenant, tuples, objAttrs, subAttrs, -, -⟩ := slice_eq_iff.mp kept
    refine ⟨fun t there live => ?_, tenant.trans grown.tenant, objAttrs.trans grown.objAttrs,
      subAttrs.trans grown.subAttrs⟩
    rw [Store.tuplesOf, tuples]
    exact grown.tuples t there live

/-- The world of a grown store is the one of the store with other tuples live. -/
theorem Memory.Store.Grown.world_eq {s after : Store V} {tc : TenantContext V} {later : Time}
    (grown : s.Grown after tc.tenantID later) (lang : ExprLang V P) (cs : CompiledSchema P)
    (now : Time) (subjectType subjectID : String) :
    after.world tc lang cs later subjectType subjectID =
      { s.world tc lang cs now subjectType subjectID with
        live := fun t => t ∈ after.tuplesOf tc.tenantID ∧ tupleIsExpiredAt t later = false } := by
  have readable : after.checkTenantReadable tc.tenantID = s.checkTenantReadable tc.tenantID := by
    rw [Store.checkTenantReadable, Store.checkTenantReadable, grown.tenant]
  have attrs : ∀ {after s : StringMap (StringMap (AnyMap V))}, after.lookup tc.tenantID =
      s.lookup tc.tenantID → ∀ key, bucketGet after tc.tenantID key = bucketGet s tc.tenantID key := by
    intro after s same key
    rw [bucketGet, bucketGet, same]
  simp only [Store.world, Store.getObjectAttributes, Store.getSubjectAttributes, Store.reading,
    tenantIDFromCtx, bind, Except.bind, readable, attrs grown.objAttrs, attrs grown.subAttrs]

/-- What derives from a store derives from a grown one, unless a tuple has expired. -/
theorem Memory.Store.Grown.derives {s after : Store V} {tc : TenantContext V} {now later : Time}
    (grown : s.Grown after tc.tenantID later)
    (lasting : ∀ t ∈ s.tuplesOf tc.tenantID, tupleIsExpiredAt t now = false →
      tupleIsExpiredAt t later = false)
    {lang : ExprLang V P} {cs : CompiledSchema P} {subjectType subjectID : String} {node : Node}
    (derives : (s.world tc lang cs now subjectType subjectID).Derives node) :
    (after.world tc lang cs later subjectType subjectID).Derives node := by
  rw [grown.world_eq lang cs now]
  refine derives.grow fun t there => ?_
  have still := lasting t there.1 there.2
  exact ⟨grown.tuples t there.1 still, still⟩

end ZanGuard
