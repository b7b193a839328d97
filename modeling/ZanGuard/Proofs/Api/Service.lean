import ZanGuard.Proofs.Api.Handlers
import ZanGuard.Proofs.Storage.Written

/-! Runs of the server: what every request preserves, and what no request is ever answered with. -/

namespace ZanGuard.Api

open Memory

variable {V P : Type} {env : Environment V P} {svc : Service V P} {call : ApiCall V}

/-! ### What every request preserves -/

/-- A tenant that may be written is stored. -/
theorem stored_of_writable {s : Store V} {tenantID : String}
    (writable : s.checkTenantWritable tenantID = .ok ()) :
    ∃ t, s.tenants.lookup tenantID = some t := by
  unfold Store.checkTenantWritable at writable
  split at writable
  · cases writable
  · rename_i t stored
    exact ⟨t, stored⟩

/-- A change of the tuples of a stored tenant keeps a service sound. -/
theorem Service.Sound.of_tuples (sound : svc.Sound) {after : Store V} {tenantID : String}
    (frame : SameFrame svc.store after) {t : Tenant V}
    (stored : svc.store.tenants.lookup tenantID = some t)
    (there : (after.tuples.lookup tenantID).isSome = true)
    (others : ∀ other, other ≠ tenantID → after.tuples.lookup other = svc.store.tuples.lookup other) :
    ({ svc with store := after } : Service V P).Sound := by
  have opened := sound.opened tenantID t stored
  -- The tenant had its buckets before, and whoever else has them is as before.
  have before : ∀ other, (after.tuples.lookup other).isSome = (svc.store.tuples.lookup other).isSome := by
    intro other
    by_cases same : other = tenantID
    · rw [same, there, opened]
    · rw [others other same]
  have bucketsOf : ∀ entity, after.bucketsOf entity = svc.store.bucketsOf entity := by
    intro entity
    cases entity with
    | object => exact frame.objAttrs.symm
    | subject => exact frame.subAttrs.symm
  constructor
  · intro other t' found
    exact sound.own other t' (frame.tenants ▸ found)
  · intro other t' found
    exact (before other).trans (sound.opened other t' (frame.tenants ▸ found))
  · intro other some_there entity
    show ((after.bucketsOf entity).lookup other).isSome = true
    rw [bucketsOf]
    exact sound.buckets other ((before other).symm.trans some_there) entity
  · exact sound.compiled

/-- A record that takes the place of one under the same ID keeps a service sound. -/
theorem Service.Sound.of_record (sound : svc.Sound) {t u : Tenant V} {tenantID : String}
    (stored : svc.store.tenants.lookup tenantID = some t) (own : u.id = tenantID) :
    ({ svc with store.tenants := svc.store.tenants.insert tenantID u } : Service V P).Sound := by
  constructor
  · intro other t' found
    by_cases same : other = tenantID
    · subst same
      obtain rfl := Option.some.inj ((AList.lookup_insert _).symm.trans found)
      exact own
    · exact sound.own other t' ((AList.lookup_insert_ne same).symm.trans found)
  · intro other t' found
    by_cases same : other = tenantID
    · subst same
      exact sound.opened other t stored
    · exact sound.opened other t' ((AList.lookup_insert_ne same).symm.trans found)
  · exact sound.buckets
  · exact sound.compiled

/-- The buckets of a tenant are there once they have been opened. -/
theorem initTenant_opens (s : Store V) (id : String)
    (buckets : (s.tuples.lookup id).isSome = true →
      ∀ entity, ((s.bucketsOf entity).lookup id).isSome = true) :
    ((s.initTenant id).tuples.lookup id).isSome = true ∧
      ∀ entity, (((s.initTenant id).bucketsOf entity).lookup id).isSome = true := by
  unfold Store.initTenant
  cases there : s.tuples.lookup id with
  | some tuples => exact ⟨by simp [there], buckets (by simp [there])⟩
  | none =>
    refine ⟨by simp, fun entity => ?_⟩
    cases entity <;> simp [Store.bucketsOf]

/-- A service that gets a new tenant opens its buckets, and stays sound. -/
theorem Service.Sound.of_created (sound : svc.Sound) {t : Tenant V} {id : String} (own : t.id = id) :
    ({ svc with
      store := { svc.store with tenants := svc.store.tenants.insert id t }.initTenant id } :
      Service V P).Sound := by
  generalize before : { svc.store with tenants := svc.store.tenants.insert id t } = s
  have records : (s.initTenant id).tenants = svc.store.tenants.insert id t := by
    rw [← before]
    unfold Store.initTenant
    split <;> rfl
  have bucketsOf : ∀ entity, s.bucketsOf entity = svc.store.bucketsOf entity := by
    intro entity
    rw [← before]
    cases entity <;> rfl
  have tuples : s.tuples = svc.store.tuples := by rw [← before]
  obtain ⟨opened, filled⟩ := initTenant_opens s id fun there entity => by
    rw [bucketsOf]
    exact sound.buckets id (tuples ▸ there) entity
  -- Whatever belongs to another tenant is as before.
  have others : ∀ other, other ≠ id →
      (s.initTenant id).tuples.lookup other = svc.store.tuples.lookup other ∧
        ∀ entity, ((s.initTenant id).bucketsOf entity).lookup other =
          (svc.store.bucketsOf entity).lookup other := by
    intro other apart
    obtain ⟨-, same, objects, subjects, -, -⟩ := slice_eq_iff.mp (initTenant_foreign (s := s) apart)
    refine ⟨by rw [same, tuples], fun entity => ?_⟩
    rw [← bucketsOf]
    cases entity with
    | object => exact objects
    | subject => exact subjects
  constructor
  · intro other t' found
    replace found : (s.initTenant id).tenants.lookup other = some t' := found
    rw [records] at found
    by_cases same : other = id
    · subst same
      obtain rfl := Option.some.inj ((AList.lookup_insert _).symm.trans found)
      exact own
    · exact sound.own other t' ((AList.lookup_insert_ne same).symm.trans found)
  · intro other t' found
    replace found : (s.initTenant id).tenants.lookup other = some t' := found
    rw [records] at found
    by_cases same : other = id
    · subst same
      exact opened
    · have stored := sound.opened other t' ((AList.lookup_insert_ne same).symm.trans found)
      exact (others other same).1 ▸ stored
  · intro other there entity
    by_cases same : other = id
    · subst same
      exact filled entity
    · have stored := sound.buckets other ((others other same).1 ▸ there) entity
      exact (others other same).2 entity ▸ stored
  · exact sound.compiled

/-- A store whose attributes of a tenant were set has the same records, tuples and buckets. -/
theorem setAttributes_frame {s after : Store V} {tc : TenantContext V} {set : SetCall V}
    (writable : s.checkTenantWritable tc.tenantID = .ok ())
    (done : s.setAttributes (some tc) set = (.ok (), after)) :
    after.tenants = s.tenants ∧ after.tuples = s.tuples ∧ after.changelog = s.changelog ∧
      after.seqCounter = s.seqCounter ∧
      ∀ entity other, ((s.bucketsOf entity).lookup other).isSome = true →
        ((after.bucketsOf entity).lookup other).isSome = true := by
  -- A value that is set in a bucket leaves the others where they are.
  have kept : ∀ {buckets made : StringMap (StringMap (AnyMap V))} {key : String} {attrs : AnyMap V},
      bucketSet buckets tc.tenantID key attrs = .ok made → ∀ other,
        (buckets.lookup other).isSome = true → (made.lookup other).isSome = true := by
    intro buckets made key attrs ran other there
    unfold bucketSet at ran
    split at ran
    · cases ran
    · obtain rfl := Except.ok.inj ran
      by_cases same : other = tc.tenantID
      · subst same
        simp
      · rwa [AList.lookup_insert_ne same]
  obtain ⟨entity, type, id, attrs⟩ := set
  cases entity with
  | object =>
    simp only [Store.setAttributes, Store.setObjectAttributes, Store.writing, tenantIDFromCtx,
      writable] at done
    split at done
    · cases done
    · rename_i made ran
      obtain ⟨-, rfl⟩ := Prod.mk.inj done
      refine ⟨rfl, rfl, rfl, rfl, fun entity other there => ?_⟩
      cases entity with
      | object => exact kept ran other there
      | subject => exact there
  | subject =>
    simp only [Store.setAttributes, Store.setSubjectAttributes, Store.writing, tenantIDFromCtx,
      writable] at done
    split at done
    · cases done
    · rename_i made ran
      obtain ⟨-, rfl⟩ := Prod.mk.inj done
      refine ⟨rfl, rfl, rfl, rfl, fun entity other there => ?_⟩
      cases entity with
      | object => exact there
      | subject => exact kept ran other there

/-- Every request that is accepted keeps a service sound. -/
theorem Accepted.sound {after : Service V P} (accepted : Accepted env svc call after)
    (sound : svc.Sound) : after.Sound := by
  cases accepted with
  | read asked => exact sound
  | created asked fresh own status => exact sound.of_created own
  | @moved tenantID status t asked stored kept =>
    exact sound.of_record stored (sound.own tenantID t stored)
  | @wrote tenantID tuples asked writable done =>
    obtain ⟨t, stored⟩ := stored_of_writable writable
    obtain ⟨frame, there⟩ := writeTuplesLocked_frame svc.store tenantID tuples call.clock
    refine sound.of_tuples frame stored (there (sound.opened tenantID t stored)) fun other apart => ?_
    exact (slice_eq_iff.mp (writeTuplesLocked_foreign apart tuples call.clock)).2.1
  | @deleted tenantID tuple t asked writable found =>
    obtain ⟨tenant, stored⟩ := stored_of_writable writable
    refine sound.of_tuples ⟨rfl, rfl, rfl⟩ stored ?_ fun other apart => ?_
    · exact Option.isSome_iff_exists.mpr ⟨_, AList.lookup_insert _⟩
    · exact AList.lookup_insert_ne apart
  | @set tc set after asked writable done =>
    obtain ⟨records, tuples, -, -, buckets⟩ := setAttributes_frame writable done
    constructor
    · exact fun other t found => sound.own other t (records ▸ found)
    · exact fun other t found => tuples ▸ sound.opened other t (records ▸ found)
    · exact fun other there entity => buckets entity other (sound.buckets other (tuples ▸ there) entity)
    · exact sound.compiled
  | @loaded tenantID data cs t asked stored accepted =>
    refine ⟨sound.own, sound.opened, sound.buckets, fun other some_there => ?_⟩
    by_cases same : other = tenantID
    · subst same
      exact Option.isSome_iff_exists.mpr ⟨_, AList.lookup_insert _⟩
    · have before := sound.compiled other (by rwa [AList.lookup_insert_ne same] at some_there)
      rwa [← AList.lookup_insert_ne same] at before

/-! ### Answers -/

/-- A request is refused or fails and changes nothing, or it is accepted. -/
theorem serve_cases (env : Environment V P) (call : ApiCall V) (sound : svc.Sound) :
    (∃ failure, env.serve svc call = (.error failure, svc) ∧
        (failure.internal = true → svc.MayFail env call.request)) ∨
      ∃ answer after, env.serve svc call = (.ok answer, after) ∧ Accepted env svc call after := by
  have settles := handle_settles env call sound
  unfold ExceptT.AllOrNothing at settles
  unfold Environment.serve
  split at settles
  · rename_i failure after ran
    obtain ⟨rfl, holds⟩ := settles
    exact .inl ⟨failure, ran, holds⟩
  · rename_i answer after ran
    exact .inr ⟨answer, after, ran, settles⟩

/-- Every request keeps a service sound. -/
theorem serve_sound (env : Environment V P) (svc : Service V P) (call : ApiCall V)
    (sound : svc.Sound) : (env.serve svc call).2.Sound := by
  obtain ⟨failure, ran, -⟩ | ⟨answer, after, ran, accepted⟩ := serve_cases env call sound
  · rw [ran]
    exact sound
  · rw [ran]
    exact accepted.sound sound

/-- A run leads to a sound service. -/
theorem sound_after (env : Environment V P) (cfg : Config) (calls : List (ApiCall V)) :
    (env.machine.final (Service.new cfg) calls).Sound :=
  Machine.final_invariant (fun svc call (_ : True) => serve_sound env svc call) (.new cfg)
    fun _ _ => trivial

/--
No request of a run is answered with a status from 500 on or with a panic, with two exceptions.

A listing fails whose page ends beyond the last number, and so may an upload with a null entry.
-/
theorem fails_only_where_known (env : Environment V P) (cfg : Config) (calls : List (ApiCall V)) :
    env.machine.Along (fun svc call => ∀ failure, (env.serve svc call).1 = .error failure →
      failure.internal = true → svc.MayFail env call.request) (Service.new cfg) calls := by
  refine Machine.along_iff.mpr fun early call late _ failure failed internal => ?_
  obtain ⟨_, ran, known⟩ | ⟨answer, after, ran, -⟩ := serve_cases env call (sound_after env cfg early)
  · rw [ran] at failed
    obtain rfl := Except.error.inj failed
    exact known internal
  · rw [ran] at failed
    cases failed

/-- A request that asks for no change asks for none of the kinds there are. -/
theorem asks_nothing (env : Environment V P) (reads : call.request.reads = true) :
    call.writes env = none ∧ call.request.deletes = none ∧ call.request.sets = none ∧
      call.request.moves = none := by
  obtain ⟨request, now, clock, checks⟩ := call
  cases request with
  | createTenant _ | deleteTenant _ | activateTenant _ | suspendTenant _ | loadSchema _ _
  | writeTuples _ _ | writeTuple _ _ | deleteTuple _ _ | setObjectAttributes _ _ _ _
  | setSubjectAttributes _ _ _ _ => cases reads
  | _ => exact ⟨rfl, rfl, rfl, rfl⟩

/-- A request that asks for no change and is accepted changes nothing. -/
theorem Accepted.read_keeps {after : Service V P} (accepted : Accepted env svc call after)
    (reads : call.request.reads = true) : after = svc := by
  obtain ⟨writes, deletes, sets, moves⟩ := asks_nothing env reads
  cases accepted with
  | read => rfl
  | created asked | loaded asked =>
    rw [asked] at reads
    cases reads
  | wrote asked => cases writes.symm.trans asked
  | deleted asked => cases deletes.symm.trans asked
  | set asked => cases sets.symm.trans asked
  | moved asked => cases moves.symm.trans asked

/-- Whether a request was accepted that asks for a change. -/
def changed (answered : ApiCall V × Response V) : Bool :=
  answered.2.isOk && !answered.1.request.reads

/--
A run comes to where its accepted changes lead when nothing else is ever sent.

They are answered alike then, so whatever is refused or only reads leaves no trace.
-/
theorem accepted_changes_decide (env : Environment V P) (cfg : Config) (calls : List (ApiCall V)) :
    let accepted := ((env.machine.trace (Service.new cfg) calls).filter changed).map (·.1)
    env.machine.final (Service.new cfg) accepted = env.machine.final (Service.new cfg) calls ∧
      env.machine.trace (Service.new cfg) accepted =
        (env.machine.trace (Service.new cfg) calls).filter changed := by
  refine Machine.trace_of_moves (fun svc call => serve_sound env svc call) ?_ (.new cfg) calls
  intro svc call sound still
  obtain ⟨failure, ran, -⟩ | ⟨answer, after, ran, accepted⟩ := serve_cases env call sound
  · exact congrArg Prod.snd ran
  · -- What is accepted and changes nothing has read.
    have reads : call.request.reads = true := by
      have outcome : (env.machine.step svc call).1 = .ok answer := congrArg Prod.fst ran
      simpa [changed, outcome, Except.isOk, Except.toBool] using still
    rw [show (env.machine.step svc call).2 = after from congrArg Prod.snd ran]
    exact accepted.read_keeps reads

end ZanGuard.Api
