import ZanGuard.Proofs.Storage.Regrant
import ZanGuard.Proofs.Tenant.Backends

/-! Lifecycle calls that overlap: when every change of a status is a documented one. -/

namespace ZanGuard

open Transaction

variable {V χ G ι : Type}

/-- The transitions the documentation lists. -/
inductive Documented : TenantStatus → TenantStatus → Prop
  | activate : Documented .pending .active
  | suspend : Documented .active .suspended
  | reactivate : Documented .suspended .active
  | delete (status : TenantStatus) : Documented status .deleted

/-- A stored status stays, appears as pending, or changes as documented. -/
def StatusChange (before after : Option TenantStatus) : Prop :=
  after = before ∨ before = none ∧ after = some .pending ∨
    ∃ old new, before = some old ∧ after = some new ∧ Documented old new

/-- The status a call stores with its update. -/
def LifecycleCall.target : LifecycleCall → TenantStatus
  | .activate _ => .active
  | .suspend _ => .suspended
  | .delete _ => .deleted
  | .createTenant _ _ => .pending

/-- The stored statuses from which the update of a call is no step back. -/
def LifecycleCall.Timely : LifecycleCall → TenantStatus → Prop
  | .activate _, stored => stored ≠ .deleted
  | .suspend _, stored => stored = .active ∨ stored = .suspended
  | .delete _, _ => True
  | .createTenant _ _, stored => stored = .pending

instance (call : LifecycleCall) (stored : TenantStatus) : Decidable (call.Timely stored) :=
  match call with
  | .activate _ => inferInstanceAs (Decidable (_ ≠ _))
  | .suspend _ => inferInstanceAs (Decidable (_ ∨ _))
  | .delete _ => inferInstanceAs (Decidable True)
  | .createTenant _ _ => inferInstanceAs (Decidable (_ = _))

/-- A timely update changes a declared status as documented, if at all. -/
theorem LifecycleCall.Timely.change {call : LifecycleCall} {stored : TenantStatus}
    (timely : call.Timely stored) (declared : stored.Declared) :
    StatusChange (some stored) (some call.target) := by
  cases call with
  | activate tenantID =>
    -- Three declared statuses are not deleted.
    cases stored with
    | pending => exact .inr (.inr ⟨_, _, rfl, rfl, .activate⟩)
    | active => exact .inl rfl
    | suspended => exact .inr (.inr ⟨_, _, rfl, rfl, .reactivate⟩)
    | deleted => exact absurd rfl timely
    | other text => exact declared.elim
  | suspend tenantID =>
    obtain rfl | rfl := timely
    · exact .inr (.inr ⟨_, _, rfl, rfl, .suspend⟩)
    · exact .inl rfl
  | delete tenantID => exact .inr (.inr ⟨_, _, rfl, rfl, .delete stored⟩)
  | createTenant req now =>
    obtain rfl := timely
    exact .inl rfl

variable [DecidableEq ι] {b : TenantBackend V χ G}

/-- A documented change leads from declared statuses to declared statuses. -/
theorem StatusChange.declared {before after : Option TenantStatus}
    (change : StatusChange before after)
    (declared : ∀ status, before = some status → status.Declared) :
    ∀ status, after = some status → status.Declared := by
  -- A documented change ends in one of the four statuses.
  intro status now
  obtain rfl | ⟨-, rfl⟩ | ⟨old, new, rfl, rfl, documented⟩ := change
  · exact declared status now
  · obtain rfl := Option.some.inj now
    trivial
  · obtain rfl := Option.some.inj now
    cases documented <;> trivial

/-- No documented change leads away from deleted. -/
theorem StatusChange.deleted {after : Option TenantStatus}
    (change : StatusChange (some .deleted) after) : after = some .deleted := by
  -- The only documented change of a deleted tenant is to delete it again.
  obtain rfl | ⟨absent, -⟩ | ⟨old, new, same, rfl, documented⟩ := change
  · rfl
  · cases absent
  · obtain rfl := Option.some.inj same
    cases documented
    rfl

/-- Two callers, none of whom is in a call yet, on a shared state. -/
def quiet {V χ G : Type} (b : TenantBackend V χ G) (shared : G) : Net (b.callers Bool) where
  shared := shared
  parties _ := { memory := (), running := none }

/-- The JSON text of the configuration every tenant is created with. -/
def defaultConfigJSON : String :=
  "\x7b\"max_tuples\":1000000,\"max_requests_per_sec\":1000,\"retention_days\":30," ++
    "\"sync_enabled\":true\x7d"

/-- A codec for that configuration. -/
def defaultConfigCodec : Postgres.ConfigCodec Empty where
  marshal config := if config = defaultTenantConfig then .ok defaultConfigJSON else .error "other"
  unmarshal text := if text = defaultConfigJSON then .ok defaultTenantConfig else .error "other"

/-- The Postgres store, for tenants with that configuration. -/
def defaultBackend : TenantBackend Empty (Time × Option Err) (Postgres.Database String) :=
  Postgres.backend Postgres.emptyCodec defaultConfigCodec

end ZanGuard
