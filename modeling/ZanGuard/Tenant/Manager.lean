import ZanGuard.Model.Tenant

/-! The tenant manager: creation and the lifecycle calls, over any store. -/

namespace ZanGuard

/-- The tenant methods of `storage.TupleStore`, as a caller sees them. -/
structure TupleStore (n : Type → Type) (V : Type) where
  createTenant : Tenant V → ExceptT Err n Unit
  getTenant : String → ExceptT Err n (Tenant V)
  updateTenant : Tenant V → ExceptT Err n Unit

/-- The characters `[a-z0-9]`. -/
def isTenantIDAlnum (c : Char) : Bool :=
  ('a' ≤ c && c ≤ 'z') || ('0' ≤ c && c ≤ '9')

/-- Whether a text matches `^[a-z0-9][a-z0-9-]{0,126}[a-z0-9]$`. -/
def matchesTenantIDRegexp (id : String) : Bool :=
  match id.toList with
  | [] => false
  | first :: rest =>
    match rest.getLast? with
    | none => false
    | some last =>
      isTenantIDAlnum first && rest.dropLast.all (fun c => isTenantIDAlnum c || c == '-') &&
        rest.dropLast.length ≤ 126 && isTenantIDAlnum last

/-- Refuse a tenant ID the pattern does not match. -/
def validateTenantID (id : String) : Except Err Unit :=
  if matchesTenantIDRegexp id then .ok () else .error (.invalidTenantID id)

variable {V : Type}

/-- The configuration of a new tenant. -/
def defaultTenantConfig : TenantConfig V where
  maxTuples := 1000000
  maxRequestsPerSec := 1000
  retentionDays := 30
  syncEnabled := true

namespace Manager

variable {n : Type → Type} [Monad n] (store : TupleStore n V)

/-- Create a tenant in the pending state, and return the record as it was handed to the store. -/
def create (id displayName : String) (mode : SchemaMode) (now : Time) :
    ExceptT Err n (Tenant V) := do
  ExceptT.mk (pure (validateTenantID id))
  let t : Tenant V := {
    id
    displayName := if displayName = "" then id else displayName
    status := .pending
    schemaMode := mode
    config := defaultTenantConfig
    createdAt := now }
  (store.createTenant t).adapt .createTenant
  return t

/-- Read a tenant, check its status, and store the record again under another status. -/
def transition (check : TenantStatus → Except Err Unit) (status : TenantStatus)
    (tenantID : String) : ExceptT Err n Unit := do
  let t ← store.getTenant tenantID
  ExceptT.mk (pure (check t.status))
  store.updateTenant { t with status }

/-- A tenant is activated unless it is deleted. -/
def activate : String → ExceptT Err n Unit :=
  transition store (fun status => if status = .deleted then .error .tenantDeleted else .ok ()) .active

/-- Only an active tenant is suspended. -/
def suspend : String → ExceptT Err n Unit :=
  transition store
    (fun status => if status ≠ .active then .error (.invalidStateTransition status) else .ok ())
    .suspended

/-- A tenant is deleted once, by its status only. -/
def delete : String → ExceptT Err n Unit :=
  transition store (fun status => if status = .deleted then .error .tenantDeleted else .ok ())
    .deleted

end Manager

end ZanGuard
