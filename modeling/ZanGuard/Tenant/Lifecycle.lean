import ZanGuard.Api.Management
import ZanGuard.Lib.Sessions
import ZanGuard.Storage.Deployment

/-! Lifecycle calls that run side by side, each a sequence of separate calls of the store. -/

namespace ZanGuard

variable {V : Type}

/-- A call of one of the store's tenant methods. -/
inductive TenantCall (V : Type) where
  | createTenant (tenant : Tenant V)
  | getTenant (tenantID : String)
  | updateTenant (tenant : Tenant V)

/-- What a tenant method returns. -/
def TenantCall.Answer : TenantCall V → Type
  | .createTenant _ => Unit
  | .getTenant _ => Tenant V
  | .updateTenant _ => Unit

/-- A caller of the store, one method call after the other. -/
abbrev Caller (V : Type) := Transaction.Script (TenantCall V) TenantCall.Answer Err

/-- The store as a caller sees it that has to wait its turn for every method. -/
def sharedStore : TupleStore (Caller V) V where
  createTenant tenant := Transaction.auto (TenantCall.createTenant tenant)
  getTenant tenantID := Transaction.auto (TenantCall.getTenant tenantID)
  updateTenant tenant := Transaction.auto (TenantCall.updateTenant tenant)

/-- The calls that create a tenant or change its status. -/
inductive LifecycleCall where
  | activate (tenantID : String)
  | suspend (tenantID : String)
  | delete (tenantID : String)
  /-- `POST /api/v1/tenants`, and the clock reading it makes. -/
  | createTenant (req : Api.CreateTenantRequest) (now : Time)

/-- What such a call returns. -/
inductive LifecycleResult (V : Type) where
  | done (outcome : Except Err Unit)
  | created (outcome : Except Api.Failure (Tenant V))

/-- What such a call asks of the store. -/
def LifecycleCall.script : LifecycleCall → Caller V (LifecycleResult V)
  | .activate tenantID => .done <$> (Manager.activate sharedStore tenantID).run
  | .suspend tenantID => .done <$> (Manager.suspend sharedStore tenantID).run
  | .delete tenantID => .done <$> (Manager.delete sharedStore tenantID).run
  | .createTenant req now => .created <$> (Api.handleCreateTenant sharedStore req now).run

/-- The four statuses the source declares. -/
def TenantStatus.Declared : TenantStatus → Prop
  | .other _ => False
  | _ => True

/--
A store for tenants, by how its methods answer and what status it holds for a tenant.

The environment chooses what the store does not: the clock, and whether a statement fails.
-/
structure TenantBackend (V χ G : Type) where
  serve : χ → G → (call : TenantCall V) → Except Err call.Answer × G
  statusOf : G → String → Option TenantStatus
  /-- A read changes nothing. -/
  getTenant_keeps : ∀ choice g tenantID, (serve choice g (.getTenant tenantID)).2 = g
  /-- A new record goes where there is none. -/
  createTenant_status : ∀ choice g (tenant : Tenant V) tenantID, tenant.status.Declared →
    statusOf (serve choice g (.createTenant tenant)).2 tenantID = statusOf g tenantID ∨
      statusOf g tenantID = none ∧
        statusOf (serve choice g (.createTenant tenant)).2 tenantID = some tenant.status
  /-- An update replaces the status of its own record only, whatever that was. -/
  updateTenant_status : ∀ choice g (tenant : Tenant V) tenantID, tenant.status.Declared →
    statusOf (serve choice g (.updateTenant tenant)).2 tenantID = statusOf g tenantID ∨
      tenantID = tenant.id ∧ (statusOf g tenantID).isSome = true ∧
        statusOf (serve choice g (.updateTenant tenant)).2 tenantID = some tenant.status

variable {ι χ G : Type}

/-- Answer one method call; nobody opens a transaction. -/
def TenantBackend.answer (b : TenantBackend V χ G) (choice : χ) (g : G) :
    (request : Transaction.Request (TenantCall V)) →
      Option (request.Reply TenantCall.Answer Err × G)
  | .auto call => some (b.serve choice g call)
  -- A method is all or nothing by itself, so there are no transactions to answer.
  | .start | .exec _ | .commit | .rollback => none

/-- Any number of callers on one store. -/
def TenantBackend.callers (b : TenantBackend V χ G) (ι : Type) :
    Transaction.Protocol ι χ (TenantCall V) G Err Unit LifecycleCall (LifecycleResult V)
      TenantCall.Answer where
  serve _ choice g request := b.answer choice g request
  script _ call := call.script
  finish _ _ _ := ()

end ZanGuard
