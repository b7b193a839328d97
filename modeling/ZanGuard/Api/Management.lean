import ZanGuard.Schema.Validator
import ZanGuard.Tenant.Manager

/-! Handlers of the management API, from the decoded request to the answer that is written. -/

namespace ZanGuard.Api

/-- What a handler writes when it gives up: a status code with a text of its own or an error's. -/
inductive Failure where
  | text (status : Nat) (message : String)
  | err (status : Nat) (cause : Err)
  /-- A text, followed by the text of a schema error. -/
  | schema (status : Nat) (message : String) (cause : SchemaErr)
  /-- A text, with the schema errors as details. -/
  | details (status : Nat) (message : String) (causes : List SchemaErr)
  /-- The runtime panic of reading through a nil pointer. -/
  | nilPointer
  /-- The runtime panic of a slice expression whose bounds are out of range. -/
  | sliceBounds

/-- The status code of an error, seen through the errors that wrap it. -/
def errStatus : Err → Nat
  | .tenantNotFound | .notFound => 404
  | .tenantDeleted => 410
  | .tenantSuspended => 403
  | .duplicateTuple => 409
  | .invalidStateTransition _ => 400
  | .createTenant inner | .getTenant inner | .buildTenantContext _ inner => errStatus inner
  | .conditionEvaluation inner => errStatus inner
  | _ => 500

/-- The body of `POST /api/v1/tenants`. -/
structure CreateTenantRequest where
  id : String
  displayName : String := ""
  schemaMode : SchemaMode := .other ""
  parentTenantID : String := ""
  sharedSchemaRef : String := ""
  deriving DecidableEq

/-- The checks `handleCreateTenant` makes before it does anything, and the mode it goes on with. -/
def CreateTenantRequest.check (req : CreateTenantRequest) : Except Failure SchemaMode :=
  if req.id = "" then .error (.text 400 "id is required")
  else
    match if req.schemaMode = .other "" then .own else req.schemaMode with
    | .other _ => .error (.text 400 "invalid schema_mode")
    | .shared =>
      if req.sharedSchemaRef = "" then
        .error (.text 400 "shared_schema_ref is required when schema_mode=shared")
      else .ok .shared
    | mode => .ok mode

variable {V : Type} {n : Type → Type} [Monad n]

/-- Store the optional fields of a tenant that was just created, if there are any. -/
def storeOptional (store : TupleStore n V) (req : CreateTenantRequest) (t : Tenant V) :
    ExceptT Failure n (Tenant V) :=
  if req.parentTenantID ≠ "" ∨ req.sharedSchemaRef ≠ "" then do
    let t := { t with
      parentTenantID := req.parentTenantID
      sharedSchemaRef := req.sharedSchemaRef }
    (store.updateTenant t).adapt fun cause => .err (errStatus cause) cause
    return t
  else return t

/-- `POST /api/v1/tenants`: create a tenant, and store its optional fields in a second step. -/
def handleCreateTenant (store : TupleStore n V) (req : CreateTenantRequest) (now : Time) :
    ExceptT Failure n (Tenant V) := do
  let schemaMode ← ExceptT.mk (pure req.check)
  let t ← (Manager.create store req.id req.displayName schemaMode now).adapt (.err 400)
  storeOptional store req t

end ZanGuard.Api
