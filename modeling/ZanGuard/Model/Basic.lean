import Mathlib.Algebra.Group.Int.Defs
import Mathlib.Algebra.Group.Nat.Defs
import Mathlib.Data.List.AList

/-! Values every package shares: string-keyed maps, attribute maps, instants and errors. -/

namespace ZanGuard

/-- A Go map with string keys. -/
abbrev StringMap (α : Type) := AList fun _ : String => α

/-- A Go `map[string]any`, which is nil until somebody allocates it. -/
abbrev AnyMap (V : Type) := Option (StringMap V)

/-- An instant, counted in nanoseconds from the zero value of Go's `time.Time`. -/
abbrev Time := Int

/-- A timestamp nobody has set still holds the zero instant. -/
def isZeroTime (t : Time) : Bool :=
  t == 0

/-- The lifecycle state of a tenant. -/
inductive TenantStatus where
  | pending
  | active
  | suspended
  | deleted
  /-- The source keeps the status as a string, so a stored record may hold any other text. -/
  | other (text : String)
  deriving DecidableEq

/-- The status a text stands for. -/
def TenantStatus.ofText (text : String) : TenantStatus :=
  if text = "pending" then .pending
  else if text = "active" then .active
  else if text = "suspended" then .suspended
  else if text = "deleted" then .deleted
  else .other text

/-- Where a tenant's schema comes from. -/
inductive SchemaMode where
  | own
  | shared
  | inherited
  /-- Any text outside the three declared modes. -/
  | other (text : String)
  deriving DecidableEq

/-- Every error a modelled function returns, with the values its text is formatted from. -/
inductive Err where
  /-- `no tenant context in request` -/
  | noTenantContext
  /-- `tenant not found` -/
  | tenantNotFound
  /-- `tenant has been deleted` -/
  | tenantDeleted
  /-- `tenant is suspended` -/
  | tenantSuspended
  /-- `tuple already exists` -/
  | duplicateTuple
  /-- `not found` -/
  | notFound
  /-- `tenant %q already exists` -/
  | tenantExists (id : String)
  /-- `tenant %q is not readable (status: %s)` -/
  | tenantNotReadable (id : String) (status : TenantStatus)
  /-- `no schema loaded for tenant %q` -/
  | noSchemaLoaded (tenantID : String)
  /-- `shared schema %q not found` -/
  | sharedSchemaNotFound (ref : String)
  /-- `unknown schema mode: %s` -/
  | unknownSchemaMode (mode : SchemaMode)
  /-- `unknown type: ` followed by the type -/
  | unknownType (objectType : String)
  /-- `unknown permission ` and the permission, then ` on type ` and the type -/
  | unknownPermission (permission objectType : String)
  /-- `max check depth (%d) exceeded — possible cycle` -/
  | maxCheckDepthExceeded (limit : Int)
  /-- `unknown permission operation: %d` -/
  | unknownPermissionOperation (operation : Int)
  /-- `unknown permission ref kind: %s` -/
  | unknownPermissionRefKind (kind : String)
  /-- `compile expression %q: %w` -/
  | compileExpression (expression cause : String)
  /-- `evaluate condition %q: %w` -/
  | evaluateCondition (raw cause : String)
  /-- `condition %q did not return bool, got %T` -/
  | conditionNotBool (raw typeName : String)
  /-- `condition evaluation: %w` -/
  | conditionEvaluation (inner : Err)
  /-- A lookup the storage backend could not answer, such as a lost connection. -/
  | lookupFailed (cause : String)
  /-- The runtime panic of an assignment into a nil map. -/
  | nilMapAssignment
  /-- An error PostgreSQL reports, by its SQLSTATE. -/
  | postgres (code : String)
  /-- A value `json.Marshal` refuses. -/
  | marshal (cause : String)
  /-- A text `json.Unmarshal` refuses. -/
  | unmarshal (cause : String)
  /-- `tx is closed` -/
  | txClosed
  /-- `commit unexpectedly resulted in rollback` -/
  | txCommitRollback
  /-- `invalid tenant ID %q: must match ^[a-z0-9][a-z0-9-]{1,126}[a-z0-9]$` -/
  | invalidTenantID (id : String)
  /-- `invalid tenant state transition: can only suspend active tenants, current status: %s` -/
  | invalidStateTransition (current : TenantStatus)
  /-- `create tenant: %w` -/
  | createTenant (inner : Err)
  /-- `build tenant context for %q: %w` -/
  | buildTenantContext (tenantID : String) (inner : Err)
  /-- `missing tenantID path parameter` -/
  | missingTenantID
  /-- `get tenant: %w` -/
  | getTenant (inner : Err)
  /-- `unmarshal tenant config: %w` -/
  | unmarshalTenantConfig (cause : String)
  /-- A number the driver cannot send as a `bigint`. -/
  | argumentOutOfRange
  /-- Arguments that do not fit the placeholders of a query. -/
  | argumentMismatch
  /-- The runtime panic `slice bounds out of range`. -/
  | sliceBounds
  deriving DecidableEq

/-- Go's addition of two values of type `int`, which wraps around. -/
def addInt (a b : Int) : Int :=
  (a + b).bmod (2 ^ 64)

/-- Go's slice expression `xs[low:high]`, which panics unless its bounds are in order. -/
def slice {α : Type} (xs : List α) (low high : Int) : Except Err (List α) :=
  if 0 ≤ low ∧ low ≤ high ∧ high ≤ xs.length then .ok ((xs.take high.toNat).drop low.toNat)
  else .error .sliceBounds

end ZanGuard
