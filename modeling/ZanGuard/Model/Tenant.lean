import ZanGuard.Model.Basic

/-! Tenants and the tenant context every scoped operation reads. -/

namespace ZanGuard

/-- Quotas and settings of one tenant. -/
structure TenantConfig (V : Type) where
  maxTuples : Int := 0
  maxRequestsPerSec : Int := 0
  cacheTTLOverride : Option Int := none
  allowedObjectTypes : List String := []
  retentionDays : Int := 0
  syncEnabled : Bool := false
  webhookURL : String := ""
  metadata : AnyMap V := none
  deriving DecidableEq

/-- A tenant record; an absent field holds the zero value of its Go type. -/
structure Tenant (V : Type) where
  id : String
  displayName : String := ""
  parentTenantID : String := ""
  status : TenantStatus := .other ""
  schemaMode : SchemaMode := .other ""
  sharedSchemaRef : String := ""
  config : TenantConfig V := {}
  createdAt : Time := 0
  updatedAt : Time := 0
  deriving DecidableEq

/-- Optional filters and the page of a tenant listing; an empty field matches everything. -/
structure TenantFilter where
  status : TenantStatus := .other ""
  parentID : String := ""
  limit : Int := 0
  offset : Int := 0
  deriving DecidableEq

variable {V : Type}

/-- Only an active tenant accepts writes. -/
def Tenant.isWritable (t : Tenant V) : Bool :=
  t.status == .active

/-- Active and suspended tenants serve reads. -/
def Tenant.isReadable (t : Tenant V) : Bool :=
  t.status == .active || t.status == .suspended

/-- The part of `TenantContext` that the engine and the stores read. -/
structure TenantContext (V : Type) where
  tenantID : String
  tenant : Tenant V
  deriving DecidableEq

/-- A request context, with the tenant context it carries if any. -/
abbrev Context (V : Type) := Option (TenantContext V)

/-- The tenant a scoped operation works on, or an error when the context names none. -/
def tenantIDFromCtx (ctx : Context V) : Except Err String :=
  match ctx with
  | none => .error .noTenantContext
  | some tc => .ok tc.tenantID

end ZanGuard
