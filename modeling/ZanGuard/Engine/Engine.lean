import ZanGuard.Engine.Check

/-! The engine: schemas by tenant, and the check that starts a walk and gates its result. -/

namespace ZanGuard

/-- The schemas the engine has registered, and its configuration. -/
structure Engine (P : Type) where
  schemas : StringMap (CompiledSchema P)
  sharedSchemas : StringMap (CompiledSchema P)
  cfg : Config

variable {V P : Type}

/-- An engine with no schema registered. -/
def Engine.new (cfg : Config) : Engine P :=
  { schemas := ∅, sharedSchemas := ∅, cfg }

/-- Register the schema of a tenant. -/
def Engine.loadSchema (e : Engine P) (tenantID : String) (cs : CompiledSchema P) : Engine P :=
  { e with schemas := e.schemas.insert tenantID cs }

/-- Register a schema under a reference several tenants may share. -/
def Engine.loadSharedSchema (e : Engine P) (ref : String) (cs : CompiledSchema P) : Engine P :=
  { e with sharedSchemas := e.sharedSchemas.insert ref cs }

/-- The schema a tenant's mode selects. -/
def Engine.schemaForTenant (e : Engine P) (tc : TenantContext V) :
    Except Err (CompiledSchema P) :=
  match tc.tenant.schemaMode with
  | .own | .inherited =>
    -- An inherited schema is not merged with its parent's yet.
    match e.schemas.lookup tc.tenantID with
    | none => .error (.noSchemaLoaded tc.tenantID)
    | some cs => .ok cs
  | .shared =>
    match e.sharedSchemas.lookup tc.tenant.sharedSchemaRef with
    | none => .error (.sharedSchemaNotFound tc.tenant.sharedSchemaRef)
    | some cs => .ok cs
  | mode => .error (.unknownSchemaMode mode)

/-- The walk of a check once the schema is known, and the condition that gates its result. -/
def Walker.check (w : Walker V P) (req : CheckRequest V) : WalkM CheckResult :=
  match w.schema.getPermission req.objectType req.permission with
  | .error e => throw e
  | .ok permDef => do
    let result ← w.permissionAt 0 req permDef
    match result.allowed, permDef.condition with
    | true, some cond =>
      -- The gate runs only after the walk has granted, and only at the top.
      let allowed ← ExceptT.adapt .conditionEvaluation (evaluateCondition w req cond)
      if !allowed then return deny else return result
    | _, _ => return result

/-- The state a check starts from. -/
def WalkState.start : WalkState :=
  { visited := .empty, lookups := [] }

/-- Refuse a context whose tenant cannot be read, before any schema is looked up. -/
def checkTenant (ctx : Context V) : Except Err (TenantContext V) :=
  match ctx with
  | none => .error .noTenantContext
  | some tc =>
    if tc.tenant.status = .deleted then .error .tenantDeleted
    else if !tc.tenant.isReadable then .error (.tenantNotReadable tc.tenantID tc.tenant.status)
    else .ok tc

/-- Check a permission for the tenant of the context, against the lookups of a store. -/
def Engine.check (e : Engine P) (lang : ExprLang V P) (store : Lookups V) (ctx : Context V)
    (req : CheckRequest V) : Except Err CheckResult := do
  let tc ← checkTenant ctx
  let cs ← e.schemaForTenant tc
  ((Walker.check { cfg := e.cfg, store, schema := cs, lang } req).from .start).1

/-- Whether an outcome grants access; an error never does. -/
def granted (outcome : Except Err CheckResult) : Bool :=
  match outcome with
  | .ok result => result.allowed
  | .error _ => false

end ZanGuard
