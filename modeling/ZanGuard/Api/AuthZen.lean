import ZanGuard.Api.Service

/-! The AuthZen endpoints, which answer a decision and never an error of its evaluation. -/

namespace ZanGuard.Api

variable {V P : Type}

/-- A subject or a resource of an evaluation; the properties it may have are not looked at. -/
structure AuthZenEntity where
  type : String
  id : String
  deriving DecidableEq

/-- The body of a single evaluation. -/
structure AuthZenEvaluationRequest (V : Type) where
  subject : AuthZenEntity
  resource : AuthZenEntity
  actionName : String
  context : AnyMap V := none

/-- One evaluation of a batch. -/
structure AuthZenBatchItem (V : Type) where
  resource : AuthZenEntity
  actionName : String
  context : AnyMap V := none

/-- The body of a batch, whose evaluations share a subject. -/
structure AuthZenBatchRequest (V : Type) where
  subject : AuthZenEntity
  evaluations : List (AuthZenBatchItem V)

/-- The tenant context of the header `X-Tenant-ID`, which reads as an empty text when absent. -/
def tenantCtxFromHeader (tenantID : String) : ExceptT Failure (ClientM V) (Context V) :=
  if tenantID = "" then throw (.text 400 "missing X-Tenant-ID header")
  else do
    match ← send (.getTenant tenantID) with
    -- The answer is 400 here, whatever the error is.
    | .error cause => throw (.err 400 (.buildTenantContext tenantID cause))
    | .ok tenant => return some { tenantID, tenant }

/-- The check an evaluation asks for. -/
def AuthZenEvaluationRequest.check (req : AuthZenEvaluationRequest V) : CheckRequest V where
  objectType := req.resource.type
  objectID := req.resource.id
  permission := req.actionName
  subjectType := req.subject.type
  subjectID := req.subject.id
  context := req.context

/-- An item of a batch as an evaluation of its own. -/
def AuthZenBatchItem.evaluation (subject : AuthZenEntity) (item : AuthZenBatchItem V) :
    AuthZenEvaluationRequest V where
  subject
  resource := item.resource
  actionName := item.actionName
  context := item.context

/-- What is decided on an evaluation; an error of the check refuses. -/
def Service.decide (svc : Service V P) (lang : ExprLang V P) (tCtx : Context V)
    (clock : Memory.Clock) (req : AuthZenEvaluationRequest V) : Bool :=
  match svc.server.eng.check lang (svc.store.lookups tCtx clock) tCtx req.check with
  | .error _ => false
  | .ok result => result.allowed

/-- `POST /access/v1/evaluation` -/
def handleAuthZenEvaluation (lang : ExprLang V P) (clock : Memory.Clock) (tenantID : String)
    (body : Except String (AuthZenEvaluationRequest V)) : ServiceM V P Bool := do
  let tCtx ← client clock (tenantCtxFromHeader tenantID)
  let req ← readJSON body
  return (← get).decide lang tCtx clock req

/-- The decisions on the items of a batch from a position on, each at clock readings of its own. -/
def Service.decideAll (svc : Service V P) (lang : ExprLang V P) (tCtx : Context V)
    (clocks : Nat → Memory.Clock) (subject : AuthZenEntity) :
    Nat → List (AuthZenBatchItem V) → List Bool
  | _, [] => []
  | i, item :: rest =>
    svc.decide lang tCtx (clocks i) (item.evaluation subject) ::
      svc.decideAll lang tCtx clocks subject (i + 1) rest

/-- `POST /access/v1/evaluations` -/
def handleAuthZenEvaluations (lang : ExprLang V P) (clocks : Nat → Memory.Clock)
    (tenantID : String) (body : Except String (AuthZenBatchRequest V)) :
    ServiceM V P (List Bool) := do
  -- The tenant is looked up once, for all evaluations.
  let tCtx ← client (clocks 0) (tenantCtxFromHeader tenantID)
  let req ← readJSON body
  return (← get).decideAll lang tCtx clocks req.subject 0 req.evaluations

end ZanGuard.Api
