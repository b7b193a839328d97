import ZanGuard.Api.AuthZen

/-! The routes of the server, and the server as a machine that handles one request after the other. -/

namespace ZanGuard.Api

variable {V P : Type}

/-- What the server works with that is not part of the repository. -/
structure Environment (V P : Type) where
  yaml : YamlDecoder
  lang : ExprLang V P
  /-- `time.Parse` with the layout RFC 3339. -/
  parseTime : String → Except String Time

/-- A request, by its route: its path, its query, and the outcome of decoding its body. -/
inductive ApiRequest (V : Type) where
  | health
  | createTenant (body : Except String CreateTenantRequest)
  | listTenants (query : ListTenantsQuery)
  | getTenant (tenantID : String)
  | deleteTenant (tenantID : String)
  | activateTenant (tenantID : String)
  | suspendTenant (tenantID : String)
  | loadSchema (tenantID : String) (data : List UInt8)
  | getSchema (tenantID : String)
  | writeTuples (tenantID : String) (body : Except String (List (TupleRequest V)))
  | writeTuple (tenantID : String) (body : Except String (TupleRequest V))
  | deleteTuple (tenantID : String) (body : Except String (TupleRequest V))
  | readTuples (tenantID : String) (query : ReadTuplesQuery)
  | listObjectAttributes (tenantID type : String)
  | getObjectAttributes (tenantID type id : String)
  | setObjectAttributes (tenantID type id : String) (body : Except String (AnyMap V))
  | listSubjectAttributes (tenantID type : String)
  | getSubjectAttributes (tenantID type id : String)
  | setSubjectAttributes (tenantID type id : String) (body : Except String (AnyMap V))
  | readChangelog (tenantID sinceSeq limit : String)
  | expand (tenantID : String) (body : Except String ExpandRequest)
  | evaluation (tenantID : String) (body : Except String (AuthZenEvaluationRequest V))
  | evaluations (tenantID : String) (body : Except String (AuthZenBatchRequest V))

/-- A request with the clock readings that are made for it. -/
structure ApiCall (V : Type) where
  request : ApiRequest V
  /-- The reading of the handler. -/
  now : Time
  /-- Those of the store methods it calls. -/
  clock : Memory.Clock
  /-- Those of the checks it makes. -/
  checks : Nat → Memory.Clock

/-- What a request that succeeds is answered with. -/
inductive Body (V : Type) where
  /-- `status` is `ok`. -/
  | ok
  /-- As many tuples were written. -/
  | count (n : Nat)
  | noContent
  /-- A tenant, or null where it could not be read again. -/
  | tenant (t : Option (Tenant V))
  | tenants (ts : List (Tenant V))
  | schema (response : SchemaResponse)
  | tuples (ts : List (RelationTuple V))
  | attributes (attrs : AnyMap V)
  | entities (entities : List (EntityAttributes V))
  | changelog (response : ChangelogResponse V)
  | tree (tree : SubjectTree)
  | decision (decision : Bool)
  | decisions (decisions : List Bool)

/-- A status code with what is written under it, or how the handler gave up. -/
abbrev Response (V : Type) := Except Failure (Nat × Body V)

/-- Run a handler that works on the store only. -/
def onStore {α : Type} (handler : ExceptT Failure (StateM (Memory.Store V)) α) : ServiceM V P α :=
  ExceptT.mk fun svc =>
    let ended := handler.run.run svc.store
    (ended.1, { svc with store := ended.2 })

/-- Hand a decoded body to a handler; the tenant is looked up before a body is refused. -/
def withBody {α β : Type} (clock : Memory.Clock) (tenantID : String) (body : Except String α)
    (handler : α → ServiceM V P β) : ServiceM V P β :=
  match body with
  | .ok req => handler req
  | .error cause => do
    let _ ← client clock (tenantCtxFromPath tenantID)
    throw (.text 400 ("invalid body: " ++ cause))

/-- Handle a request. -/
def Environment.handle (env : Environment V P) (call : ApiCall V) : ServiceM V P (Nat × Body V) :=
  let clock := call.clock
  match call.request with
  | .health => return (200, .ok)
  | .createTenant body => do
    let req ← readJSON body
    let t ← onStore (handleCreateTenant (Memory.tupleStore clock) req call.now)
    return (201, .tenant (some t))
  | .listTenants query => do
    let svc ← get
    return (200, .tenants (← outcome (handleListTenants svc.store query)))
  | .getTenant tenantID => return (200, .tenant (some (← handleGetTenant tenantID)))
  | .deleteTenant tenantID => do
    handleDeleteTenant clock tenantID
    return (204, .noContent)
  | .activateTenant tenantID => return (200, .tenant (← handleActivateTenant clock tenantID))
  | .suspendTenant tenantID => return (200, .tenant (← handleSuspendTenant clock tenantID))
  | .loadSchema tenantID data =>
    return (200, .schema
      (← upload (handleLoadSchema env.yaml env.lang { tenantID, data, now := call.now })))
  | .getSchema tenantID => do
    let svc ← get
    return (200, .schema (← outcome (handleGetSchema svc.server tenantID)))
  | .writeTuples tenantID body =>
    return (201, .count (← withBody clock tenantID body fun reqs =>
      client clock (handleWriteTuples env.parseTime tenantID reqs call.now)))
  | .writeTuple tenantID body => do
    withBody clock tenantID body fun req =>
      client clock (handleWriteTuple env.parseTime tenantID req call.now)
    return (201, .ok)
  | .deleteTuple tenantID body => do
    handleDeleteTuple clock tenantID body
    return (204, .noContent)
  | .readTuples tenantID query => return (200, .tuples (← handleReadTuples clock tenantID query))
  | .listObjectAttributes tenantID type =>
    return (200, .entities (← handleListObjectAttributes clock tenantID type))
  | .getObjectAttributes tenantID type id =>
    return (200, .attributes (← handleGetObjectAttributes clock tenantID type id))
  | .setObjectAttributes tenantID type id body =>
    return (200, .attributes (← handleSetObjectAttributes clock tenantID type id body))
  | .listSubjectAttributes tenantID type =>
    return (200, .entities (← handleListSubjectAttributes clock tenantID type))
  | .getSubjectAttributes tenantID type id =>
    return (200, .attributes (← handleGetSubjectAttributes clock tenantID type id))
  | .setSubjectAttributes tenantID type id body =>
    return (200, .attributes (← handleSetSubjectAttributes clock tenantID type id body))
  | .readChangelog tenantID sinceSeq limit =>
    return (200, .changelog (← client clock (handleReadChangelog tenantID sinceSeq limit)))
  | .expand tenantID body => return (200, .tree (← handleExpand clock tenantID body))
  | .evaluation tenantID body =>
    return (200, .decision (← handleAuthZenEvaluation env.lang (call.checks 0) tenantID body))
  | .evaluations tenantID body =>
    return (200, .decisions (← handleAuthZenEvaluations env.lang call.checks tenantID body))

/-- Answer a request, and go on with the service it leaves. -/
def Environment.serve (env : Environment V P) (svc : Service V P) (call : ApiCall V) :
    Response V × Service V P :=
  (env.handle call).run.run svc

/-- The server as a machine. -/
def Environment.machine (env : Environment V P) :
    Machine (Service V P) (ApiCall V) (Response V) where
  step := env.serve

end ZanGuard.Api
