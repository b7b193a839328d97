import ZanGuard.Api.Server
import ZanGuard.Api.Tenants
import ZanGuard.Api.Tuples
import ZanGuard.Storage.Deployment

/-!
The management API over one store, one engine and one registry.

Each handler has the service to itself; what it is given is the path, the query and the outcome of
decoding its body.
-/

namespace ZanGuard.Api

/-- What the endpoints share. -/
structure Service (V P : Type) where
  store : Memory.Store V
  server : Server P

variable {V P : Type}

/-- A service that was just started. -/
def Service.new (cfg : Config) : Service V P :=
  { store := .new, server := .new cfg }

/-! ### Handlers -/

/-- A handler, which may give up and keeps the service as it is by then. -/
abbrev ServiceM (V P : Type) := ExceptT Failure (StateM (Service V P))

/-- The outcome of something that does not involve the service. -/
def outcome {α : Type} (result : Except Failure α) : ServiceM V P α :=
  ExceptT.mk (pure result)

/-- Run a client of the store to its end. -/
def client {α : Type} (clock : Memory.Clock) (client : ExceptT Failure (ClientM V) α) :
    ServiceM V P α :=
  ExceptT.mk fun svc =>
    let ended := client.run.alone (fun s call => call.serve clock s) .txClosed svc.store
    (ended.1, { svc with store := ended.2 })

/-- Answer a call of the schema endpoints. -/
def ServerCall.serve (svc : Service V P) :
    (call : ServerCall P) → Except Err (call.Answer V) × Service V P
  | .getTenant tenantID => (svc.store.getTenant tenantID, svc)
  | .loadSchema tenantID cs =>
    (.ok (), { svc with server.eng := svc.server.eng.loadSchema tenantID cs })
  | .register tenantID data cs =>
    (.ok (), { svc with
      server.schemas := svc.server.schemas.insert tenantID data
      server.compiled := svc.server.compiled.insert tenantID cs })

/-- Run a handler of the schema endpoints to its end. -/
def upload {α : Type} (handler : HandlerM V P α) : ServiceM V P α :=
  ExceptT.mk fun svc => handler.run.alone ServerCall.serve .txClosed svc

/-- Call a method of the store that reads, and answer with the status of its error if it fails. -/
def readStore {α : Type} (read : Memory.Store V → Except Err α) : ServiceM V P α :=
  ExceptT.mk fun svc => ((read svc.store).mapError fun cause => .err (errStatus cause) cause, svc)

/-- Call a method of the store that writes, and answer with the status of its error if it fails. -/
def writeStore {α : Type} (write : Memory.Store V → Except Err α × Memory.Store V) :
    ServiceM V P α :=
  ExceptT.mk fun svc =>
    let written := write svc.store
    (written.1.mapError fun cause => .err (errStatus cause) cause, { svc with store := written.2 })

/-- The value a body was decoded to, or the answer to a body that is refused. -/
def readJSON {α : Type} (body : Except String α) : ServiceM V P α :=
  outcome (body.mapError fun cause => .text 400 ("invalid body: " ++ cause))

/-! ### Tenants -/

/-- `GET /api/v1/tenants/{tenantID}` -/
def handleGetTenant (tenantID : String) : ServiceM V P (Tenant V) :=
  readStore fun s => s.getTenant tenantID

/-- `DELETE /api/v1/tenants/{tenantID}` -/
def handleDeleteTenant (clock : Memory.Clock) (tenantID : String) : ServiceM V P Unit :=
  writeStore (Manager.delete (Memory.tupleStore clock) tenantID).run.run

/-- Read a tenant again whose status was changed; an error of this read is ignored. -/
def readAgain (tenantID : String) : ServiceM V P (Option (Tenant V)) :=
  ExceptT.mk fun svc => (.ok (svc.store.getTenant tenantID).toOption, svc)

/-- `POST /api/v1/tenants/{tenantID}/activate` -/
def handleActivateTenant (clock : Memory.Clock) (tenantID : String) :
    ServiceM V P (Option (Tenant V)) := do
  writeStore (Manager.activate (Memory.tupleStore clock) tenantID).run.run
  readAgain tenantID

/-- `POST /api/v1/tenants/{tenantID}/suspend` -/
def handleSuspendTenant (clock : Memory.Clock) (tenantID : String) :
    ServiceM V P (Option (Tenant V)) := do
  writeStore (Manager.suspend (Memory.tupleStore clock) tenantID).run.run
  readAgain tenantID

/-! ### Tuples -/

/-- `DELETE /api/v1/t/{tenantID}/tuples`; the body names the tuple. -/
def handleDeleteTuple (clock : Memory.Clock) (tenantID : String)
    (body : Except String (TupleRequest V)) : ServiceM V P Unit := do
  let tCtx ← client clock (tenantCtxFromPath tenantID)
  let req ← readJSON body
  outcome ((validateTupleRequest req).mapError (.text 400))
  -- An expiry in the body is not even looked at.
  writeStore fun s => s.deleteTuple tCtx (tupleFromRequest req) clock

/-- `strconv.ParseBool` -/
def parseBool (text : String) : Option Bool :=
  if text ∈ ["1", "t", "T", "TRUE", "true", "True"] then some true
  else if text ∈ ["0", "f", "F", "FALSE", "false", "False"] then some false
  else none

/-- The query of a listing of tuples; an absent parameter reads as an empty text. -/
structure ReadTuplesQuery where
  objectType : String := ""
  objectID : String := ""
  relation : String := ""
  subjectType : String := ""
  subjectID : String := ""
  subjectRelation : String := ""
  includeExpired : String := ""

/-- The filter a query asks for. -/
def ReadTuplesQuery.filter (query : ReadTuplesQuery) : Except Failure TupleFilter := do
  let filter : TupleFilter := {
    objectType := query.objectType, objectID := query.objectID, relation := query.relation,
    subjectType := query.subjectType, subjectID := query.subjectID,
    subjectRelation := query.subjectRelation }
  if query.includeExpired = "" then return filter
  match parseBool query.includeExpired with
  | none => throw (.text 400 "include_expired must be a boolean")
  | some includeExpired => return { filter with includeExpired }

/-- `GET /api/v1/t/{tenantID}/tuples` -/
def handleReadTuples (clock : Memory.Clock) (tenantID : String) (query : ReadTuplesQuery) :
    ServiceM V P (List (RelationTuple V)) := do
  let tCtx ← client clock (tenantCtxFromPath tenantID)
  let filter ← outcome query.filter
  readStore fun s => s.readTuples tCtx (some filter) clock

/-! ### Attributes -/

/-- Replace the attributes of an object or a subject, and answer with the new ones. -/
def setAttributes
    (set : Memory.Store V → Context V → String → String → AnyMap V → Except Err Unit × Memory.Store V)
    (clock : Memory.Clock) (tenantID type id : String) (body : Except String (AnyMap V)) :
    ServiceM V P (AnyMap V) := do
  let tCtx ← client clock (tenantCtxFromPath tenantID)
  let attrs ← readJSON body
  writeStore fun s => set s tCtx type id attrs
  return attrs

/-- `PUT /api/v1/t/{tenantID}/attributes/objects/{type}/{id}` -/
def handleSetObjectAttributes (clock : Memory.Clock) (tenantID objType objID : String)
    (body : Except String (AnyMap V)) : ServiceM V P (AnyMap V) :=
  setAttributes Memory.Store.setObjectAttributes clock tenantID objType objID body

/-- `PUT /api/v1/t/{tenantID}/attributes/subjects/{type}/{id}` -/
def handleSetSubjectAttributes (clock : Memory.Clock) (tenantID subType subID : String)
    (body : Except String (AnyMap V)) : ServiceM V P (AnyMap V) :=
  setAttributes Memory.Store.setSubjectAttributes clock tenantID subType subID body

/-- Read something of a tenant, with a method of the store that takes its context. -/
def readScoped {α : Type} (read : Memory.Store V → Context V → Except Err α)
    (clock : Memory.Clock) (tenantID : String) : ServiceM V P α := do
  let tCtx ← client clock (tenantCtxFromPath tenantID)
  readStore fun s => read s tCtx

/-- `GET /api/v1/t/{tenantID}/attributes/objects/{type}/{id}` -/
def handleGetObjectAttributes (clock : Memory.Clock) (tenantID type id : String) :
    ServiceM V P (AnyMap V) :=
  readScoped (fun s tCtx => s.getObjectAttributes tCtx type id) clock tenantID

/-- `GET /api/v1/t/{tenantID}/attributes/subjects/{type}/{id}` -/
def handleGetSubjectAttributes (clock : Memory.Clock) (tenantID type id : String) :
    ServiceM V P (AnyMap V) :=
  readScoped (fun s tCtx => s.getSubjectAttributes tCtx type id) clock tenantID

/-- `GET /api/v1/t/{tenantID}/attributes/objects?type=` -/
def handleListObjectAttributes (clock : Memory.Clock) (tenantID objectType : String) :
    ServiceM V P (List (EntityAttributes V)) :=
  readScoped (fun s tCtx => s.listObjectAttributes tCtx objectType) clock tenantID

/-- `GET /api/v1/t/{tenantID}/attributes/subjects?type=` -/
def handleListSubjectAttributes (clock : Memory.Clock) (tenantID subjectType : String) :
    ServiceM V P (List (EntityAttributes V)) :=
  readScoped (fun s tCtx => s.listSubjectAttributes tCtx subjectType) clock tenantID

/-! ### Expansion -/

/-- The body of an expansion. -/
structure ExpandRequest where
  objectType : String
  objectID : String
  relation : String

/-- `POST /api/v1/t/{tenantID}/expand` -/
def handleExpand (clock : Memory.Clock) (tenantID : String) (body : Except String ExpandRequest) :
    ServiceM V P SubjectTree := do
  let tCtx ← client clock (tenantCtxFromPath tenantID)
  let req ← readJSON body
  -- One message covers all three fields.
  if [req.objectType, req.objectID, req.relation].any (trimSpace · = "") then
    throw (.text 400 "object_type, object_id, and relation are required")
  let eng := (← get).server.eng
  readStore fun s => eng.expand s tCtx req.objectType req.objectID req.relation (clock 0)

end ZanGuard.Api
