import ZanGuard.Api.Changelog

/-! The tuple endpoints of the management API, from the decoded request to the write they make. -/

namespace ZanGuard.Api

/-- The body of a request that names one tuple. -/
structure TupleRequest (V : Type) where
  objectType : String
  objectID : String
  relation : String
  subjectType : String
  subjectID : String
  subjectRelation : String := ""
  attributes : AnyMap V := none
  ttlSeconds : Option Int := none
  expiresAt : String := ""

variable {V : Type}

/-- The fields a request must fill, in the order they are checked. -/
def TupleRequest.required (req : TupleRequest V) : List (String × String) :=
  [("object_type", req.objectType), ("object_id", req.objectID), ("relation", req.relation),
    ("subject_type", req.subjectType), ("subject_id", req.subjectID)]

/-- Refuse a request for its first field that is blank. -/
def validateTupleRequest (req : TupleRequest V) : Except String Unit :=
  -- A field of blanks only counts as missing.
  match req.required.find? fun field => trimSpace field.2 = "" with
  | some field => .error (field.1 ++ " is required")
  | none => .ok ()

/-- The tuple a request names. -/
def tupleFromRequest (req : TupleRequest V) : RelationTuple V :=
  { objectType := req.objectType, objectID := req.objectID, relation := req.relation,
    subjectType := req.subjectType, subjectID := req.subjectID,
    subjectRelation := req.subjectRelation, attributes := req.attributes }

/-- The longest time to live a request may ask for. -/
def maxTupleTTLSeconds : Int := 86400

/-- The expiry of the tuple, from a time to live or from a time, but not from both. -/
def tupleExpiryFromRequest (parseTime : String → Except String Time) (req : TupleRequest V)
    (now : Time) : Except String (Option Time) :=
  let expiresRaw := trimSpace req.expiresAt
  match req.ttlSeconds with
  | some ttl =>
    -- The two ways to set an expiry exclude each other, whatever they say.
    if expiresRaw ≠ "" then .error "ttl_seconds and expires_at are mutually exclusive"
    else if ttl ≤ 0 then .error "ttl_seconds must be greater than 0"
    else if ttl > maxTupleTTLSeconds then
      .error ("ttl_seconds must be <= " ++ maxTupleTTLSeconds.repr)
    -- An instant counts nanoseconds.
    else .ok (some (now + ttl * 1000000000))
  | none =>
    -- Without either, the tuple does not expire.
    if expiresRaw = "" then .ok none
    else
      match parseTime expiresRaw with
      | .error cause => .error ("expires_at must be RFC3339: " ++ cause)
      | .ok expiresAt => .ok (some expiresAt)

/-- The tuple a request asks to write. -/
def tupleFromWriteRequest (parseTime : String → Except String Time) (req : TupleRequest V)
    (now : Time) : Except String (RelationTuple V) := do
  let expiresAt ← tupleExpiryFromRequest parseTime req now
  return { tupleFromRequest req with expiresAt }

/-- What the handlers do with one request before they write. -/
def writtenTuple (parseTime : String → Except String Time) (req : TupleRequest V) (now : Time) :
    Except String (RelationTuple V) := do
  validateTupleRequest req
  tupleFromWriteRequest parseTime req now

/-- Send a write, and answer with the status of its error when it fails. -/
def sendWrite (call : StoreCall V) : ExceptT Failure (ClientM V) call.Answer := do
  match ← send call with
  -- The status depends on the error, and its text is the answer.
  | .error cause => throw (.err (errStatus cause) cause)
  | .ok answer => return answer

/-- `POST /api/v1/t/{tenantID}/tuples`. -/
def handleWriteTuple (parseTime : String → Except String Time) (tenantID : String)
    (req : TupleRequest V) (now : Time) : ExceptT Failure (ClientM V) Unit := do
  -- The tenant is looked up before the body is looked at.
  let tCtx ← tenantCtxFromPath tenantID
  -- A refused body answers 400 and writes nothing.
  let tuple ← ExceptT.mk (pure ((writtenTuple parseTime req now).mapError (.text 400)))
  sendWrite (.writeTuple tCtx tuple)

/-- The tuples of a batch from a position on, or the message for the first one that is refused. -/
def writtenTuples (parseTime : String → Except String Time) (now : Time) :
    Nat → List (TupleRequest V) → Except String (List (RelationTuple V))
  | _, [] => .ok []
  | i, req :: rest => do
    -- The message names the position, counted from zero.
    let tuple ← (writtenTuple parseTime req now).mapError fun message =>
      "tuples[" ++ i.repr ++ "]: " ++ message
    return tuple :: (← writtenTuples parseTime now (i + 1) rest)

/-- `POST /api/v1/t/{tenantID}/tuples/batch`; the answer counts the tuples. -/
def handleWriteTuples (parseTime : String → Except String Time) (tenantID : String)
    (reqs : List (TupleRequest V)) (now : Time) : ExceptT Failure (ClientM V) Nat := do
  let tCtx ← tenantCtxFromPath tenantID
  if reqs.isEmpty then
    throw (.text 400 "tuples must contain at least one entry")
  -- One refused tuple refuses the batch.
  let tuples ← ExceptT.mk (pure ((writtenTuples parseTime now 0 reqs).mapError (.text 400)))
  sendWrite (.writeTuples tCtx tuples)
  return tuples.length

/-- A request that writes through the API, with the clock readings it is handled at. -/
inductive WriteRequest (V : Type) where
  | one (tenantID : String) (req : TupleRequest V)
  | batch (tenantID : String) (reqs : List (TupleRequest V))

/-- What the handler of a write asks of the store. -/
def WriteRequest.script (parseTime : String → Except String Time) (now : Time) :
    WriteRequest V → ClientM V (Except Failure Nat)
  | .one tenantID req => ((fun _ => 1) <$> handleWriteTuple parseTime tenantID req now).run
  | .batch tenantID reqs => (handleWriteTuples parseTime tenantID reqs now).run

/-- The store after a client that has it to itself. -/
def served {α : Type} (clock : Memory.Clock) : ClientM V α → Memory.Store V → Memory.Store V
  | .done _, s => s
  | .ask request next, s =>
    match answer clock s request with
    | some (reply, after) => served clock (next reply) after
    | none => s

end ZanGuard.Api
