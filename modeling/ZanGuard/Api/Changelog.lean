import ZanGuard.Api.Management
import ZanGuard.Lib.Sessions
import ZanGuard.Storage.Memory

/-! The changelog endpoint on the in-memory store, and clients that write tuples or poll it. -/

namespace ZanGuard.Api

/-- The value of a text that has digits and nothing else. -/
def digitsValue (text : List Char) : Option Nat :=
  if text ≠ [] ∧ text.all (·.isDigit) then some (Nat.ofDigitChars 10 text 0) else none

/-- The value of a number's decimal text is the number. -/
theorem digitsValue_repr (n : Nat) : digitsValue n.repr.toList = some n := by
  -- Every digit of the text is a digit, and there is at least one.
  have all : (Nat.toDigits 10 n).all (·.isDigit) = true := by
    refine List.all_eq_true.mpr fun c member => ?_
    exact Nat.isDigit_of_mem_toDigits (by decide) (by decide) member
  rw [Nat.repr_eq_ofList_toDigits, String.toList_ofList, digitsValue,
    if_pos ⟨Nat.toDigits_ne_nil, all⟩, Nat.ofDigitChars_ten_toDigits]

/-- `strconv.ParseUint(v, 10, 64)`. -/
def parseUint (text : String) : Option UInt64 :=
  match digitsValue text.toList with
  | none => none
  | some n => if n < 2 ^ 64 then some (.ofNat n) else none

/-- `strconv.Atoi`, with `int` as wide as on a 64-bit platform. -/
def atoi (text : String) : Option Int :=
  let signed : Option Int :=
    match text.toList with
    | '-' :: digits => (digitsValue digits).map fun n => -n
    | '+' :: digits => (digitsValue digits).map fun n => n
    | digits => (digitsValue digits).map fun n => n
  match signed with
  | none => none
  | some n => if -2 ^ 63 ≤ n ∧ n < 2 ^ 63 then some n else none

/-- An integer parameter that must not be negative. -/
def parseNonNegativeInt (raw name : String) : Except Failure Int :=
  match atoi raw with
  | none => .error (.text 400 (name ++ " must be an integer"))
  | some n => if n < 0 then .error (.text 400 (name ++ " must be non-negative")) else .ok n

/-- The parameter `since_seq`; an absent one reads as an empty text. -/
def parseSinceSeq (raw : String) : Except Failure UInt64 :=
  if raw = "" then .ok 0
  else
    match parseUint raw with
    | none => .error (.text 400 "since_seq must be an unsigned integer")
    | some n => .ok n

/-- The parameter `limit`, which is a hundred when it is absent or zero. -/
def parseLimit (raw : String) : Except Failure Int :=
  if raw = "" then .ok 100
  else do
    let n ← parseNonNegativeInt raw "limit"
    return if n > 0 then n else 100

variable {V : Type}

/-- What a client asks of the store, each call under the store's lock. -/
inductive StoreCall (V : Type) where
  | getTenant (tenantID : String)
  | readChangelog (ctx : Context V) (sinceSeq : UInt64) (limit : Int)
  | latestSequence (ctx : Context V)
  | writeTuple (ctx : Context V) (tuple : RelationTuple V)
  | writeTuples (ctx : Context V) (tuples : List (RelationTuple V))
  | deleteTuple (ctx : Context V) (tuple : RelationTuple V)

/-- What such a call returns. -/
def StoreCall.Answer : StoreCall V → Type
  | .getTenant _ => Tenant V
  | .readChangelog _ _ _ => List (ChangelogEntry V)
  | .latestSequence _ => UInt64
  | .writeTuple _ _ => Unit
  | .writeTuples _ _ => Unit
  | .deleteTuple _ _ => Unit

/-- Answer one call. -/
def StoreCall.serve (clock : Memory.Clock) (s : Memory.Store V) :
    (call : StoreCall V) → Except Err call.Answer × Memory.Store V
  | .getTenant tenantID => (s.getTenant tenantID, s)
  | .readChangelog ctx sinceSeq limit => (s.readChangelog ctx sinceSeq limit, s)
  | .latestSequence ctx => (s.latestSequence ctx, s)
  | .writeTuple ctx tuple => s.writeTuple ctx tuple clock
  | .writeTuples ctx tuples => s.writeTuples ctx tuples clock
  | .deleteTuple ctx tuple => s.deleteTuple ctx tuple clock

/-- Clients of the store, one call after the other. -/
abbrev ClientM (V : Type) := Transaction.Script (StoreCall V) StoreCall.Answer Err

/-- Send a call and hand over its answer, error or not. -/
def send (call : StoreCall V) : ExceptT Failure (ClientM V) (Except Err call.Answer) :=
  ExceptT.mk (.ask (.auto call) fun reply => .done (.ok reply))

/-- The status code of an error that comes up before a handler has its tenant. -/
def tenantContextErrStatus (err : Err) : Nat :=
  if errStatus err = 500 then 400 else errStatus err

/-- The tenant context of a path. -/
def tenantCtxFromPath (tenantID : String) : ExceptT Failure (ClientM V) (Context V) :=
  if tenantID = "" then
    throw (.err (tenantContextErrStatus .missingTenantID) .missingTenantID)
  else do
    match ← send (.getTenant tenantID) with
    | .error cause =>
      let err := Err.buildTenantContext tenantID cause
      throw (.err (tenantContextErrStatus err) err)
    | .ok tenant => return some { tenantID, tenant }

/-- What the changelog endpoint answers with. -/
structure ChangelogResponse (V : Type) where
  entries : List (ChangelogEntry V)
  count : Nat
  latestSequence : UInt64

/-- The page, and the last sequence number, which is zero when it cannot be read. -/
def changelogResponse (entries : List (ChangelogEntry V)) (latest : Except Err UInt64) :
    ChangelogResponse V :=
  { entries, count := entries.length, latestSequence := latest.toOption.getD 0 }

/-- `GET /api/v1/t/{tenantID}/changelog`: the page and the last sequence number are read apart. -/
def handleReadChangelog (tenantID sinceSeqRaw limitRaw : String) :
    ExceptT Failure (ClientM V) (ChangelogResponse V) := do
  let tCtx ← tenantCtxFromPath tenantID
  let sinceSeq ← ExceptT.mk (pure (parseSinceSeq sinceSeqRaw))
  let limit ← ExceptT.mk (pure (parseLimit limitRaw))
  match ← send (.readChangelog tCtx sinceSeq limit) with
  | .error cause => throw (.err (errStatus cause) cause)
  | .ok entries =>
    let latest ← send (.latestSequence tCtx)
    return changelogResponse entries latest

/-- What a client remembers: the tenant it polls, where it is, and the entries it has received. -/
structure Subscriber (V : Type) where
  tenantID : String
  sinceSeq : UInt64
  received : List (ChangelogEntry V)

/-- What a client does next: write tuples, or poll with a limit. -/
inductive Activity (V : Type) where
  | writeTuple (ctx : Context V) (tuple : RelationTuple V)
  | writeTuples (ctx : Context V) (tuples : List (RelationTuple V))
  | deleteTuple (ctx : Context V) (tuple : RelationTuple V)
  | poll (limit : String)

/-- What comes of it. -/
inductive ActivityResult (V : Type) where
  | written (outcome : Except Err Unit)
  | page (outcome : Except Failure (ChangelogResponse V))

/-- What an activity asks of the store. -/
def Activity.script (subscriber : Subscriber V) : Activity V → ClientM V (ActivityResult V)
  | .writeTuple ctx tuple =>
    .ask (.auto (.writeTuple ctx tuple)) fun outcome => .done (.written outcome)
  | .writeTuples ctx tuples =>
    .ask (.auto (.writeTuples ctx tuples)) fun outcome => .done (.written outcome)
  | .deleteTuple ctx tuple =>
    .ask (.auto (.deleteTuple ctx tuple)) fun outcome => .done (.written outcome)
  | .poll limit =>
    .page <$> (handleReadChangelog subscriber.tenantID subscriber.sinceSeq.toNat.repr limit).run

/-- A client keeps the entries of a page, and polls from the last sequence number on. -/
def Subscriber.receive (subscriber : Subscriber V) : ActivityResult V → Subscriber V
  | .page (.ok response) =>
    { subscriber with
      sinceSeq := response.latestSequence
      received := subscriber.received ++ response.entries }
  | _ => subscriber

/-- Answer one call; nobody opens a transaction. -/
def answer (clock : Memory.Clock) (s : Memory.Store V) :
    (request : Transaction.Request (StoreCall V)) →
      Option (request.Reply StoreCall.Answer Err × Memory.Store V)
  | .auto call => some (call.serve clock s)
  | .start | .exec _ | .commit | .rollback => none

/-- Any number of clients on one store. -/
def clients (V ι : Type) :
    Transaction.Protocol ι Memory.Clock (StoreCall V) (Memory.Store V) Err (Subscriber V)
      (Activity V) (ActivityResult V) StoreCall.Answer where
  serve _ clock s request := answer clock s request
  script subscriber activity := activity.script subscriber
  finish subscriber _ result := subscriber.receive result

end ZanGuard.Api
