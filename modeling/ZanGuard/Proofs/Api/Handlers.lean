import ZanGuard.Api.Routes
import ZanGuard.Lib.AllOrNothing
import ZanGuard.Proofs.Api.Listing
import ZanGuard.Proofs.Api.Registry
import ZanGuard.Proofs.Storage.Attributes
import ZanGuard.Proofs.Schema.Nulls
import ZanGuard.Proofs.Storage.Frozen

/-! What a request to the service does: it is refused, it reads, or it makes the change it asks for. -/

namespace ZanGuard.Api

open Memory Transaction

variable {V P : Type}

/-! ### Running handlers -/

/-- A step of a client that may give up runs on from where the first one stopped. -/
theorem alone_bind {S G E ε α β : Type} {Answer : S → Type}
    (serve : G → (statement : S) → Except E (Answer statement) × G) (closed : E)
    (first : ExceptT ε (Script S Answer E) α) (next : α → ExceptT ε (Script S Answer E) β) (g : G) :
    (first >>= next).run.alone serve closed g =
      match first.run.alone serve closed g with
      | (.ok value, after) => (next value).run.alone serve closed after
      | (.error e, after) => (.error e, after) := by
  show (first.run >>= ExceptT.bindCont next).alone serve closed g = _
  rw [Script.alone_bind]
  rcases first.run.alone serve closed g with ⟨outcome, after⟩
  cases outcome <;> rfl

/-- The answer to a call that is sent as part of a handler. -/
theorem send_alone (clock : Clock) (call : StoreCall V) (s : Store V) :
    (send call).run.alone (fun s call => call.serve clock s) .txClosed s =
      (.ok (call.serve clock s).1, (call.serve clock s).2) := rfl

/-- The tenant context of a path, for a store that has the tenant or has it not. -/
theorem tenantCtxFromPath_alone (clock : Clock) (tenantID : String) (s : Store V) :
    (tenantCtxFromPath tenantID).run.alone (fun s call => call.serve clock s) .txClosed s =
      (if tenantID = "" then .error (.err 400 .missingTenantID)
       else
        match s.tenants.lookup tenantID with
        | none => .error (.err 404 (.buildTenantContext tenantID .tenantNotFound))
        | some tenant => .ok (some { tenantID, tenant }), s) := by
  unfold tenantCtxFromPath
  split
  · rfl
  · rw [alone_bind, send_alone]
    simp only [StoreCall.serve, Store.getTenant]
    -- The only error the store has here is that there is no such tenant.
    cases s.tenants.lookup tenantID <;> rfl

/-- So it is with the tenant context of a header, but for the status. -/
theorem tenantCtxFromHeader_alone (clock : Clock) (tenantID : String) (s : Store V) :
    (tenantCtxFromHeader tenantID).run.alone (fun s call => call.serve clock s) .txClosed s =
      (if tenantID = "" then .error (.text 400 "missing X-Tenant-ID header")
       else
        match s.tenants.lookup tenantID with
        | none => .error (.err 400 (.buildTenantContext tenantID .tenantNotFound))
        | some tenant => .ok (some { tenantID, tenant }), s) := by
  unfold tenantCtxFromHeader
  split
  · rfl
  · rw [alone_bind, send_alone]
    simp only [StoreCall.serve, Store.getTenant]
    cases s.tenants.lookup tenantID <;> rfl

/-! ### What every reachable service has -/

/-- What holds of every service that requests have led to. -/
structure Service.Sound (svc : Service V P) : Prop where
  /-- A tenant is stored under its own ID. -/
  own : ∀ tenantID t, svc.store.tenants.lookup tenantID = some t → t.id = tenantID
  /-- A stored tenant has a bucket of tuples. -/
  opened : ∀ tenantID t, svc.store.tenants.lookup tenantID = some t →
    (svc.store.tuples.lookup tenantID).isSome = true
  /-- Whoever has a bucket of tuples has the buckets of attributes as well. -/
  buckets : ∀ tenantID, (svc.store.tuples.lookup tenantID).isSome = true →
    ∀ entity, ((svc.store.bucketsOf entity).lookup tenantID).isSome = true
  /-- A source is registered together with what it was compiled to. -/
  compiled : ∀ tenantID, (svc.server.schemas.lookup tenantID).isSome = true →
    (svc.server.compiled.lookup tenantID).isSome = true

/-- A service that was just started has nothing that could be wrong. -/
theorem Service.Sound.new (cfg : Config) : (Service.new cfg : Service V P).Sound := by
  constructor <;> simp [Service.new, Store.new, Server.new]

/-! ### What a request does -/

/-- Whether a failure is the server's own: a status from 500 on, or a panic. -/
def Failure.internal : Failure → Bool
  -- A schema error stands for the panic it was met with as well.
  | .schema _ _ .nilPointer | .nilPointer | .sliceBounds => true
  | .text status _ | .err status _ | .schema status _ _ | .details status _ _ => 500 ≤ status

/-- The requests a server may fail to answer, and the circumstances. -/
def Service.MayFail (env : Environment V P) (svc : Service V P) : ApiRequest V → Prop
  | .listTenants query => ∃ filter, query.filter = .ok filter ∧ 0 < filter.limit ∧
      filter.offset < (svc.store.selectTenants (some filter)).length ∧
      2 ^ 63 ≤ filter.offset + filter.limit
  | .loadSchema _ data => ∃ raw, parse env.yaml data = .ok raw ∧ ¬ raw.NoNil
  | _ => False

/-- The tuples a request asks to write, and the tenant it writes them for. -/
def ApiCall.writes (env : Environment V P) (call : ApiCall V) :
    Option (String × List (RelationTuple V)) :=
  match call.request with
  | .writeTuple tenantID (.ok req) =>
    (writtenTuple env.parseTime req call.now).toOption.map fun tuple => (tenantID, [tuple])
  | .writeTuples tenantID (.ok reqs) =>
    (writtenTuples env.parseTime call.now 0 reqs).toOption.map fun tuples => (tenantID, tuples)
  | _ => none

/-- The tuple a request asks to delete, and the tenant it is deleted from. -/
def ApiRequest.deletes : ApiRequest V → Option (String × RelationTuple V)
  | .deleteTuple tenantID (.ok req) => some (tenantID, tupleFromRequest req)
  | _ => none

/-- The attributes a request asks to replace, and the tenant they belong to. -/
def ApiRequest.sets : ApiRequest V → Option (String × SetCall V)
  | .setObjectAttributes tenantID type id (.ok attrs) =>
    some (tenantID, { entity := .object, type, id, attrs })
  | .setSubjectAttributes tenantID type id (.ok attrs) =>
    some (tenantID, { entity := .subject, type, id, attrs })
  | _ => none

/-- The status a request asks to move a tenant to. -/
def ApiRequest.moves : ApiRequest V → Option (String × TenantStatus)
  | .activateTenant tenantID => some (tenantID, .active)
  | .suspendTenant tenantID => some (tenantID, .suspended)
  | .deleteTenant tenantID => some (tenantID, .deleted)
  | _ => none

/-- Whether a request asks for no change. -/
def ApiRequest.reads : ApiRequest V → Bool
  | .createTenant _ | .deleteTenant _ | .activateTenant _ | .suspendTenant _ | .loadSchema _ _
  | .writeTuples _ _ | .writeTuple _ _ | .deleteTuple _ _
  | .setObjectAttributes _ _ _ _ | .setSubjectAttributes _ _ _ _ => false
  | _ => true

/-- What a request does that is not refused: it makes the change it asks for, or reads. -/
inductive Accepted (env : Environment V P) (svc : Service V P) (call : ApiCall V) :
    Service V P → Prop
  | read (asked : call.request.reads = true) : Accepted env svc call svc
  | created {req : CreateTenantRequest} {t : Tenant V} (asked : call.request = .createTenant (.ok req))
      (fresh : svc.store.tenants.lookup req.id = none) (own : t.id = req.id)
      (status : t.status = .pending) :
      Accepted env svc call { svc with
        store := { svc.store with tenants := svc.store.tenants.insert req.id t }.initTenant req.id }
  | moved {tenantID : String} {status : TenantStatus} {t : Tenant V}
      (asked : call.request.moves = some (tenantID, status))
      (stored : svc.store.tenants.lookup tenantID = some t) (kept : t.status ≠ .deleted) :
      Accepted env svc call { svc with
        store.tenants := svc.store.tenants.insert tenantID
          { t with status, updatedAt := call.clock 0 } }
  | wrote {tenantID : String} {tuples : List (RelationTuple V)}
      (asked : call.writes env = some (tenantID, tuples))
      (writable : svc.store.checkTenantWritable tenantID = .ok ())
      (done : (svc.store.writeTuplesLocked tenantID tuples call.clock).1 = .ok ()) :
      Accepted env svc call { svc with
        store := (svc.store.writeTuplesLocked tenantID tuples call.clock).2 }
  | deleted {tenantID : String} {tuple t : RelationTuple V}
      (asked : call.request.deletes = some (tenantID, tuple))
      (writable : svc.store.checkTenantWritable tenantID = .ok ())
      (found : (svc.store.tuplesOf tenantID).find? (sameIdentity · tuple) = some t) :
      Accepted env svc call { svc with
        store := { svc.store with
          tuples := svc.store.tuples.insert tenantID
            ((svc.store.tuplesOf tenantID).eraseP (sameIdentity · tuple))
          }.appendTupleChangelogUnsafe tenantID .delete t "api" (call.clock 0) }
  | set {tc : TenantContext V} {set : SetCall V} {after : Store V}
      (asked : call.request.sets = some (tc.tenantID, set))
      (writable : svc.store.checkTenantWritable tc.tenantID = .ok ())
      (done : svc.store.setAttributes (some tc) set = (.ok (), after)) :
      Accepted env svc call { svc with store := after }
  | loaded {tenantID : String} {data : List UInt8} {cs : CompiledSchema P} {t : Tenant V}
      (asked : call.request = .loadSchema tenantID data)
      (stored : svc.store.tenants.lookup tenantID = some t)
      (accepted : compileUpload env.yaml env.lang data call.now = .ok cs) :
      Accepted env svc call { svc with
        server := {
          eng := svc.server.eng.loadSchema tenantID cs
          schemas := svc.server.schemas.insert tenantID data
          compiled := svc.server.compiled.insert tenantID cs } }

/-! ### Looking up the tenant -/

/-- A failure that is the client's, not the server's own. -/
def Failure.Refuses (failure : Failure) : Prop :=
  failure.internal = false

/-- A client is run on the store, and nothing else changes. -/
theorem client_run {α : Type} (clock : Clock) (first : ExceptT Failure (ClientM V) α)
    (svc : Service V P) :
    (client clock first).run.run svc =
      ((first.run.alone (fun s call => call.serve clock s) .txClosed svc.store).1,
        { svc with
          store := (first.run.alone (fun s call => call.serve clock s) .txClosed svc.store).2 }) :=
  rfl

/-- A client runs part by part. -/
theorem client_bind {α β : Type} (clock : Clock) (first : ExceptT Failure (ClientM V) α)
    (next : α → ExceptT Failure (ClientM V) β) :
    (client clock (first >>= next) : ServiceM V P β) =
      client clock first >>= fun value => client clock (next value) := by
  -- Both sides hand the store that the first part leaves to the second one.
  refine ExceptT.ext (funext fun svc => ?_)
  show (client clock (first >>= next)).run.run svc =
    (client clock first >>= fun value => client clock (next value)).run.run svc
  rw [ExceptT.run_state_bind, client_run, client_run, alone_bind]
  generalize first.run.alone _ _ svc.store = ran
  obtain ⟨result, after⟩ := ran
  cases result <;> rfl

/-- A refusal with a text. -/
theorem refuses_text {status : Nat} {message : String} (client : status < 500) :
    (Failure.text status message).Refuses := by
  simp [Failure.Refuses, Failure.internal, client]

/-- A refusal with an error. -/
theorem refuses_err {status : Nat} {cause : Err} (client : status < 500) :
    (Failure.err status cause).Refuses := by
  simp [Failure.Refuses, Failure.internal, client]

/-- What a handler has found that goes on for a stored tenant. -/
def Service.HasTenant (svc : Service V P) (tenantID : String) (ctx : Context V) : Prop :=
  ∃ tenant, svc.store.tenants.lookup tenantID = some tenant ∧ ctx = some { tenantID, tenant }

variable {svc : Service V P} {clock : Clock} {tenantID : String}

/-- The tenant of a path is found, or the request is refused. -/
theorem tenantCtxFromPath_looks :
    ExceptT.AllOrNothing Failure.Refuses (fun ctx after => after = svc ∧ svc.HasTenant tenantID ctx)
      svc (client clock (tenantCtxFromPath tenantID)) := by
  unfold ExceptT.AllOrNothing
  rw [client_run, tenantCtxFromPath_alone]
  by_cases blank : tenantID = ""
  · rw [if_pos blank]
    exact ⟨rfl, refuses_err (by decide)⟩
  · rw [if_neg blank]
    cases stored : svc.store.tenants.lookup tenantID with
    | none => exact ⟨rfl, refuses_err (by decide)⟩
    | some tenant => exact ⟨rfl, tenant, stored, rfl⟩

/-- So it is with the tenant of a header. -/
theorem tenantCtxFromHeader_looks :
    ExceptT.AllOrNothing Failure.Refuses (fun ctx after => after = svc ∧ svc.HasTenant tenantID ctx)
      svc (client clock (tenantCtxFromHeader tenantID)) := by
  unfold ExceptT.AllOrNothing
  rw [client_run, tenantCtxFromHeader_alone]
  by_cases blank : tenantID = ""
  · rw [if_pos blank]
    exact ⟨rfl, refuses_text (by decide)⟩
  · rw [if_neg blank]
    cases stored : svc.store.tenants.lookup tenantID with
    | none => exact ⟨rfl, refuses_err (by decide)⟩
    | some tenant => exact ⟨rfl, tenant, stored, rfl⟩

/-- An outcome is handed on, or refuses with a text. -/
theorem outcome_looks {α : Type} {result : Except String α} {wrap : String → Failure}
    (refuses : ∀ cause, (wrap cause).Refuses) :
    ExceptT.AllOrNothing Failure.Refuses (fun value after => after = svc ∧ result = .ok value) svc
      (outcome (result.mapError wrap) : ServiceM V P α) := by
  refine .outcome (fun e failed => ?_) fun value done => ⟨rfl, Except.of_mapError_ok done⟩
  obtain ⟨cause, -, rfl⟩ := Except.of_mapError_error failed
  exact refuses cause

/-- A body is decoded, or refuses the request. -/
theorem readJSON_looks {α : Type} {body : Except String α} :
    ExceptT.AllOrNothing Failure.Refuses (fun value after => after = svc ∧ body = .ok value) svc
      (readJSON body : ServiceM V P α) :=
  outcome_looks fun _ => refuses_text (by decide)

/-- What the store can answer a scoped call with that it refuses. -/
theorem checkTenantReadable_error {s : Store V} {e : Err}
    (refused : s.checkTenantReadable tenantID = .error e) : errStatus e < 500 := by
  unfold Store.checkTenantReadable at refused
  -- A tenant is missing or deleted.
  split at refused
  · cases refused
    decide
  · split at refused
    · cases refused
      decide
    · cases refused

theorem checkTenantWritable_error {s : Store V} {e : Err}
    (refused : s.checkTenantWritable tenantID = .error e) : errStatus e < 500 := by
  unfold Store.checkTenantWritable at refused
  split at refused
  · cases refused
    decide
  · split at refused <;> cases refused <;> decide

/-- A read of the store succeeds, or refuses the request. -/
theorem readStore_looks {α : Type} {read : Store V → Except Err α}
    (refuses : ∀ e, read svc.store = .error e → errStatus e < 500) :
    ExceptT.AllOrNothing Failure.Refuses (fun _ after => after = svc) svc
      (readStore read : ServiceM V P α) := by
  have run : (readStore read : ServiceM V P α).run.run svc =
      ((read svc.store).mapError fun cause => .err (errStatus cause) cause, svc) := rfl
  cases there : read svc.store with
  | error cause =>
    rw [there] at run
    exact .of_error run (refuses_err (refuses cause there))
  | ok value =>
    rw [there] at run
    exact .of_ok run rfl

/-- A scoped read succeeds, or refuses the request, when its body does. -/
theorem reading_refuses {α : Type} {s : Store V} {tc : TenantContext V} {body : String → Except Err α}
    {e : Err} (failed : s.reading (some tc) body = .error e)
    (refuses : ∀ e, body tc.tenantID = .error e → errStatus e < 500) : errStatus e < 500 := by
  rcases Except.of_bind_error failed with none_there | ⟨tenantID, there, failed⟩
  · cases none_there
  · obtain rfl : tc.tenantID = tenantID := Except.ok.inj there
    rcases Except.of_bind_error failed with unreadable | ⟨_, -, failed⟩
    · exact checkTenantReadable_error unreadable
    · exact refuses e failed

/-- A write is run on the store, and its error is given a status. -/
theorem writeStore_run {α : Type} (write : Store V → Except Err α × Store V) (svc : Service V P) :
    (writeStore write).run.run svc =
      ((write svc.store).1.mapError fun cause => .err (errStatus cause) cause,
        { svc with store := (write svc.store).2 }) :=
  rfl

/-- A write that the store refuses refuses the request. -/
theorem writeStore_refused {α : Type} {write : Store V → Except Err α × Store V} {e : Err}
    {post : α → Service V P → Prop} (refused : write svc.store = (.error e, svc.store))
    (soft : errStatus e < 500) : ExceptT.AllOrNothing Failure.Refuses post svc (writeStore write) := by
  have run := writeStore_run write svc
  rw [refused] at run
  exact .of_error run (refuses_err soft)

/-- A write that the store carries out makes its change. -/
theorem writeStore_done {α : Type} {write : Store V → Except Err α × Store V} {value : α}
    {after : Store V} {post : α → Service V P → Prop} (done : write svc.store = (.ok value, after))
    (holds : post value { svc with store := after }) :
    ExceptT.AllOrNothing Failure.Refuses post svc (writeStore write) := by
  have run := writeStore_run write svc
  rw [done] at run
  exact .of_ok run holds

/-- A scoped write is what its body makes of it, or is refused. -/
theorem writing_cases (s : Store V) (tc : TenantContext V) (body : String → Except Err Unit × Store V) :
    (s.checkTenantWritable tc.tenantID = .ok () ∧ s.writing (some tc) body = body tc.tenantID) ∨
      ∃ e, s.writing (some tc) body = (.error e, s) ∧ errStatus e < 500 := by
  simp only [Store.writing, tenantIDFromCtx]
  cases writable : s.checkTenantWritable tc.tenantID with
  | ok _ => exact .inl ⟨rfl, rfl⟩
  | error e => exact .inr ⟨e, rfl, checkTenantWritable_error writable⟩


/-! ### Handler by handler -/

section Handlers

variable {env : Environment V P} {call : ApiCall V}

/-- A request makes the change it asks for, reads, or is refused. -/
abbrev Settles {α : Type} (env : Environment V P) (svc : Service V P) (call : ApiCall V)
    (handler : ServiceM V P α) : Prop :=
  ExceptT.AllOrNothing Failure.Refuses (fun _ after => Accepted env svc call after) svc handler

/-- A handler that has only looked has read. -/
theorem settles_of_looks {α : Type} {handler : ServiceM V P α} (asked : call.request.reads = true)
    (looks : ExceptT.AllOrNothing Failure.Refuses (fun _ after => after = svc) svc handler) :
    Settles env svc call handler :=
  looks.imp (fun _ soft => soft) fun _ _ same => by rw [same]; exact .read asked

/-- The record of a tenant that is stored is replaced. -/
theorem updateTenant_found {s : Store V} {tenant t : Tenant V}
    (stored : s.tenants.lookup tenant.id = some t) :
    s.updateTenant tenant clock = (.ok (), { s with
      tenants := s.tenants.insert tenant.id { tenant with updatedAt := clock 0 } }) := by
  simp [Store.updateTenant, stored]

/-- A lifecycle call moves a tenant that is not deleted, or is refused. -/
theorem transition_settles (sound : svc.Sound) {check : TenantStatus → Except Err Unit}
    {status : TenantStatus} (asked : call.request.moves = some (tenantID, status))
    (deleted : ∃ e, check .deleted = .error e)
    (refuses : ∀ current e, check current = .error e → errStatus e < 500) :
    Settles env svc call
      (writeStore (Manager.transition (tupleStore call.clock) check status tenantID).run.run) := by
  have run := transition_run svc.store call.clock check status tenantID
  -- The record is read, checked, and stored again.
  cases stored : svc.store.tenants.lookup tenantID with
  | none =>
    have missing : svc.store.getTenant tenantID = .error .tenantNotFound := by
      simp [Store.getTenant, stored]
    rw [missing] at run
    exact writeStore_refused run (by decide)
  | some t =>
    have found : svc.store.getTenant tenantID = .ok t := by simp [Store.getTenant, stored]
    rw [found] at run
    dsimp only at run
    cases checked : check t.status with
    | error cause =>
      rw [checked] at run
      exact writeStore_refused run (refuses t.status cause checked)
    | ok allowed =>
      rw [checked] at run
      -- The record is found again, since it is stored under its own ID.
      obtain rfl := sound.own tenantID t stored
      have found : svc.store.tenants.lookup ({ t with status } : Tenant V).id = some t := stored
      have kept : t.status ≠ .deleted := by
        intro gone
        obtain ⟨e, refused⟩ := deleted
        rw [gone, refused] at checked
        cases checked
      have moved : Accepted env svc call { svc with
          store.tenants := svc.store.tenants.insert t.id
            { t with status, updatedAt := call.clock 0 } } := .moved asked stored kept
      exact writeStore_done (run.trans (updateTenant_found found)) moved

/-- A batch that is not staged has a tuple twice, or one that is stored. -/
theorem stageTuples_error {now : Time} {existing batch : List String} {tuples : List (RelationTuple V)}
    {e : Err} (failed : stageTuples tenantID now existing batch tuples = .error e) :
    e = .duplicateTuple := by
  -- The induction is on the batch, with the keys met so far.
  induction tuples generalizing batch with
  | nil => cases failed
  | cons tuple rest ih =>
    simp only [stageTuples] at failed
    split at failed
    · exact (Except.error.inj failed).symm
    · split at failed
      · exact (Except.error.inj failed).symm
      · rcases Except.of_bind_error failed with later | ⟨staged, -, done⟩
        · exact ih later
        · cases done

/-- A batch is stored as a whole, or refused. -/
theorem writeTuplesLocked_error {s : Store V} {batch : List (RelationTuple V)} {e : Err}
    (failed : (s.writeTuplesLocked tenantID batch clock).1 = .error e) :
    s.writeTuplesLocked tenantID batch clock = (.error .duplicateTuple, s) := by
  -- A batch is refused before anything is stored.
  unfold Store.writeTuplesLocked at failed ⊢
  split at failed
  · cases failed
  · rename_i some_there
    rw [if_neg some_there]
    dsimp only at failed ⊢
    split at failed
    · rename_i cause refused
      rw [stageTuples_error refused]
    · cases failed

/-- A client that sends a write calls the store. -/
theorem client_sendWrite (write : StoreCall V) :
    (client clock (sendWrite write) : ServiceM V P write.Answer) =
      writeStore fun s => write.serve clock s := by
  refine ExceptT.ext (funext fun svc => ?_)
  show (client clock (sendWrite write)).run.run svc = (writeStore fun s => write.serve clock s).run.run svc
  rw [client_run, writeStore_run, sendWrite, alone_bind, send_alone]
  generalize write.serve clock svc.store = written
  obtain ⟨result, after⟩ := written
  cases result <;> rfl

/-- A batch that is sent for a tenant is stored, or the request is refused. -/
theorem writeTuples_settles {tuples : List (RelationTuple V)} {ctx : Context V}
    (asked : call.writes env = some (tenantID, tuples)) (there : svc.HasTenant tenantID ctx) :
    Settles env svc call (writeStore fun s => s.writeTuples ctx tuples call.clock) := by
  obtain ⟨tenant, -, rfl⟩ := there
  obtain ⟨writable, writes⟩ | ⟨e, refused, soft⟩ :=
    writing_cases svc.store { tenantID, tenant } fun tenantID =>
      svc.store.writeTuplesLocked tenantID tuples call.clock
  · -- A tenant that may be written has the batch stored, unless it repeats a tuple.
    cases outcome : (svc.store.writeTuplesLocked tenantID tuples call.clock).1 with
    | error e =>
      exact writeStore_refused (writes.trans (writeTuplesLocked_error outcome)) (by decide)
    | ok _ => exact writeStore_done (writes.trans (Prod.ext outcome rfl)) (.wrote asked writable outcome)
  · exact writeStore_refused refused soft

/-- A deletion takes out the first tuple that agrees, or is refused. -/
theorem deleteTuple_cases (s : Store V) (tc : TenantContext V) (tuple : RelationTuple V) (clock : Clock) :
    (s.checkTenantWritable tc.tenantID = .ok () ∧
      ∃ t, (s.tuplesOf tc.tenantID).find? (sameIdentity · tuple) = some t ∧
        s.deleteTuple (some tc) tuple clock =
          (.ok (), { s with
            tuples := s.tuples.insert tc.tenantID
              ((s.tuplesOf tc.tenantID).eraseP (sameIdentity · tuple))
            }.appendTupleChangelogUnsafe tc.tenantID .delete t "api" (clock 0))) ∨
      ∃ e, s.deleteTuple (some tc) tuple clock = (.error e, s) ∧ errStatus e < 500 := by
  unfold Store.deleteTuple
  rcases writing_cases s tc _ with ⟨writable, writes⟩ | refused
  · rw [writes]
    cases found : (s.tuplesOf tc.tenantID).find? (sameIdentity · tuple) with
    | none => exact .inr ⟨.notFound, by simp only [found], by decide⟩
    | some t => exact .inl ⟨writable, t, rfl, by simp only [found]⟩
  · exact .inr refused

/-- A tuple that is found is deleted, or the request is refused. -/
theorem handleDeleteTuple_settles {body : Except String (TupleRequest V)}
    (asked : call.request = .deleteTuple tenantID body) :
    Settles env svc call (handleDeleteTuple call.clock tenantID body) := by
  refine .bind tenantCtxFromPath_looks ?_
  rintro ctx ⟨tenant, -, rfl⟩
  refine .bind readJSON_looks fun req decoded => ?_
  refine .bind (outcome_looks fun _ => refuses_text (by decide)) fun _ _ => ?_
  have names : call.request.deletes = some (tenantID, tupleFromRequest req) := by
    rw [asked, decoded]
    rfl
  obtain ⟨writable, t, found, made⟩ | ⟨e, refused, soft⟩ :=
    deleteTuple_cases svc.store { tenantID, tenant } (tupleFromRequest req) call.clock
  · exact writeStore_done made (.deleted names writable found)
  · exact writeStore_refused refused soft

/-- The attributes of an object or a subject are replaced, or the request is refused. -/
theorem setAttributes_settles (sound : svc.Sound) {body : Except String (AnyMap V)} {entity : Entity}
    {set : Store V → Context V → String → String → AnyMap V → Except Err Unit × Store V}
    {type id : String}
    (sets : ∀ s ctx attrs, set s ctx type id attrs = s.setAttributes ctx { entity, type, id, attrs })
    (asked : ∀ attrs, body = .ok attrs →
      call.request.sets = some (tenantID, { entity, type, id, attrs })) :
    Settles env svc call (setAttributes set call.clock tenantID type id body) := by
  refine .bind tenantCtxFromPath_looks ?_
  rintro ctx ⟨tenant, stored, rfl⟩
  refine .bind readJSON_looks fun attrs decoded => ?_
  suffices done : Settles env svc call
      (writeStore fun s => set s (some { tenantID, tenant }) type id attrs) from
    done.answer fun _ _ accepted => accepted
  -- A stored tenant has the bucket that the value is set in.
  obtain ⟨bucket, there⟩ := Option.isSome_iff_exists.mp
    (sound.buckets tenantID (sound.opened tenantID tenant stored) entity)
  have made := bucketSet_ok there (attrKey type id) attrs
  have outcome : (svc.store.checkTenantWritable tenantID = .ok () ∧
      (svc.store.setAttributes (some { tenantID, tenant }) { entity, type, id, attrs }).1 = .ok ()) ∨
      ∃ e, svc.store.setAttributes (some { tenantID, tenant }) { entity, type, id, attrs } =
        (.error e, svc.store) ∧ errStatus e < 500 := by
    -- The two calls do the same to different maps.
    cases entity with
    | object =>
      simp only [Store.bucketsOf] at made
      simp only [Store.setAttributes, Store.setObjectAttributes]
      refine (writing_cases svc.store { tenantID, tenant } _).imp ?_ fun refused => refused
      rintro ⟨writable, writes⟩
      exact ⟨writable, by rw [writes]; simp only [made]⟩
    | subject =>
      simp only [Store.bucketsOf] at made
      simp only [Store.setAttributes, Store.setSubjectAttributes]
      refine (writing_cases svc.store { tenantID, tenant } _).imp ?_ fun refused => refused
      rintro ⟨writable, writes⟩
      exact ⟨writable, by rw [writes]; simp only [made]⟩
  obtain ⟨writable, made⟩ | ⟨e, refused, soft⟩ := outcome
  · exact writeStore_done ((sets _ _ _).trans (Prod.ext made rfl))
      (.set (asked attrs decoded) writable (Prod.ext made rfl))
  · exact writeStore_refused ((sets _ _ _).trans refused) soft

/-- A scoped read reads, or is refused. -/
theorem readScoped_looks {α : Type} {read : Store V → Context V → Except Err α}
    (refuses : ∀ tc e, read svc.store (some tc) = .error e → errStatus e < 500) :
    ExceptT.AllOrNothing Failure.Refuses (fun _ after => after = svc) svc
      (readScoped read clock tenantID) := by
  refine .bind tenantCtxFromPath_looks ?_
  rintro ctx ⟨tenant, -, rfl⟩
  exact readStore_looks (refuses _)

/-- The read of one entity's attributes finds them, or refuses. -/
theorem bucketGet_refuses {buckets : StringMap (StringMap (AnyMap V))} {key : String} {e : Err}
    (failed : bucketGet buckets tenantID key = .error e) : errStatus e < 500 := by
  unfold bucketGet at failed
  split at failed
  · cases failed
    decide
  · cases failed

/-- The store of a service does what a handler on the store does. -/
theorem onStore_does {α : Type} {fails : Failure → Prop} {post : α → Service V P → Prop}
    {handler : ExceptT Failure (StateM (Store V)) α}
    (done : ExceptT.AllOrNothing fails (fun value after => post value { svc with store := after })
      svc.store handler) : ExceptT.AllOrNothing fails post svc (onStore handler) := by
  unfold ExceptT.AllOrNothing at done ⊢
  have run : (onStore handler).run.run svc =
      ((handler.run.run svc.store).1, { svc with store := (handler.run.run svc.store).2 }) := rfl
  rw [run]
  generalize handler.run.run svc.store = ran at done
  obtain ⟨result, after⟩ := ran
  cases result with
  | error e =>
    obtain ⟨rfl, holds⟩ := done
    exact ⟨rfl, holds⟩
  | ok value => exact done

/-- A store to which a tenant was added that it did not have. -/
structure AddsTenant (s : Store V) (id : String) (t : Tenant V) (after : Store V) : Prop where
  fresh : s.tenants.lookup id = none
  own : t.id = id
  status : t.status = .pending
  stored : ∃ u : Tenant V,
    u.id = id ∧ u.status = .pending ∧ after = { s with tenants := s.tenants.insert id u }.initTenant id

/-- The store adds a tenant, unless it has one of that ID. -/
theorem createTenant_cases (s : Store V) (tenant : Tenant V) (clock : Clock) :
    (∃ e, s.createTenant tenant clock = (.error e, s)) ∨
      s.tenants.lookup tenant.id = none ∧ ∃ u : Tenant V,
        u.id = tenant.id ∧ u.status = tenant.status ∧ s.createTenant tenant clock =
          (.ok (), { s with tenants := s.tenants.insert tenant.id u }.initTenant tenant.id) := by
  cases stored : s.tenants.lookup tenant.id with
  | some t => exact .inl ⟨.tenantExists tenant.id, by simp [Store.createTenant, stored]⟩
  | none =>
    refine .inr ⟨rfl, { tenant with
      createdAt := if isZeroTime tenant.createdAt then clock 0 else tenant.createdAt
      updatedAt := clock 0 }, rfl, rfl, ?_⟩
    simp [Store.createTenant, stored]

/-- The manager adds a tenant, unless its ID is refused or there is one already. -/
theorem create_adds {s : Store V} {id displayName : String} {mode : SchemaMode} {now : Time} :
    ExceptT.AllOrNothing (fun _ => True) (AddsTenant s id) s
      (Manager.create (tupleStore clock) id displayName mode now) := by
  refine .bind (.outcome (fun _ _ => trivial) fun _ _ => ⟨rfl, (trivial : True)⟩) fun _ _ => ?_
  -- The record that is returned is the one that was handed to the store.
  generalize written : ({ id, displayName := if displayName = "" then id else displayName
                          status := .pending, schemaMode := mode, config := defaultTenantConfig
                          createdAt := now } : Tenant V) = t
  obtain rfl : t.id = id := by rw [← written]
  have status : t.status = .pending := by rw [← written]
  have done : ExceptT.AllOrNothing (fun _ => True) (fun _ after => AddsTenant s t.id t after) s
      ((tupleStore clock).createTenant t) := by
    have run : ((tupleStore clock).createTenant t).run.run s = s.createTenant t clock := rfl
    obtain ⟨e, refused⟩ | ⟨fresh, u, own, same, made⟩ := createTenant_cases s t clock
    · exact .of_error (run.trans refused) trivial
    · exact .of_ok (run.trans made) ⟨fresh, rfl, status, u, own, same.trans status, rfl⟩
  exact (done.adapt fun _ _ => trivial).answer fun _ _ added => added

/-- The buckets of a tenant are opened whatever the records are. -/
theorem initTenant_with (s : Store V) (id : String) (tenants : StringMap (Tenant V)) :
    { s.initTenant id with tenants } = { s with tenants }.initTenant id := by
  unfold Store.initTenant
  cases s.tuples.lookup id <;> rfl

/-- The optional fields of a tenant that was just added are stored in its record. -/
theorem storeOptional_stores {s : Store V} {id : String} {t u : Tenant V} (req : CreateTenantRequest)
    (own : t.id = id) (stored : s.tenants.lookup id = some u) :
    ExceptT.AllOrNothing (fun _ => False) (fun _ last => last = s ∨ ∃ v : Tenant V,
      v.id = id ∧ v.status = t.status ∧ last = { s with tenants := s.tenants.insert id v }) s
      (storeOptional (tupleStore clock) req t) := by
  obtain rfl := own
  unfold storeOptional
  split
  · generalize written : ({ t with
      parentTenantID := req.parentTenantID
      sharedSchemaRef := req.sharedSchemaRef } : Tenant V) = filled
    have own : filled.id = t.id := by rw [← written]
    have status : filled.status = t.status := by rw [← written]
    -- The record that was just added is found.
    have run : ((tupleStore clock).updateTenant filled).run.run s = (.ok (), { s with
        tenants := s.tenants.insert t.id { filled with updatedAt := clock 0 } }) := by
      rw [← own] at stored ⊢
      exact updateTenant_found stored
    have done : ExceptT.AllOrNothing (fun _ => False) (fun _ last => ∃ v : Tenant V,
        v.id = t.id ∧ v.status = t.status ∧ last = { s with tenants := s.tenants.insert t.id v }) s
        ((tupleStore clock).updateTenant filled) :=
      .of_ok run ⟨{ filled with updatedAt := clock 0 }, own, status, rfl⟩
    exact (done.adapt fun _ impossible => impossible).answer fun _ _ replaced => .inr replaced
  · exact .pure (.inl rfl)

/-- A tenant is created, or the request is refused. -/
theorem handleCreateTenant_settles {req : CreateTenantRequest}
    (asked : call.request = .createTenant (.ok req)) :
    Settles env svc call (onStore (handleCreateTenant (tupleStore call.clock) req call.now)) := by
  refine onStore_does (.bind (.outcome ?_ fun _ _ => ⟨rfl, (trivial : True)⟩) fun mode _ => ?_)
  · intro failure refused
    unfold CreateTenantRequest.check at refused
    split at refused
    · cases refused
      exact refuses_text (by decide)
    · split at refused
      · cases refused
        exact refuses_text (by decide)
      · split at refused
        · cases refused
          exact refuses_text (by decide)
        · cases refused
      · cases refused
  · refine .bind_sure (create_adds.adapt fun e _ => refuses_err (by decide)) fun t after added => ?_
    obtain ⟨fresh, own, status, u, storedOwn, storedStatus, rfl⟩ := added
    have opened := initTenant_with svc.store req.id (svc.store.tenants.insert req.id u)
    have there : ({ svc.store with tenants := svc.store.tenants.insert req.id u }.initTenant
        req.id).tenants.lookup req.id = some u := by
      rw [← opened]
      exact AList.lookup_insert _
    refine (storeOptional_stores req own there).imp (fun _ impossible => impossible)
      fun _ last replaced => ?_
    rcases replaced with rfl | ⟨v, own, same, rfl⟩
    · exact .created asked fresh storedOwn storedStatus
    · -- The second record takes the place of the first one.
      have replaced := initTenant_with svc.store req.id (svc.store.tenants.insert req.id v)
      rw [← opened]
      dsimp only
      rw [AList.insert_insert, replaced]
      exact .created asked fresh own (same.trans status)

/-- A source that is not compiled is refused, unless it has a null entry. -/
theorem compileUpload_fails {yaml : YamlDecoder} {lang : ExprLang V P} {data : List UInt8} {now : Time}
    {failure : Failure} (failed : compileUpload yaml lang data now = .error failure)
    (internal : failure.internal = true) : ∃ raw, parse yaml data = .ok raw ∧ ¬ raw.NoNil := by
  rcases Except.of_bind_error failed with unparsed | ⟨raw, parsed, failed⟩
  · obtain ⟨cause, parsed, rfl⟩ := Except.of_mapError_error unparsed
    -- The status is 422, so only a panic is the server's own.
    cases cause with
    | nilPointer => exact absurd parsed parse_safe
    | _ => simp [Failure.internal] at internal
  · rcases Except.of_bind_error failed with uncompiled | ⟨cs, -, failed⟩
    · obtain ⟨cause, compiled, rfl⟩ := Except.of_mapError_error uncompiled
      refine ⟨raw, Except.of_mapError_ok parsed, fun whole => ?_⟩
      cases cause with
      | nilPointer =>
        unfold compile at compiled
        split at compiled
        · rename_i e ran
          obtain rfl := Except.error.inj compiled
          exact compileTypes_safe whole ran
        · cases compiled
      | _ => simp [Failure.internal] at internal
    · split at failed
      · cases failed
      · obtain rfl := Except.error.inj failed
        simp [Failure.internal] at internal

/-- A schema is loaded, or the request is refused, or the compiler crashes. -/
theorem handleLoadSchema_settles {data : List UInt8}
    (asked : call.request = .loadSchema tenantID data) :
    ExceptT.AllOrNothing (fun failure => failure.internal = true → svc.MayFail env call.request)
      (fun _ after => Accepted env svc call after) svc
      (upload (handleLoadSchema env.yaml env.lang { tenantID, data, now := call.now })) := by
  have run : (upload (handleLoadSchema env.yaml env.lang { tenantID, data, now := call.now }) :
      ServiceM V P SchemaResponse).run.run svc =
        (handleLoadSchema env.yaml env.lang { tenantID, data, now := call.now }).run.alone
          ServerCall.serve .txClosed svc := rfl
  rw [handleLoadSchema_run] at run
  simp only [Script.alone, ServerCall.serve, Store.getTenant] at run
  cases stored : svc.store.tenants.lookup tenantID with
  | none =>
    simp only [stored] at run
    exact .of_error run fun internal => by simp [Failure.internal, errStatus] at internal
  | some t =>
    simp only [stored] at run
    cases accepted : compileUpload env.yaml env.lang data call.now with
    | error failure =>
      simp only [accepted] at run
      refine .of_error run fun internal => ?_
      rw [asked]
      exact compileUpload_fails accepted internal
    | ok cs =>
      simp only [accepted] at run
      -- The engine and the registry are told one after the other, and neither refuses.
      exact .of_ok run (.loaded asked stored accepted)

/-- A body that was not decoded refuses the request, after the tenant was looked up. -/
theorem withBody_settles {α β : Type} {body : Except String α} {handler : α → ServiceM V P β}
    (decoded : ∀ req, body = .ok req → Settles env svc call (handler req)) :
    Settles env svc call (withBody call.clock tenantID body handler) := by
  unfold withBody
  split
  · exact decoded _ rfl
  · refine .bind tenantCtxFromPath_looks fun _ _ => .of_error rfl (refuses_text (by decide))

/-- A handler that settles its request answers it in some form. -/
theorem Settles.answered {α : Type} {handler : ServiceM V P α} {wrap : α → Nat × Body V}
    (settles : Settles env svc call handler) :
    ExceptT.AllOrNothing (fun failure => failure.internal = true → svc.MayFail env call.request)
      (fun _ after => Accepted env svc call after) svc
      (handler >>= fun value => pure (wrap value)) :=
  (settles.imp (fun failure soft internal => by rw [soft] at internal; cases internal)
    fun _ _ done => done).answer fun _ _ done => done

/-- A handler that looks and answers in some form has read. -/
theorem reads_answered {α : Type} {handler : ServiceM V P α} {wrap : α → Nat × Body V}
    (asked : call.request.reads = true)
    (looks : ExceptT.AllOrNothing Failure.Refuses (fun _ after => after = svc) svc handler) :
    ExceptT.AllOrNothing (fun failure => failure.internal = true → svc.MayFail env call.request)
      (fun _ after => Accepted env svc call after) svc
      (handler >>= fun value => pure (wrap value)) :=
  (settles_of_looks asked looks).answered

/-- What refuses a request is no failure of the server. -/
theorem Failure.Refuses.not_internal {failure : Failure} {p : Prop} (refuses : failure.Refuses)
    (internal : failure.internal = true) : p := by
  rw [refuses] at internal
  cases internal

/-- The numbers of a query are not negative, and are those of an `int`. -/
theorem filter_admitted {query : ListTenantsQuery} {filter : TenantFilter}
    (made : query.filter = .ok filter) : Admitted filter.offset ∧ Admitted filter.limit := by
  have parsed : ∀ {raw name : String} {n : Int}, optionalInt raw name = .ok n → Admitted n := by
    intro raw name n made
    unfold optionalInt at made
    split at made
    · obtain rfl := Except.ok.inj made
      exact ⟨by omega, by omega⟩
    · exact parseNonNegativeInt_admitted made
  obtain ⟨limit, first, made⟩ := Except.of_bind_ok made
  obtain ⟨offset, second, made⟩ := Except.of_bind_ok made
  obtain rfl := Except.ok.inj made
  exact ⟨parsed second, parsed first⟩

/-- A query that is not a filter is refused. -/
theorem filter_refuses {query : ListTenantsQuery} {failure : Failure}
    (failed : query.filter = .error failure) : failure.Refuses := by
  have parsed : ∀ {raw name : String}, optionalInt raw name = .error failure → failure.Refuses := by
    intro raw name failed
    unfold optionalInt parseNonNegativeInt at failed
    split at failed
    · cases failed
    · split at failed
      · obtain rfl := Except.error.inj failed
        exact refuses_text (by decide)
      · split at failed
        · obtain rfl := Except.error.inj failed
          exact refuses_text (by decide)
        · cases failed
  rcases Except.of_bind_error failed with first | ⟨limit, -, failed⟩
  · exact parsed first
  · rcases Except.of_bind_error failed with second | ⟨offset, -, failed⟩
    · exact parsed second
    · cases failed

/-- A listing is refused, or its page ends beyond the last number. -/
theorem handleListTenants_fails {query : ListTenantsQuery} {failure : Failure}
    (failed : handleListTenants svc.store query = .error failure) :
    failure.Refuses ∨ svc.MayFail env (.listTenants query) := by
  rcases Except.of_bind_error failed with unfiltered | ⟨filter, made, failed⟩
  · exact .inl (filter_refuses unfiltered)
  · obtain ⟨offset, limit⟩ := filter_admitted made
    refine .inr ⟨filter, made, ?_⟩
    -- Anywhere else the page is the window it asks for.
    by_contra within
    have page : applyTenantFilter (svc.store.selectTenants (some filter)) (some filter) = .ok _ :=
      applyTenantFilter_window offset limit (by omega)
    rw [Store.listTenants, page] at failed
    cases failed

/-- A schema that is not there refuses the request. -/
theorem handleGetSchema_fails (sound : svc.Sound) {failure : Failure}
    (failed : handleGetSchema svc.server tenantID = .error failure) : failure.Refuses := by
  unfold handleGetSchema at failed
  split at failed
  · obtain rfl := Except.error.inj failed
    exact refuses_text (by decide)
  · -- A source is never registered alone.
    rename_i source missing
    have there := sound.compiled tenantID (by rw [source]; rfl)
    rw [missing] at there
    cases there
  · cases failed

/-- A client that goes on after a part that has only looked. -/
theorem client_goesOn {α β : Type} {first : ExceptT Failure (ClientM V) α}
    {next : α → ExceptT Failure (ClientM V) β} {found : α → Prop} {post : β → Service V P → Prop}
    (looked : ExceptT.AllOrNothing Failure.Refuses (fun value after => after = svc ∧ found value) svc
      (client clock first))
    (later : ∀ value, found value →
      ExceptT.AllOrNothing Failure.Refuses post svc (client clock (next value))) :
    ExceptT.AllOrNothing Failure.Refuses post svc (client clock (first >>= next)) := by
  rw [client_bind]
  exact .bind looked later

/-- A client that answers in another form does the same to the service. -/
theorem client_answers {α β : Type} {first : ExceptT Failure (ClientM V) α} {wrap : α → β}
    {post : Service V P → Prop}
    (done : ExceptT.AllOrNothing Failure.Refuses (fun _ after => post after) svc (client clock first)) :
    ExceptT.AllOrNothing Failure.Refuses (fun _ after => post after) svc
      (client clock (first >>= fun value => pure (wrap value))) := by
  rw [client_bind]
  exact done.bind_sure fun _ _ reached => .of_ok rfl reached

/-- A single tuple is written, or the request is refused. -/
theorem handleWriteTuple_settles {req : TupleRequest V}
    (asked : call.request = .writeTuple tenantID (.ok req)) :
    Settles env svc call (client call.clock (handleWriteTuple env.parseTime tenantID req call.now)) := by
  refine client_goesOn tenantCtxFromPath_looks fun ctx there => ?_
  refine client_goesOn (outcome_looks fun _ => refuses_text (by decide)) fun tuple made => ?_
  have writes : call.writes env = some (tenantID, [tuple]) := by
    simp [ApiCall.writes, asked, made, Except.toOption]
  -- A tuple on its own is a batch of one.
  have settles := writeTuples_settles writes there
  exact client_sendWrite (.writeTuple ctx tuple) ▸ settles

/-- A batch is written, or the request is refused. -/
theorem handleWriteTuples_settles {reqs : List (TupleRequest V)}
    (asked : call.request = .writeTuples tenantID (.ok reqs)) :
    Settles env svc call (client call.clock (handleWriteTuples env.parseTime tenantID reqs call.now)) := by
  refine client_goesOn tenantCtxFromPath_looks fun ctx there => ?_
  by_cases empty : reqs.isEmpty = true
  · -- An empty batch is refused before anything is sent.
    rw [if_pos empty]
    exact .of_error rfl (refuses_text (by decide))
  · rw [if_neg empty]
    refine client_goesOn (outcome_looks fun _ => refuses_text (by decide)) fun tuples made => ?_
    have writes : call.writes env = some (tenantID, tuples) := by
      simp [ApiCall.writes, asked, made, Except.toOption]
    have settles := writeTuples_settles writes there
    have sent : Settles env svc call (client call.clock (sendWrite (.writeTuples ctx tuples))) :=
      client_sendWrite (.writeTuples ctx tuples) ▸ settles
    exact client_answers sent

/-- A call that only looks at the store hands over its answer, error or not. -/
theorem client_send_looks {request : StoreCall V}
    (kept : (request.serve clock svc.store).2 = svc.store) :
    ExceptT.AllOrNothing Failure.Refuses
      (fun answer after => after = svc ∧ answer = (request.serve clock svc.store).1) svc
      (client clock (send request)) := by
  have run : (client clock (send request) : ServiceM V P (Except Err request.Answer)).run.run svc =
      (.ok (request.serve clock svc.store).1,
        { svc with store := (request.serve clock svc.store).2 }) := rfl
  rw [kept] at run
  exact .of_ok run ⟨rfl, rfl⟩

/-- A filter that cannot be read refuses the request. -/
theorem readTuplesFilter_refuses {query : ReadTuplesQuery} {failure : Failure}
    (failed : query.filter = .error failure) : failure.Refuses := by
  unfold ReadTuplesQuery.filter at failed
  dsimp only at failed
  split at failed
  · cases failed
  · split at failed
    · obtain rfl := Except.error.inj failed
      exact refuses_text (by decide)
    · cases failed

/-- The tuples of a tenant are listed, or the request is refused. -/
theorem handleReadTuples_looks {query : ReadTuplesQuery} :
    ExceptT.AllOrNothing Failure.Refuses (fun _ after => after = svc) svc
      (handleReadTuples clock tenantID query) := by
  refine .bind tenantCtxFromPath_looks ?_
  rintro ctx ⟨tenant, -, rfl⟩
  refine .bind (.outcome (fun _ => readTuplesFilter_refuses) fun _ _ => ⟨rfl, (trivial : True)⟩) fun _ _ => ?_
  exact readStore_looks fun e failed => reading_refuses failed fun _ impossible => by cases impossible

/-- The parameters of the changelog are refused that are no numbers. -/
theorem parseSinceSeq_refuses {raw : String} {failure : Failure}
    (failed : parseSinceSeq raw = .error failure) : failure.Refuses := by
  unfold parseSinceSeq at failed
  split at failed
  · cases failed
  · split at failed
    · obtain rfl := Except.error.inj failed
      exact refuses_text (by decide)
    · cases failed

theorem parseNonNegativeInt_refuses {raw name : String} {failure : Failure}
    (failed : parseNonNegativeInt raw name = .error failure) : failure.Refuses := by
  unfold parseNonNegativeInt at failed
  split at failed
  · obtain rfl := Except.error.inj failed
    exact refuses_text (by decide)
  · split at failed
    · obtain rfl := Except.error.inj failed
      exact refuses_text (by decide)
    · cases failed

theorem parseLimit_refuses {raw : String} {failure : Failure}
    (failed : parseLimit raw = .error failure) : failure.Refuses := by
  unfold parseLimit at failed
  split at failed
  · cases failed
  · rcases Except.of_bind_error failed with unparsed | ⟨n, -, done⟩
    · exact parseNonNegativeInt_refuses unparsed
    · cases done

/-- A page of the changelog is read, or the request is refused. -/
theorem handleReadChangelog_looks {sinceSeq limit : String} :
    ExceptT.AllOrNothing Failure.Refuses (fun _ after => after = svc) svc
      (client clock (handleReadChangelog tenantID sinceSeq limit)) := by
  refine client_goesOn tenantCtxFromPath_looks ?_
  rintro ctx ⟨tenant, -, rfl⟩
  refine client_goesOn (.outcome (fun _ => parseSinceSeq_refuses) fun _ _ => ⟨rfl, (trivial : True)⟩)
    fun since _ => ?_
  refine client_goesOn (.outcome (fun _ => parseLimit_refuses) fun _ _ => ⟨rfl, (trivial : True)⟩)
    fun limit _ => ?_
  refine client_goesOn (client_send_looks rfl) ?_
  rintro answer same
  cases answer with
  | error cause =>
    have failed : svc.store.readChangelog (some { tenantID, tenant }) since limit = .error cause := same.symm
    exact .of_error rfl (refuses_err (reading_refuses failed fun _ impossible => by cases impossible))
  | ok entries =>
    -- The last sequence number is read as well, and an error of it is no refusal.
    exact client_answers ((client_send_looks rfl).imp (fun _ soft => soft) fun _ _ looked => looked.1)

/-- The subjects of a relation are listed, or the request is refused. -/
theorem handleExpand_looks {body : Except String ExpandRequest} :
    ExceptT.AllOrNothing Failure.Refuses (fun _ after => after = svc) svc
      (handleExpand clock tenantID body) := by
  refine .bind tenantCtxFromPath_looks ?_
  rintro ctx ⟨tenant, -, rfl⟩
  refine .bind readJSON_looks fun req _ => ?_
  by_cases blank : [req.objectType, req.objectID, req.relation].any (trimSpace · = "") = true
  · rw [if_pos blank]
    exact .of_error rfl (refuses_text (by decide))
  · rw [if_neg blank]
    refine .bind (.of_ok rfl ⟨rfl, rfl⟩) ?_
    rintro _ rfl
    exact readStore_looks fun e failed => reading_refuses failed fun _ impossible => by cases impossible

/-- A decision is made on what was asked, or the request is refused. -/
theorem handleAuthZenEvaluation_looks {body : Except String (AuthZenEvaluationRequest V)} :
    ExceptT.AllOrNothing Failure.Refuses (fun _ after => after = svc) svc
      (handleAuthZenEvaluation env.lang clock tenantID body) := by
  refine .bind tenantCtxFromHeader_looks fun ctx _ => ?_
  refine .bind readJSON_looks fun req _ => ?_
  exact .of_ok rfl rfl

/-- So it is with a batch. -/
theorem handleAuthZenEvaluations_looks {clocks : Nat → Clock}
    {body : Except String (AuthZenBatchRequest V)} :
    ExceptT.AllOrNothing Failure.Refuses (fun _ after => after = svc) svc
      (handleAuthZenEvaluations env.lang clocks tenantID body) := by
  refine .bind tenantCtxFromHeader_looks fun ctx _ => ?_
  refine .bind readJSON_looks fun req _ => ?_
  exact .of_ok rfl rfl

/-- A tenant that was moved is read again, which changes nothing. -/
theorem moves_and_reads {move : ServiceM V P Unit} (moved : Settles env svc call move) :
    Settles env svc call (move >>= fun _ => readAgain tenantID) :=
  moved.bind_sure fun _ _ done => .of_ok rfl done

/-- The checks of the lifecycle calls refuse a request. -/
theorem deleted_refuses (current : TenantStatus) (e : Err)
    (failed : (if current = .deleted then .error .tenantDeleted else .ok () : Except Err Unit) = .error e) :
    errStatus e < 500 := by
  split at failed
  · obtain rfl := Except.error.inj failed
    decide
  · cases failed

theorem suspend_refuses (current : TenantStatus) (e : Err)
    (failed : (if current ≠ .active then .error (.invalidStateTransition current) else .ok () :
      Except Err Unit) = .error e) : errStatus e < 500 := by
  split at failed
  · obtain rfl := Except.error.inj failed
    simp [errStatus]
  · cases failed

/-- Every request makes the change it asks for, reads, is refused, or fails as it may. -/
theorem handle_settles (env : Environment V P) (call : ApiCall V) (sound : svc.Sound) :
    ExceptT.AllOrNothing (fun failure => failure.internal = true → svc.MayFail env call.request)
      (fun _ after => Accepted env svc call after) svc (env.handle call) := by
  obtain ⟨request, now, clock, checks⟩ := call
  cases request with
  | health => exact .pure (.read rfl)
  | createTenant body =>
    refine .bind (readJSON_looks.imp (fun _ soft => soft.not_internal) fun _ _ looked => looked)
      fun req decoded => ?_
    exact (handleCreateTenant_settles (by rw [decoded])).answered
  | listTenants query =>
    refine .bind (.of_ok rfl ⟨rfl, rfl⟩) ?_
    rintro _ rfl
    -- The page is cut from the tenants as they are.
    have looks : ExceptT.AllOrNothing (fun failure => failure.internal = true →
        svc.MayFail env (.listTenants query)) (fun _ after => after = svc) svc
        (outcome (handleListTenants svc.store query)) :=
      .outcome (fun _ failed internal =>
        (handleListTenants_fails failed).elim (fun soft => soft.not_internal internal) id) fun _ _ => rfl
    exact looks.answer fun _ _ looked => looked ▸ .read rfl
  | getTenant tenantID =>
    refine reads_answered rfl (readStore_looks fun e failed => ?_)
    unfold Store.getTenant at failed
    split at failed
    · obtain rfl := Except.error.inj failed
      decide
    · cases failed
  | deleteTenant tenantID =>
    exact (transition_settles sound rfl ⟨.tenantDeleted, rfl⟩ deleted_refuses).answered
  | activateTenant tenantID =>
    -- The tenant is read once more for the answer.
    exact (moves_and_reads (transition_settles sound rfl ⟨.tenantDeleted, rfl⟩ deleted_refuses)).answered
  | suspendTenant tenantID =>
    exact (moves_and_reads (transition_settles sound rfl ⟨.invalidStateTransition .deleted, rfl⟩
      suspend_refuses)).answered
  | loadSchema tenantID data => exact (handleLoadSchema_settles rfl).answer fun _ _ done => done
  | getSchema tenantID =>
    refine .bind (.of_ok rfl ⟨rfl, rfl⟩) ?_
    rintro _ rfl
    exact reads_answered rfl (.outcome (fun _ => handleGetSchema_fails sound) fun _ _ => rfl)
  | writeTuples tenantID body =>
    exact (withBody_settles fun reqs decoded => handleWriteTuples_settles (by rw [decoded])).answered
  | writeTuple tenantID body =>
    exact (withBody_settles fun req decoded => handleWriteTuple_settles (by rw [decoded])).answered
  | deleteTuple tenantID body => exact (handleDeleteTuple_settles rfl).answered
  | readTuples tenantID query => exact reads_answered rfl handleReadTuples_looks
  | listObjectAttributes tenantID type =>
    exact reads_answered rfl (readScoped_looks fun tc e failed =>
      reading_refuses failed fun _ impossible => by cases impossible)
  | getObjectAttributes tenantID type id =>
    exact reads_answered rfl (readScoped_looks fun tc e failed =>
      reading_refuses failed fun _ missing => bucketGet_refuses missing)
  | setObjectAttributes tenantID type id body =>
    exact (setAttributes_settles sound (fun _ _ _ => rfl) fun attrs decoded => by
      rw [decoded]; rfl).answered
  | listSubjectAttributes tenantID type =>
    exact reads_answered rfl (readScoped_looks fun tc e failed =>
      reading_refuses failed fun _ impossible => by cases impossible)
  | getSubjectAttributes tenantID type id =>
    exact reads_answered rfl (readScoped_looks fun tc e failed =>
      reading_refuses failed fun _ missing => bucketGet_refuses missing)
  | setSubjectAttributes tenantID type id body =>
    exact (setAttributes_settles sound (fun _ _ _ => rfl) fun attrs decoded => by
      rw [decoded]; rfl).answered
  | readChangelog tenantID sinceSeq limit => exact reads_answered rfl handleReadChangelog_looks
  | expand tenantID body => exact reads_answered rfl handleExpand_looks
  | evaluation tenantID body => exact reads_answered rfl handleAuthZenEvaluation_looks
  | evaluations tenantID body => exact reads_answered rfl handleAuthZenEvaluations_looks

end Handlers

end ZanGuard.Api
