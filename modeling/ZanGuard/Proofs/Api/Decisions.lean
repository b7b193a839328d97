import ZanGuard.Proofs.Api.Service

/-! Decisions of a run: the schema that decides is the one that was last accepted for the tenant. -/

namespace ZanGuard.Api

open Memory

variable {V P : Type} {env : Environment V P}

/-- The source of each tenant that was last accepted, and the instant it was compiled at. -/
abbrev LastUploads := String → Option (List UInt8 × Time)

/-- The uploads after one more request was answered. -/
def LastUploads.record (uploads : LastUploads) (answered : ApiCall V × Response V) : LastUploads :=
  match answered.1.request, answered.2 with
  | .loadSchema tenantID data, .ok _ =>
    Function.update uploads tenantID (some (data, answered.1.now))
  | _, _ => uploads

/-- The schema that was last accepted for a tenant. -/
def LastUploads.schema (env : Environment V P) (uploads : LastUploads) (tenantID : String) :
    Option (CompiledSchema P) :=
  (uploads tenantID).bind fun upload =>
    (compileUpload env.yaml env.lang upload.1 upload.2).toOption

/--
What is decided on an evaluation by the schema that was last accepted for the tenant.

The tenant must be stored and readable, and have a schema of its own.
-/
def LastUploads.decide (env : Environment V P) (cfg : Config) (uploads : LastUploads) (store : Store V)
    (tenantID : String) (clock : Clock) (req : AuthZenEvaluationRequest V) : Bool :=
  match store.tenants.lookup tenantID with
  | none => false
  | some tenant =>
    tenant.isReadable && (tenant.schemaMode == .own || tenant.schemaMode == .inherited) &&
      match uploads.schema env tenantID with
      | none => false
      | some schema =>
        let walker : Walker V P :=
          { cfg, store := store.lookups (some { tenantID, tenant }) clock, schema, lang := env.lang }
        granted ((walker.check req.check).from .start).1

/-- The registries of a service hold the schemas that were last accepted. -/
structure Loaded (env : Environment V P) (cfg : Config) (server : Server P) (uploads : LastUploads) :
    Prop where
  config : server.eng.cfg = cfg
  /-- The server loads no shared schema. -/
  unshared : server.eng.sharedSchemas = ∅
  engine : ∀ tenantID, server.eng.schemas.lookup tenantID = uploads.schema env tenantID
  sources : ∀ tenantID, server.schemas.lookup tenantID = (uploads tenantID).map (·.1)
  compiled : ∀ tenantID, server.compiled.lookup tenantID = uploads.schema env tenantID

/-- The decision of a service whose registries hold the uploads. -/
theorem Loaded.decide {cfg : Config} {svc : Service V P} {uploads : LastUploads}
    (loaded : Loaded env cfg svc.server uploads) {tenantID : String} {tenant : Tenant V}
    (stored : svc.store.tenants.lookup tenantID = some tenant) (clock : Clock)
    (req : AuthZenEvaluationRequest V) :
    svc.decide env.lang (some { tenantID, tenant }) clock req =
      uploads.decide env cfg svc.store tenantID clock req := by
  have decision : svc.decide env.lang (some { tenantID, tenant }) clock req =
      granted (svc.server.eng.check env.lang (svc.store.lookups (some { tenantID, tenant }) clock)
        (some { tenantID, tenant }) req.check) := by
    unfold Service.decide granted
    cases svc.server.eng.check env.lang (svc.store.lookups (some { tenantID, tenant }) clock)
      (some { tenantID, tenant }) req.check <;> rfl
  rw [decision]
  simp only [LastUploads.decide, stored]
  by_cases readable : tenant.isReadable = true
  · -- A readable tenant passes the status test, and its mode selects the schema.
    have kept : tenant.status ≠ .deleted := by
      intro deleted
      simp [Tenant.isReadable, deleted] at readable
    have passed : checkTenant (some { tenantID, tenant }) = .ok { tenantID, tenant } := by
      simp [checkTenant, kept, readable]
    have registered := loaded.engine tenantID
    simp only [Engine.check, passed, readable, Bool.true_and, Engine.schemaForTenant, registered,
      loaded.unshared, loaded.config, bind, Except.bind]
    cases tenant.schemaMode with
    | own => cases uploads.schema env tenantID <;> rfl
    | inherited => cases uploads.schema env tenantID <;> rfl
    | shared => rfl
    | other text => rfl
  · -- The status test refuses the tenant, and with it the request.
    simp only [Bool.not_eq_true] at readable
    have refused : ∃ e, checkTenant (some { tenantID, tenant }) = .error e := by
      simp only [checkTenant, readable, Bool.not_false, if_true]
      split
      · exact ⟨_, rfl⟩
      · exact ⟨_, rfl⟩
    obtain ⟨e, refused⟩ := refused
    simp only [Engine.check, refused, readable, Bool.false_and]
    rfl

/-- The decisions on a batch are those on its items, each for itself. -/
theorem Loaded.decideAll {cfg : Config} {svc : Service V P} {uploads : LastUploads}
    (loaded : Loaded env cfg svc.server uploads) {tenantID : String} {tenant : Tenant V}
    (stored : svc.store.tenants.lookup tenantID = some tenant) (clocks : Nat → Clock)
    (subject : AuthZenEntity) (i : Nat) (items : List (AuthZenBatchItem V)) :
    svc.decideAll env.lang (some { tenantID, tenant }) clocks subject i items =
      items.mapIdx fun j item =>
        uploads.decide env cfg svc.store tenantID (clocks (i + j)) (item.evaluation subject) := by
  -- The induction is on the items that are left.
  induction items generalizing i with
  | nil => rfl
  | cons item rest ih =>
    rw [Service.decideAll, loaded.decide stored, ih, List.mapIdx_cons]
    simp only [Nat.add_zero, Nat.add_assoc, Nat.add_comm 1]

/-! ### Runs -/

/-- A service that was just started has loaded nothing. -/
theorem Loaded.new (env : Environment V P) (cfg : Config) :
    Loaded env cfg (Service.new cfg : Service V P).server fun _ => none :=
  ⟨rfl, rfl, fun _ => rfl, fun _ => rfl, fun _ => rfl⟩

/-- Every request keeps the registries what was last accepted. -/
theorem serve_loaded (env : Environment V P) {cfg : Config} {svc : Service V P} (call : ApiCall V)
    (sound : svc.Sound) {uploads : LastUploads} (loaded : Loaded env cfg svc.server uploads) :
    Loaded env cfg (env.serve svc call).2.server (uploads.record (call, (env.serve svc call).1)) := by
  obtain ⟨failure, ran, -⟩ | ⟨answer, after, ran, accepted⟩ := serve_cases env call sound
  · have same : uploads.record (call, (.error failure : Response V)) = uploads := by
      unfold LastUploads.record
      split
      · rename_i impossible
        cases impossible
      · rfl
    rw [ran, same]
    exact loaded
  · rw [ran]
    have other : (∀ tenantID data, call.request ≠ .loadSchema tenantID data) →
        uploads.record (call, .ok answer) = uploads := by
      intro apart
      unfold LastUploads.record
      split
      · rename_i tenantID data _ asked _
        exact absurd asked (apart tenantID data)
      · rfl
    cases accepted with
    | read asked =>
      rw [other fun tenantID data same => by rw [same] at asked; cases asked]
      exact loaded
    | created asked =>
      rw [other fun tenantID data same => by cases asked.symm.trans same]
      exact loaded
    | moved asked | deleted asked | set asked =>
      rw [other fun tenantID data same => by rw [same] at asked; cases asked]
      exact loaded
    | wrote asked =>
      rw [other fun tenantID data same => by simp [ApiCall.writes, same] at asked]
      exact loaded
    | @loaded tenantID data cs t asked stored accepted =>
      have recorded : uploads.record (call, .ok answer) =
          Function.update uploads tenantID (some (data, call.now)) := by
        simp only [LastUploads.record, asked]
      -- The tenant's schema is the one just compiled, and all others are as before.
      have schemas : ∀ other, LastUploads.schema env (uploads.record (call, .ok answer)) other =
          if other = tenantID then some cs else uploads.schema env other := by
        intro other
        rw [recorded]
        split
        · rename_i same
          subst same
          simp [LastUploads.schema, accepted, Except.toOption]
        · rename_i apart
          simp [LastUploads.schema, Function.update_of_ne apart]
      have kept : ∀ {α : Type} (map : StringMap α) (value : α) (other : String),
          (map.insert tenantID value).lookup other =
            if other = tenantID then some value else map.lookup other := by
        intro α map value other
        split
        · rename_i same
          rw [same, AList.lookup_insert]
        · rename_i apart
          exact AList.lookup_insert_ne apart
      refine ⟨loaded.config, loaded.unshared, fun other => ?_, fun other => ?_, fun other => ?_⟩
      · rw [schemas]
        exact (kept _ _ _).trans (by rw [loaded.engine])
      · rw [recorded]
        refine (kept _ _ _).trans ?_
        by_cases same : other = tenantID
        · subst same
          simp
        · rw [if_neg same, Function.update_of_ne same, loaded.sources]
      · rw [schemas]
        exact (kept _ _ _).trans (by rw [loaded.compiled])

/-- What an endpoint that names the tenant in a header answers with. -/
def answerFor (store : Store V) (tenantID : String) (body : Body V) : Response V :=
  if tenantID = "" then .error (.text 400 "missing X-Tenant-ID header")
  else
    match store.tenants.lookup tenantID with
    | none => .error (.err 400 (.buildTenantContext tenantID .tenantNotFound))
    | some _ => .ok (200, body)

/-- A handler that begins with the tenant of the header goes on with the tenant that is stored. -/
theorem header_run {α : Type} (clock : Clock) (tenantID : String) (svc : Service V P)
    (next : Context V → ServiceM V P α) :
    (client clock (tenantCtxFromHeader tenantID) >>= next).run.run svc =
      if tenantID = "" then (.error (.text 400 "missing X-Tenant-ID header"), svc)
      else
        match svc.store.tenants.lookup tenantID with
        | none => (.error (.err 400 (.buildTenantContext tenantID .tenantNotFound)), svc)
        | some tenant => (next (some { tenantID, tenant })).run.run svc := by
  rw [ExceptT.run_state_bind, client_run, tenantCtxFromHeader_alone]
  by_cases blank : tenantID = ""
  · rw [if_pos blank, if_pos blank]
  · rw [if_neg blank, if_neg blank]
    cases svc.store.tenants.lookup tenantID <;> rfl

/-- Such an endpoint answers with what its handler makes of a stored tenant. -/
theorem header_answer {α : Type} (clock : Clock) (tenantID : String) (svc : Service V P)
    {next : Context V → ServiceM V P α} {wrap : α → Body V} {body : Body V}
    (makes : ∀ tenant, svc.store.tenants.lookup tenantID = some tenant →
      ∃ value, (next (some { tenantID, tenant })).run.run svc = (.ok value, svc) ∧ wrap value = body) :
    (((client clock (tenantCtxFromHeader tenantID) >>= next) >>= fun value =>
      pure (200, wrap value)).run.run svc).1 = answerFor svc.store tenantID body := by
  rw [ExceptT.run_state_bind, header_run]
  unfold answerFor
  by_cases blank : tenantID = ""
  · rw [if_pos blank, if_pos blank]
  · rw [if_neg blank, if_neg blank]
    cases stored : svc.store.tenants.lookup tenantID with
    | none => rfl
    | some tenant =>
      obtain ⟨value, ran, rfl⟩ := makes tenant stored
      simp only [ran]
      rfl

/--
Every decision is made by the schema that was last accepted for the tenant.

So are the decisions of a batch, each as if it had been asked for alone, and it is that schema and
its source that are published.
-/
theorem last_upload_decides (env : Environment V P) (cfg : Config) (calls : List (ApiCall V))
    (tenantID : String) (now : Time) (clock : Clock) (checks : Nat → Clock) :
    let svc := env.machine.final (Service.new cfg) calls
    let uploads := (env.machine.trace (Service.new cfg) calls).foldl LastUploads.record fun _ => none
    (∀ req, (env.serve svc { request := .evaluation tenantID (.ok req), now, clock, checks }).1 =
      answerFor svc.store tenantID
        (.decision (uploads.decide env cfg svc.store tenantID (checks 0) req))) ∧
    (∀ req, (env.serve svc { request := .evaluations tenantID (.ok req), now, clock, checks }).1 =
      answerFor svc.store tenantID (.decisions (req.evaluations.mapIdx fun i item =>
        uploads.decide env cfg svc.store tenantID (checks i) (item.evaluation req.subject)))) ∧
    (env.serve svc { request := .getSchema tenantID, now, clock, checks }).1 =
      match uploads tenantID, uploads.schema env tenantID with
      | some (data, _), some cs => .ok (200, .schema (schemaResponse tenantID data cs))
      | _, _ => .error (.text 404 ("no schema loaded for tenant " ++ tenantID)) := by
  have both := @Machine.history_invariant _ _ _ env.machine _
    (fun svc uploads => svc.Sound ∧ Loaded env cfg svc.server uploads) LastUploads.record
    (fun svc uploads call held => ⟨serve_sound env svc call held.1, serve_loaded env call held.1 held.2⟩)
    _ _ ⟨.new cfg, .new env cfg⟩ calls
  intro svc uploads
  have loaded : Loaded env cfg svc.server uploads := both.2
  refine ⟨fun req => ?_, fun req => ?_, ?_⟩
  · exact header_answer (checks 0) tenantID svc fun tenant stored =>
      ⟨_, rfl, congrArg Body.decision (loaded.decide stored (checks 0) req)⟩
  · refine header_answer (checks 0) tenantID svc fun tenant stored => ⟨_, rfl, ?_⟩
    refine congrArg Body.decisions ((loaded.decideAll stored checks req.subject 0 _).trans ?_)
    simp only [Nat.zero_add]
  · have published : handleGetSchema svc.server tenantID =
        match uploads tenantID, uploads.schema env tenantID with
        | some (data, _), some cs => .ok (schemaResponse tenantID data cs)
        | _, _ => .error (.text 404 ("no schema loaded for tenant " ++ tenantID)) := by
      have source := loaded.sources tenantID
      have compiled := loaded.compiled tenantID
      have together := both.1.compiled tenantID
      unfold handleGetSchema
      rw [source, compiled] at together ⊢
      cases entry : uploads tenantID with
      | none => rfl
      | some upload =>
        cases schema : uploads.schema env tenantID with
        | none =>
          -- A source is registered together with its schema.
          rw [entry, schema] at together
          cases together rfl
        | some cs => rfl
    have run : (env.serve svc { request := .getSchema tenantID, now, clock, checks }).1 =
        (handleGetSchema svc.server tenantID).map fun response => (200, .schema response) := by
      show ((outcome (handleGetSchema svc.server tenantID) >>= fun response =>
        pure (200, Body.schema response) : ServiceM V P (Nat × Body V)).run.run svc).1 = _
      rw [ExceptT.run_state_bind]
      cases handleGetSchema svc.server tenantID <;> rfl
    rw [run, published]
    split <;> rfl

end ZanGuard.Api
