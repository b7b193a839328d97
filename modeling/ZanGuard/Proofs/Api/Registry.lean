import ZanGuard.Api.Server
import ZanGuard.Proofs.Engine.Sound

/-! Uploads that overlap: when the engine and the registry agree after all of them. -/

namespace ZanGuard.Api

open Transaction

variable {V P : Type} (yaml : YamlDecoder) (lang : ExprLang V P)

/-- An upload compiles a source as every other part of the program does. -/
theorem compileUpload_accepts {data : List UInt8} {now : Time} {cs : CompiledSchema P}
    (ran : compileUpload yaml lang data now = .ok cs) : acceptSchema yaml lang data now = .ok cs := by
  obtain ⟨raw, parsed, ran⟩ := Except.of_bind_ok ran
  obtain ⟨made, compiled, ran⟩ := Except.of_bind_ok ran
  unfold acceptSchema
  rw [Except.of_mapError_ok parsed]
  show (compile lang raw data now >>= _) = _
  rw [Except.of_mapError_ok compiled]
  -- The two differ in what they report of a schema that is not valid.
  cases details : validate made with
  | nil =>
    rw [details] at ran
    simp only [bind, Except.bind, details]
    exact congrArg Except.ok (Except.ok.inj ran)
  | cons first rest =>
    rw [details] at ran
    cases ran

/-- The schema the engine has for a tenant is the one in the registry, compiled from its source. -/
def Server.InStep (server : Server P) (tenantID : String) : Prop :=
  match server.eng.schemas.lookup tenantID, server.schemas.lookup tenantID,
    server.compiled.lookup tenantID with
  | none, none, none => True
  | some used, some data, some cs => cs = used ∧ ∃ now, acceptSchema yaml lang data now = .ok used
  | _, _, _ => False

/--
The schema that a check of a tenant uses is the one whose source and hash the server publishes.

Without a schema, neither has one.
-/
def Server.Publishes (server : Server P) (tc : TenantContext V) : Prop :=
  match handleGetSchema server tc.tenantID, server.eng.schemaForTenant tc with
  | .ok response, .ok cs =>
    response.hash = cs.hash ∧ ∃ now, acceptSchema yaml lang response.source now = .ok cs
  | .error _, .error _ => True
  | _, _ => False

variable {yaml lang}

/-- Registries in step publish what is used. -/
theorem Server.InStep.publishes {server : Server P} {tc : TenantContext V}
    (agree : server.InStep yaml lang tc.tenantID) (own : tc.tenant.schemaMode = .own) :
    server.Publishes yaml lang tc := by
  -- Of the eight cases of the three registries, two are in step.
  unfold Server.InStep at agree
  unfold Server.Publishes handleGetSchema Engine.schemaForTenant
  simp only [own]
  cases used : server.eng.schemas.lookup tc.tenantID with
  | none =>
    cases source : server.schemas.lookup tc.tenantID with
    | none => simp
    | some data => simp [used, source] at agree
  | some cs =>
    cases source : server.schemas.lookup tc.tenantID with
    | none => simp [used, source] at agree
    | some data =>
      cases stored : server.compiled.lookup tc.tenantID with
      | none => simp [used, source, stored] at agree
      | some other =>
        simp only [used, source, stored] at agree
        obtain ⟨rfl, accepted⟩ := agree
        exact ⟨rfl, accepted⟩

/-! ### What an upload is waiting for -/

/-- What a request tells the registry: a tenant, a source and a schema. -/
def registration : Request (ServerCall P) → Option (String × List UInt8 × CompiledSchema P)
  | .auto (.register tenantID data cs) => some (tenantID, data, cs)
  | _ => none

/-- What a client that sends it next is about to tell the registry. -/
def registrationOf {α : Type} :
    Script (ServerCall P) (ServerCall.Answer V) Err α → Option (String × List UInt8 × CompiledSchema P)
  | .done _ => none
  | .ask request _ => registration request

/-- An upload that has told the engine and not yet the registry. -/
def Upload.registering (upload : Upload) (cs : CompiledSchema P) :
    Script (ServerCall P) (ServerCall.Answer V) Err (Except Failure SchemaResponse) :=
  (do
    let _ ← ask (.register upload.tenantID upload.data cs)
    return schemaResponse upload.tenantID upload.data cs : HandlerM V P SchemaResponse).run

/-- An upload that has a compiled schema and has told nobody. -/
def Upload.loading (upload : Upload) (cs : CompiledSchema P) :
    Script (ServerCall P) (ServerCall.Answer V) Err (Except Failure SchemaResponse) :=
  .ask (.auto (.loadSchema upload.tenantID cs)) fun
    | .ok _ => upload.registering cs
    | .error cause => .done (.error (.err (errStatus cause) cause))

/-- An upload asks for the tenant first, and goes on with the schema it compiles. -/
theorem handleLoadSchema_run (upload : Upload) :
    (handleLoadSchema yaml lang upload).run =
      .ask (.auto (.getTenant upload.tenantID)) fun
        | .error cause => .done (.error (.err (errStatus cause) cause))
        | .ok _ =>
          match compileUpload yaml lang upload.data upload.now with
          | .error failure => .done (.error failure)
          | .ok cs => upload.loading cs := by
  -- Each answer is looked at when it has come, and the schema is compiled in between.
  refine congrArg (Script.ask _) (funext fun found => ?_)
  cases found with
  | error cause => rfl
  | ok t =>
    show (ExceptT.mk (pure (compileUpload yaml lang upload.data upload.now)) >>= _ :
      HandlerM V P SchemaResponse).run = _
    cases compileUpload yaml lang upload.data upload.now with
    | error failure => rfl
    | ok cs =>
      refine congrArg (Script.ask _) (funext fun told => ?_)
      cases told <;> rfl

/-- What an upload sends first tells the registry nothing. -/
theorem handleLoadSchema_start (upload : Upload) :
    registrationOf (handleLoadSchema yaml lang upload).run = none := by
  rw [handleLoadSchema_run]
  rfl

/-- An upload waits for the tenant, for the engine, or for the registry. -/
theorem upload_cases {upload : Upload} {seen : List (Exchange (ServerCall P) (ServerCall.Answer V) Err)}
    {request : Request (ServerCall P)}
    {next : request.Reply (ServerCall.Answer V) Err →
      Script (ServerCall P) (ServerCall.Answer V) Err (Except Failure SchemaResponse)}
    (reached : (handleLoadSchema yaml lang upload).run.Reaches seen (.ask request next)) :
    Script.ask request next = (handleLoadSchema yaml lang upload).run ∨
      ∃ cs, compileUpload yaml lang upload.data upload.now = .ok cs ∧
        (Script.ask request next = upload.loading cs ∨
          Script.ask request next = upload.registering cs) := by
  -- One exchange after the other, and each leaves one thing to wait for.
  rw [handleLoadSchema_run] at reached ⊢
  cases reached with
  | here => exact .inl rfl
  | @ask _ _ found _ _ later =>
    cases found with
    | error cause => cases later
    | ok t =>
      cases accepted : compileUpload yaml lang upload.data upload.now with
      | error failure =>
        simp only [accepted] at later
        cases later
      | ok cs =>
        simp only [accepted] at later
        refine .inr ⟨cs, rfl, ?_⟩
        cases later with
        | here => exact .inl rfl
        | @ask _ _ told _ _ later =>
          cases told with
          | error cause => cases later
          | ok _ =>
            cases later with
            | here => exact .inr rfl
            | @ask _ _ done _ _ later => cases done <;> cases later

variable {ι : Type}

/-- What a party is about to tell the registry. -/
def pending (party : Party (uploads yaml lang ι)) :
    Option (String × List UInt8 × CompiledSchema P) :=
  party.running.bind fun r => registration r.request

/-- A party that goes on is about to send what is left of its upload. -/
theorem pending_resume {upload : Upload}
    {seen : List (Exchange (ServerCall P) (ServerCall.Answer V) Err)}
    {rest : Script (ServerCall P) (ServerCall.Answer V) Err (Except Failure SchemaResponse)}
    (reached : ((uploads yaml lang ι).script () upload).Reaches seen rest) :
    pending (Party.resume rest reached) = registrationOf rest := by
  cases rest <;> rfl

variable [DecidableEq ι]

/--
What an event can do to the registries and to what the parties are about to tell them.

Either neither changes, or the engine is told and the registry is to follow, or it has followed.
-/
inductive Uploads (net after : Net (uploads yaml lang ι)) : Event ι (Except Err (Tenant V)) Upload → Prop
  | other {event : Event ι (Except Err (Tenant V)) Upload} (shared : after.shared = net.shared)
      (waiting : ∀ j, pending (after.parties j) = pending (net.parties j)) :
      Uploads net after event
  | load {i : ι} {found : Except Err (Tenant V)} {upload : Upload} {cs : CompiledSchema P}
      (before : pending (net.parties i) = none)
      (accepted : compileUpload yaml lang upload.data upload.now = .ok cs)
      (shared : after.shared =
        { net.shared with eng := net.shared.eng.loadSchema upload.tenantID cs })
      (self : pending (after.parties i) = some (upload.tenantID, upload.data, cs))
      (others : ∀ j, j ≠ i → pending (after.parties j) = pending (net.parties j)) :
      Uploads net after (.step i found)
  | register {i : ι} {found : Except Err (Tenant V)} {tenantID : String} {data : List UInt8}
      {cs : CompiledSchema P} (waits : pending (net.parties i) = some (tenantID, data, cs))
      (shared : after.shared = { net.shared with
        schemas := net.shared.schemas.insert tenantID data
        compiled := net.shared.compiled.insert tenantID cs })
      (self : pending (after.parties i) = none)
      (others : ∀ j, j ≠ i → pending (after.parties j) = pending (net.parties j)) :
      Uploads net after (.step i found)

/-- Nothing changes in what anybody is about to tell when one party goes on to tell the same. -/
theorem pending_same {parties : ι → Party (uploads yaml lang ι)} {i : ι}
    {party : Party (uploads yaml lang ι)} (same : pending party = pending (parties i)) (j : ι) :
    pending (Function.update parties i party j) = pending (parties j) := by
  -- Only one party has moved, and it is about to tell the same.
  by_cases self : j = i
  · subst self
    rw [Function.update_self, same]
  · rw [Function.update_of_ne self]

/-- Every event does one of the three. -/
theorem step_uploads (net : Net (uploads yaml lang ι)) (event : Event ι (Except Err (Tenant V)) Upload) :
    Uploads net (net.step event) event := by
  have moved := net.step_moves event
  generalize net.step event = after at moved ⊢
  cases moved with
  | idle => exact .other rfl fun _ => rfl
  | @start i upload free =>
    refine .other rfl (pending_same ?_)
    rw [pending_resume, show pending (net.parties i) = none by simp [pending, free]]
    exact handleLoadSchema_start upload
  | @step i found r waits reply shared served =>
    obtain ⟨upload, seen, request, next, reached⟩ := r
    have own : pending (net.parties i) = registration request := by simp [pending, waits]
    have others : ∀ party j, j ≠ i →
        pending (Function.update net.parties i party j) = pending (net.parties j) :=
      fun party j apart => by rw [Function.update_of_ne apart]
    obtain start | ⟨cs, accepted, loading | registering⟩ := upload_cases reached
    · -- The store has answered, and the registry is not up yet.
      rw [handleLoadSchema_run] at start
      cases start
      obtain ⟨rfl, rfl⟩ := Prod.mk.inj (Option.some.inj served)
      refine .other rfl (pending_same ?_)
      rw [pending_resume, own]
      cases found with
      | error cause => rfl
      | ok t =>
        show registrationOf (match compileUpload yaml lang upload.data upload.now with
          | .error failure => .done (.error failure)
          | .ok cs => upload.loading cs) = none
        split <;> rfl
    · cases loading
      obtain ⟨rfl, rfl⟩ := Prod.mk.inj (Option.some.inj served)
      refine .load own accepted rfl ?_ (others _)
      simp only [Function.update_self, pending_resume]
      rfl
    · cases registering
      obtain ⟨rfl, rfl⟩ := Prod.mk.inj (Option.some.inj served)
      refine .register own rfl ?_ (others _)
      simp only [Function.update_self, pending_resume]
      rfl

/-! ### Uploads that end in order -/

/--
An upload that tells the registry about a tenant told the engine last, or is not the last to tell.
-/
def InOrder (tenantID : String) (net : Net (uploads yaml lang ι)) :
    Event ι (Except Err (Tenant V)) Upload → Prop
  | .start _ _ => True
  | .step i _ => ∀ data cs, pending (net.parties i) = some (tenantID, data, cs) →
      net.shared.eng.schemas.lookup tenantID = some cs ∨
        ∃ j, j ≠ i ∧ (pending (net.parties j)).map (·.1) = some tenantID

omit [DecidableEq ι] in
/-- A party that tells the registry nothing is in order. -/
theorem InOrder.of_silent {tenantID : String} {net : Net (uploads yaml lang ι)} {i : ι}
    {found : Except Err (Tenant V)} (silent : pending (net.parties i) = none) :
    InOrder tenantID net (.step i found) := by
  intro data cs waits
  rw [silent] at waits
  cases waits

/-- What is known of a tenant's schema while uploads are under way. -/
structure Settling (tenantID : String) (net : Net (uploads yaml lang ι)) : Prop where
  /-- What is still to be told to the registry was compiled from its source. -/
  told : ∀ i data cs, pending (net.parties i) = some (tenantID, data, cs) →
    ∃ now, acceptSchema yaml lang data now = .ok cs
  /-- When nothing is still to be told, the registries are in step. -/
  settled : (∀ i, (pending (net.parties i)).map (·.1) ≠ some tenantID) →
    net.shared.InStep yaml lang tenantID

/-- Registries of which nothing about a tenant changes stay in step for it. -/
theorem Server.InStep.of_lookups {server after : Server P} {tenantID : String}
    (agree : server.InStep yaml lang tenantID)
    (eng : after.eng.schemas.lookup tenantID = server.eng.schemas.lookup tenantID)
    (schemas : after.schemas.lookup tenantID = server.schemas.lookup tenantID)
    (compiled : after.compiled.lookup tenantID = server.compiled.lookup tenantID) :
    after.InStep yaml lang tenantID := by
  unfold Server.InStep at agree ⊢
  rwa [eng, schemas, compiled]

/-- One event that is in order keeps that. -/
theorem Settling.step {tenantID : String} {net : Net (uploads yaml lang ι)}
    (settling : Settling tenantID net) {event : Event ι (Except Err (Tenant V)) Upload}
    (ordered : InOrder tenantID net event) : Settling tenantID (net.step event) := by
  have moved := step_uploads net event
  generalize net.step event = after at moved ⊢
  cases moved with
  | other shared waiting =>
    constructor
    · intro i data cs waits
      rw [waiting i] at waits
      exact settling.told i data cs waits
    · intro none
      rw [shared]
      exact settling.settled fun i => by rw [← waiting i]; exact none i
  | @load i found upload cs before accepted shared self others =>
    constructor
    · intro j data other held
      by_cases same : j = i
      · subst same
        rw [self] at held
        obtain ⟨-, rfl, rfl⟩ : upload.tenantID = tenantID ∧ upload.data = data ∧ cs = other := by
          simpa using held
        exact ⟨upload.now, compileUpload_accepts yaml lang accepted⟩
      · rw [others j same] at held
        exact settling.told j data other held
    · intro none
      -- The upload is for another tenant, since this one has nothing still to be told.
      have apart : tenantID ≠ upload.tenantID := by
        rintro rfl
        exact none i (by rw [self]; rfl)
      refine (settling.settled fun j => ?_).of_lookups ?_ (by rw [shared]) (by rw [shared])
      · by_cases same : j = i
        · subst same
          simp [before]
        · rw [← others j same]
          exact none j
      · simp [shared, Engine.loadSchema, AList.lookup_insert_ne apart]
  | @register i found registered data cs waits shared self others =>
    constructor
    · intro j other used held
      by_cases same : j = i
      · subst same
        rw [self] at held
        cases held
      · rw [others j same] at held
        exact settling.told j other used held
    · intro none
      have still : ∀ j, j ≠ i → (pending (net.parties j)).map (·.1) ≠ some tenantID := by
        intro j same
        rw [← others j same]
        exact none j
      by_cases mine : registered = tenantID
      · subst mine
        -- This was the last one to tell the registry, so it was the last one to tell the engine.
        obtain used | ⟨j, same, held⟩ := ordered data cs waits
        · simp only [Server.InStep, shared, used, AList.lookup_insert]
          exact ⟨trivial, settling.told i data cs waits⟩
        · exact absurd held (still j same)
      · refine (settling.settled fun j => ?_).of_lookups (by rw [shared]) ?_ ?_
        · by_cases same : j = i
          · subst same
            simp [waits, mine]
          · exact still j same
        · simp [shared, AList.lookup_insert_ne (Ne.symm mine)]
        · simp [shared, AList.lookup_insert_ne (Ne.symm mine)]

/--
The schema a check of a tenant uses is the one that is published, after uploads in order.

In order means that the last upload to tell the registry is the last one that told the engine.
-/
theorem published_schema_is_enforced {net : Net (uploads yaml lang ι)} {tc : TenantContext V}
    (own : tc.tenant.schemaMode = .own) (quiet : ∀ i, (net.parties i).running = none)
    (agree : net.shared.InStep yaml lang tc.tenantID)
    {events : List (Event ι (Except Err (Tenant V)) Upload)}
    (along : (uploads yaml lang ι).machine.Along (InOrder tc.tenantID) net events)
    (finished : ∀ i, (((uploads yaml lang ι).machine.final net events).parties i).running = none) :
    ((uploads yaml lang ι).machine.final net events).shared.Publishes yaml lang tc := by
  have nothing : ∀ {party : Party (uploads yaml lang ι)}, party.running = none →
      pending party = none := fun done => by simp [pending, done]
  have start : Settling tc.tenantID net :=
    ⟨fun i _ _ waits => by simp [nothing (quiet i)] at waits, fun _ => agree⟩
  have reached := along.final_invariant (Settling tc.tenantID)
    (fun _ _ ordered settling => settling.step ordered) start
  -- Nobody is in an upload any more, so nothing is still to be told.
  refine (reached.settled fun i => ?_).publishes own
  simp [nothing (finished i)]

/-- The source `version: "1"`, or the same with another digit. -/
def versionSource (digit : UInt8) : List UInt8 :=
  [0x76, 0x65, 0x72, 0x73, 0x69, 0x6f, 0x6e, 0x3a, 0x20, 0x22, digit, 0x22]

/-- What the decoder makes of two such sources. -/
def versionDecoder : YamlDecoder where
  decode data :=
    if data = versionSource 0x31 then .ok { version := "1" }
    else if data = versionSource 0x32 then .ok { version := "2" }
    else .error "did not find expected node content"

/-- Two parties, none of whom is in an upload, on a server that was just started. -/
def freshServer : Net (uploads versionDecoder literalLang Bool) where
  shared := .new defaultConfig
  parties _ := { memory := (), running := none }

/-- The upload of a version for the tenant. -/
def uploadOf (digit : UInt8) : Upload :=
  { tenantID := "acme", data := versionSource digit, now := 0 }

/-- Two uploads tell the engine one after the other, and then the registry in the same order. -/
def overlapping : List (Event Bool (Except Err (Tenant Bool)) Upload) :=
  [.start false (uploadOf 0x31), .start true (uploadOf 0x32),
   .step false (.ok acme.tenant), .step true (.ok acme.tenant),
   .step false (.ok acme.tenant), .step true (.ok acme.tenant),
   .step false (.ok acme.tenant), .step true (.ok acme.tenant)]

/-- The last schema the engine was told is the one that is published. -/
theorem published_schema_is_enforced_overlapping :
    ((uploads versionDecoder literalLang Bool).machine.final freshServer
      overlapping).shared.Publishes versionDecoder literalLang acme := by
  have fresh : freshServer.shared.InStep versionDecoder literalLang acme.tenantID := trivial
  have ordered : (uploads versionDecoder literalLang Bool).machine.Along (InOrder acme.tenantID)
      freshServer overlapping := by
    refine ⟨trivial, trivial, .of_silent ?_, .of_silent ?_, .of_silent ?_, .of_silent ?_, ?_, ?_,
      trivial⟩
    · decide +kernel
    · decide +kernel
    · decide +kernel
    · decide +kernel
    · -- The second upload is still to tell the registry.
      exact fun _ _ _ => .inr ⟨true, by decide, rfl⟩
    · -- The second upload was the last one to tell the engine.
      intro data cs waits
      have told := congrArg
        (Option.map fun told : String × List UInt8 × CompiledSchema Bool => told.2.2) waits
      exact .inl told
  exact published_schema_is_enforced rfl (fun _ => rfl) fresh ordered (by decide +kernel)

/-- The first upload tells the engine, the second one tells both, and the first one the registry. -/
def crossing : List (Event Bool (Except Err (Tenant Bool)) Upload) :=
  [.start false (uploadOf 0x31), .step false (.ok acme.tenant), .step false (.ok acme.tenant),
   .start true (uploadOf 0x32), .step true (.ok acme.tenant), .step true (.ok acme.tenant),
   .step true (.ok acme.tenant), .step false (.ok acme.tenant)]

/-- A source of the first version compiles to a schema of the first version. -/
theorem acceptSchema_version {now : Time} {cs : CompiledSchema Bool}
    (accepted : acceptSchema versionDecoder literalLang (versionSource 0x31) now = .ok cs) :
    cs.version = "1" := by
  -- The decoder knows this source, so the schema can be computed.
  simp only [acceptSchema, parse, versionDecoder, if_true] at accepted
  obtain rfl := Except.ok.inj accepted
  rfl

/-- Afterwards the engine checks by the second schema, and the first one is published. -/
theorem published_schema_is_not_enforced :
    (∀ i, (((uploads versionDecoder literalLang Bool).machine.final freshServer crossing).parties
        i).running = none) ∧
      ¬ ((uploads versionDecoder literalLang Bool).machine.final freshServer
        crossing).shared.Publishes versionDecoder literalLang acme := by
  refine ⟨by decide +kernel, ?_⟩
  generalize final : (uploads versionDecoder literalLang Bool).machine.final freshServer crossing =
    after
  have published : (handleGetSchema after.shared "acme").toOption.map (·.source) =
      some (versionSource 0x31) := by
    rw [← final]
    decide +kernel
  have used : (after.shared.eng.schemaForTenant acme).toOption.map (·.version) = some "2" := by
    rw [← final]
    decide +kernel
  intro publishes
  unfold Server.Publishes at publishes
  rw [show acme.tenantID = "acme" from rfl] at publishes
  cases answer : handleGetSchema after.shared "acme" with
  | error failure => simp [answer, Except.toOption] at published
  | ok response =>
    cases chosen : after.shared.eng.schemaForTenant acme with
    | error e => simp [chosen, Except.toOption] at used
    | ok cs =>
      simp only [answer, chosen, Except.toOption, Option.map_some, Option.some.injEq] at publishes published used
      -- The schema in force would have been compiled from the source of the other version.
      obtain ⟨-, now, accepted⟩ := publishes
      rw [published] at accepted
      have first := acceptSchema_version accepted
      rw [used] at first
      exact absurd first (by decide)

end ZanGuard.Api
