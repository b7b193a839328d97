import ZanGuard.Lib.Blind
import ZanGuard.Proofs.Api.Service

/-! Requests about one tenant are answered as if no other tenant were there. -/

namespace ZanGuard.Api

open ExceptT Memory Transaction

variable {V P : Type} {mine : String}

/-- The tenant a request is about: that of its path or its header, or the one it creates. -/
def ApiRequest.tenant : ApiRequest V → Option String
  | .health | .listTenants _ | .createTenant (.error _) => none
  | .createTenant (.ok req) => some req.id
  | .getTenant tenantID | .deleteTenant tenantID | .activateTenant tenantID
  | .suspendTenant tenantID | .loadSchema tenantID _ | .getSchema tenantID
  | .writeTuples tenantID _ | .writeTuple tenantID _ | .deleteTuple tenantID _
  | .readTuples tenantID _ | .listObjectAttributes tenantID _ | .getObjectAttributes tenantID _ _
  | .setObjectAttributes tenantID _ _ _ | .listSubjectAttributes tenantID _
  | .getSubjectAttributes tenantID _ _ | .setSubjectAttributes tenantID _ _ _
  | .readChangelog tenantID _ _ | .expand tenantID _ | .evaluation tenantID _
  | .evaluations tenantID _ => some tenantID

/-- The store and the engine of a service. -/
def Service.system (svc : Service V P) : System V P :=
  { store := svc.store, engine := svc.server.eng }

/-- Two services a tenant cannot tell apart. -/
structure Service.SameFor (mine : String) (left right : Service V P) : Prop where
  system : ZanGuard.SameFor mine left.system right.system
  shared : left.server.eng.sharedSchemas = right.server.eng.sharedSchemas
  source : left.server.schemas.lookup mine = right.server.schemas.lookup mine
  compiled : left.server.compiled.lookup mine = right.server.compiled.lookup mine

/-- What a tenant cannot tell apart from a third service either. -/
theorem Service.SameFor.trans {first second third : Service V P} (same : first.SameFor mine second)
    (next : second.SameFor mine third) : first.SameFor mine third :=
  ⟨⟨same.system.slice.trans next.system.slice, same.system.schema.trans next.system.schema,
    same.system.cfg.trans next.system.cfg⟩, same.shared.trans next.shared,
    same.source.trans next.source, same.compiled.trans next.compiled⟩

/-! ### The manager -/

/-- Two stores that hold the same for a tenant, whose record bears its ID. -/
structure SameRecord (mine : String) (s t : Store V) : Prop where
  slice : s.slice mine = t.slice mine
  own : ∀ tenant, s.tenants.lookup mine = some tenant → tenant.id = mine

variable {s t : Store V} {clock : Clock}

/-- Both stores have the record, or neither has. -/
theorem SameRecord.tenant (same : SameRecord mine s t) :
    s.tenants.lookup mine = t.tenants.lookup mine :=
  (slice_eq_iff.mp same.slice).1

/-- A record is replaced in both stores, or in neither. -/
theorem SameRecord.updateTenant (same : SameRecord mine s t) {record : Tenant V}
    (own : record.id = mine) :
    RunsAlike (SameRecord mine) ((tupleStore clock).updateTenant record) s t := by
  subst own
  obtain ⟨tenant, tuples, objAttrs, subAttrs, changelog, sequence⟩ := slice_eq_iff.mp same.slice
  have both : (s.updateTenant record clock).1 = (t.updateTenant record clock).1 ∧
      SameRecord record.id (s.updateTenant record clock).2 (t.updateTenant record clock).2 := by
    simp only [Store.updateTenant, tenant]
    cases t.tenants.lookup record.id with
    | none => exact ⟨rfl, same⟩
    | some old =>
      refine ⟨rfl, by simp [Store.slice, tuples, objAttrs, subAttrs, changelog, sequence], ?_⟩
      intro other stored
      obtain rfl := Option.some.inj ((AList.lookup_insert _).symm.trans stored)
      rfl
  exact ⟨both.1, both.2⟩

/-- A record is added to both stores, or to neither. -/
theorem SameRecord.createTenant (same : SameRecord mine s t) {record : Tenant V}
    (own : record.id = mine) :
    RunsAlike (SameRecord mine) ((tupleStore clock).createTenant record) s t := by
  subst own
  obtain ⟨tenant, tuples, objAttrs, subAttrs, changelog, sequence⟩ := slice_eq_iff.mp same.slice
  have both : (s.createTenant record clock).1 = (t.createTenant record clock).1 ∧
      SameRecord record.id (s.createTenant record clock).2 (t.createTenant record clock).2 := by
    simp only [Store.createTenant, tenant]
    cases t.tenants.lookup record.id with
    | some old => exact ⟨rfl, same⟩
    | none =>
      refine ⟨rfl, initTenant_own ?_, ?_⟩
      · simp [Store.slice, tuples, objAttrs, subAttrs, changelog, sequence]
      · intro other stored
        -- Opening the buckets leaves the record as it was added.
        dsimp only at stored
        rw [← initTenant_with] at stored
        obtain rfl := Option.some.inj ((AList.lookup_insert _).symm.trans stored)
        rfl
  exact ⟨both.1, both.2⟩

/-- A lifecycle call moves the tenant in both stores, or in neither. -/
theorem SameRecord.transition (same : SameRecord mine s t) (check : TenantStatus → Except Err Unit)
    (status : TenantStatus) :
    RunsAlike (SameRecord mine) (Manager.transition (tupleStore clock) check status mine) s t := by
  have found : s.getTenant mine = t.getTenant mine := by
    simp only [Store.getTenant, same.tenant]
  refine RunsAlike.bind (.read same found) fun tenant _ _ ran after => ?_
  have read : s.getTenant mine = .ok tenant := congrArg Prod.fst ran
  refine (RunsAlike.still after _).bind fun _ _ _ _ after => after.updateTenant ?_
  -- The record that is stored again bears the ID under which it was found.
  show tenant.id = mine
  unfold Store.getTenant at read
  split at read
  · cases read
  · rename_i stored there
    obtain rfl := Except.ok.inj read
    exact same.own stored there

/-- A tenant is created in both stores, or in neither. -/
theorem SameRecord.handleCreateTenant {req : CreateTenantRequest} (same : SameRecord req.id s t)
    (now : Time) :
    RunsAlike (SameRecord req.id) (handleCreateTenant (tupleStore clock) req now) s t := by
  refine (RunsAlike.still same _).bind fun mode before _ _ same => ?_
  have created : RunsAlike (SameRecord req.id)
      (Manager.create (tupleStore clock) req.id req.displayName mode now) before _ :=
    (RunsAlike.still same _).bind fun _ _ _ _ same => (same.createTenant rfl).adapt.answer
  refine created.adapt.bind fun t _ _ ran same => ?_
  -- The record that was created bears the ID that was asked for.
  have adds : ExceptT.AllOrNothing (fun _ => True) (AddsTenant before req.id) before
      ((Manager.create (tupleStore clock) req.id req.displayName mode now).adapt (Failure.err 400)) :=
    create_adds.adapt fun _ _ => trivial
  have own : t.id = req.id := (adds.succeeded ran).own
  unfold storeOptional
  split
  · exact RunsAlike.answer (RunsAlike.adapt (same.updateTenant own))
  · exact .still same _

/-! ### The store -/

section Calls

variable {left right : Service V P}

/-- A tenant that cannot tell two services apart cannot tell their stores apart. -/
theorem Service.SameFor.slice (same : left.SameFor mine right) :
    left.store.slice mine = right.store.slice mine :=
  same.system.slice

/-- Only the stores of the services are changed. -/
theorem Service.SameFor.withStores (same : Service.SameFor mine left right)
    (slice : s.slice mine = t.slice mine) :
    Service.SameFor mine { left with store := s } { right with store := t } :=
  ⟨⟨slice, same.system.schema, same.system.cfg⟩, same.shared, same.source, same.compiled⟩

/-- A call of the store has the same outcome for a tenant in both deployments. -/
theorem Service.SameFor.changes (same : Service.SameFor mine left right) (lang : ExprLang V P)
    (op : Op V P) (owned : op.owner = some mine) (modes : op.OwnSchema)
    (write : Store V → Except Err Unit × Store V)
    (carries : ∀ sys : System V P, sys.step lang op = sys.mutate (write sys.store)) :
    Memory.Alike mine (write left.store) (write right.store) := by
  obtain ⟨reply, after⟩ := same.system.step lang owned modes
  rw [carries, carries] at reply after
  exact ⟨Reply.done.inj reply, after.slice⟩

/-- A read of the store answers a tenant alike in both deployments. -/
theorem Service.SameFor.shows (same : Service.SameFor mine left right) (lang : ExprLang V P)
    (op : Op V P) (owned : op.owner = some mine) (modes : op.OwnSchema) {α : Type} {wrap : α → Reply V}
    (apart : ∀ a b, wrap a = wrap b → a = b) (look : Store V → α)
    (carries : ∀ sys : System V P, sys.step lang op = (wrap (look sys.store), sys)) :
    look left.store = look right.store := by
  obtain ⟨reply, -⟩ := same.system.step lang owned modes
  rw [carries, carries] at reply
  exact apart _ _ reply

/-- A call that writes to the store changes it alike. -/
theorem writeStore_alike (same : Service.SameFor mine left right)
    {write : Store V → Except Err Unit × Store V}
    (alike : Memory.Alike mine (write left.store) (write right.store)) :
    RunsAlike (Service.SameFor mine) (writeStore write) left right :=
  ⟨congrArg (Except.mapError fun cause => Failure.err (errStatus cause) cause) alike.1,
    same.withStores alike.2⟩

/-- A call that reads from the store reads alike. -/
theorem readStore_alike {α : Type} (same : Service.SameFor mine left right)
    {read : Store V → Except Err α} (shown : read left.store = read right.store) :
    RunsAlike (Service.SameFor mine) (readStore read) left right :=
  .read same (congrArg _ shown)

/-- The tenant of a path is looked up alike. -/
theorem context_alike (same : Service.SameFor mine left right) :
    RunsAlike (Service.SameFor mine) (client clock (tenantCtxFromPath mine)) left right := by
  have tenant : left.store.tenants.lookup mine = right.store.tenants.lookup mine :=
    (slice_eq_iff.mp same.slice).1
  refine ⟨?_, ?_⟩
  · simp only [client_run, tenantCtxFromPath_alone, tenant]
  · simp only [client_run, tenantCtxFromPath_alone]
    exact same

/-- What is done for the tenant of a path runs alike when it does for the context of a tenant. -/
theorem scoped_alike {α : Type} (same : Service.SameFor mine left right)
    {next : Context V → ServiceM V P α}
    (later : ∀ ctx left right, ctx.map (·.tenantID) = some mine →
      Service.SameFor mine left right → RunsAlike (Service.SameFor mine) (next ctx) left right) :
    RunsAlike (Service.SameFor mine) (client clock (tenantCtxFromPath mine) >>= next) left right := by
  refine (context_alike same).bind fun ctx _ _ ran same => later ctx _ _ ?_ same
  obtain ⟨-, tenant, -, rfl⟩ := tenantCtxFromPath_looks.succeeded ran
  rfl

/-- A client goes on alike after a part that ran alike. -/
theorem client_alike {α β : Type} {first : ExceptT Failure (ClientM V) α}
    {next : α → ExceptT Failure (ClientM V) β}
    (head : RunsAlike (Service.SameFor mine) (client clock first) left right)
    (tail : ∀ value (left right : Service V P), Service.SameFor mine left right →
      RunsAlike (Service.SameFor mine) (client clock (next value)) left right) :
    RunsAlike (Service.SameFor mine) (client clock (first >>= next)) left right := by
  rw [client_bind]
  exact head.bind fun value left right _ same => tail value left right same

/-- A client for the tenant of a path runs alike when it does for the context of a tenant. -/
theorem client_scoped_alike {α : Type} (same : Service.SameFor mine left right)
    {next : Context V → ExceptT Failure (ClientM V) α}
    (later : ∀ ctx (left right : Service V P), ctx.map (·.tenantID) = some mine →
      Service.SameFor mine left right →
        RunsAlike (Service.SameFor mine) (client clock (next ctx)) left right) :
    RunsAlike (Service.SameFor mine) (client clock (tenantCtxFromPath mine >>= next)) left right := by
  rw [client_bind]
  exact scoped_alike same later

/-- A call that is sent only to read is answered alike. -/
theorem send_alike (same : Service.SameFor mine left right) {request : StoreCall V}
    (kept : ∀ s, (request.serve clock s).2 = s)
    (shown : (request.serve clock left.store).1 = (request.serve clock right.store).1) :
    RunsAlike (Service.SameFor mine) (client clock (send request)) left right := by
  have run : ∀ svc : Service V P, (client clock (send request)).run.run svc =
      (.ok (request.serve clock svc.store).1,
        { svc with store := (request.serve clock svc.store).2 }) := fun _ => rfl
  refine ⟨?_, ?_⟩
  · rw [run, run, shown]
  · rw [run, run, kept, kept]
    exact same

/-- So it is with the tenant of a header. -/
theorem headed_alike {α : Type} (same : Service.SameFor mine left right)
    {next : Context V → ServiceM V P α}
    (later : ∀ ctx left right, ctx.map (·.tenantID) = some mine →
      Service.SameFor mine left right → RunsAlike (Service.SameFor mine) (next ctx) left right) :
    RunsAlike (Service.SameFor mine) (client clock (tenantCtxFromHeader mine) >>= next) left right := by
  have tenant : left.store.tenants.lookup mine = right.store.tenants.lookup mine :=
    (slice_eq_iff.mp same.slice).1
  have looked : RunsAlike (Service.SameFor mine)
      (client clock (tenantCtxFromHeader mine)) left right := by
    refine ⟨?_, ?_⟩
    · simp only [client_run, tenantCtxFromHeader_alone, tenant]
    · simp only [client_run, tenantCtxFromHeader_alone]
      exact same
  refine looked.bind fun ctx _ _ ran same => later ctx _ _ ?_ same
  obtain ⟨-, tenant, -, rfl⟩ := tenantCtxFromHeader_looks.succeeded ran
  rfl

/-- A body is decoded alike. -/
theorem readJSON_alike {α β : Type} (same : Service.SameFor mine left right) {body : Except String α}
    {next : α → ServiceM V P β}
    (later : ∀ value left right, Service.SameFor mine left right →
      RunsAlike (Service.SameFor mine) (next value) left right) :
    RunsAlike (Service.SameFor mine) (readJSON body >>= next) left right :=
  RunsAlike.bind (.still same _) fun value left right _ same => later value left right same

/-! ### Handlers -/

/-- A lifecycle call moves the tenant in both services, or in neither. -/
theorem transition_alike (same : Service.SameFor mine left right) (sound : left.Sound)
    (check : TenantStatus → Except Err Unit) (status : TenantStatus) :
    RunsAlike (Service.SameFor mine)
      (writeStore (Manager.transition (tupleStore clock) check status mine).run.run) left right := by
  have record : SameRecord mine left.store right.store := ⟨same.slice, sound.own mine⟩
  obtain ⟨outcome, after⟩ := record.transition check status
  exact writeStore_alike same ⟨outcome, after.slice⟩

/-- A tenant is read again alike. -/
theorem readAgain_alike (same : Service.SameFor mine left right) :
    RunsAlike (Service.SameFor mine) (readAgain mine) left right := by
  refine .read same ?_
  simp only [Store.getTenant, (slice_eq_iff.mp same.slice).1]

/-- A tenant is created in both services, or in neither. -/
theorem create_alike {req : CreateTenantRequest} (same : Service.SameFor req.id left right)
    (sound : left.Sound) (now : Time) :
    RunsAlike (Service.SameFor req.id) (onStore (handleCreateTenant (tupleStore clock) req now))
      left right := by
  have record : SameRecord req.id left.store right.store := ⟨same.slice, sound.own req.id⟩
  obtain ⟨outcome, after⟩ := record.handleCreateTenant now
  exact ⟨outcome, same.withStores after.slice⟩

/-- A schema is loaded in both services, or in neither. -/
theorem handleLoadSchema_alike (same : Service.SameFor mine left right) (yaml : YamlDecoder)
    (lang : ExprLang V P) (data : List UInt8) (now : Time) :
    RunsAlike (Service.SameFor mine)
      (upload (handleLoadSchema yaml lang { tenantID := mine, data, now })) left right := by
  have run : ∀ svc : Service V P,
      (upload (handleLoadSchema yaml lang { tenantID := mine, data, now }) :
        ServiceM V P SchemaResponse).run.run svc =
      (handleLoadSchema yaml lang { tenantID := mine, data, now }).run.alone
        ServerCall.serve .txClosed svc := fun _ => rfl
  have tenant : left.store.tenants.lookup mine = right.store.tenants.lookup mine :=
    (slice_eq_iff.mp same.slice).1
  suffices both : _ ∧ _ from ⟨both.1, both.2⟩
  rw [run, run, handleLoadSchema_run]
  simp only [Script.alone, ServerCall.serve, Store.getTenant, tenant]
  cases right.store.tenants.lookup mine with
  | none => exact ⟨rfl, same⟩
  | some t =>
    cases compileUpload yaml lang data now with
    | error failure => exact ⟨rfl, same⟩
    | ok cs =>
      -- The engine and the registry file the schema under the tenant.
      have filed : ∀ {β : Type} (map other : StringMap β) (value : β),
          (map.insert mine value).lookup mine = (other.insert mine value).lookup mine := by
        intro β map other value
        rw [AList.lookup_insert, AList.lookup_insert]
      exact ⟨rfl, ⟨same.slice, filed _ _ cs, same.system.cfg⟩, same.shared, filed _ _ data,
        filed _ _ cs⟩

/-- A batch is written in both services, or in neither. -/
theorem writeTuplesLocked_alike (same : Service.SameFor mine left right) {ctx : Context V}
    (owned : ctx.map (·.tenantID) = some mine) (tuples : List (RelationTuple V)) :
    RunsAlike (Service.SameFor mine) (writeStore fun s => s.writeTuples ctx tuples clock)
      left right :=
  writeStore_alike same (writing_own same.slice owned (writeTuplesLocked_own same.slice tuples clock))

/-- A tuple is written in both services, or in neither. -/
theorem handleWriteTuple_alike (same : Service.SameFor mine left right)
    (parseTime : String → Except String Time) (req : TupleRequest V) (now : Time) :
    RunsAlike (Service.SameFor mine) (client clock (handleWriteTuple parseTime mine req now))
      left right := by
  refine client_scoped_alike same fun ctx _ _ owned same => ?_
  refine client_alike (.still same _) fun tuple _ _ same => ?_
  -- A tuple on its own is a batch of one.
  exact client_sendWrite (.writeTuple ctx tuple) ▸ writeTuplesLocked_alike same owned [tuple]

/-- A batch is written in both services, or in neither. -/
theorem handleWriteTuples_alike (same : Service.SameFor mine left right)
    (parseTime : String → Except String Time) (reqs : List (TupleRequest V)) (now : Time) :
    RunsAlike (Service.SameFor mine) (client clock (handleWriteTuples parseTime mine reqs now))
      left right := by
  refine client_scoped_alike same fun ctx _ _ owned same => ?_
  by_cases empty : reqs.isEmpty = true
  · rw [if_pos empty]
    exact .still same _
  · rw [if_neg empty]
    refine client_alike (.still same _) fun tuples _ _ same => ?_
    have sent : RunsAlike (Service.SameFor mine)
        (client clock (sendWrite (.writeTuples ctx tuples))) _ _ :=
      client_sendWrite (.writeTuples ctx tuples) ▸ writeTuplesLocked_alike same owned tuples
    exact client_alike sent fun _ _ _ same => .still same (.ok tuples.length)

/-- A tuple is deleted in both services, or in neither. -/
theorem handleDeleteTuple_alike (same : Service.SameFor mine left right) (lang : ExprLang V P)
    (body : Except String (TupleRequest V)) :
    RunsAlike (Service.SameFor mine) (handleDeleteTuple clock mine body) left right := by
  refine scoped_alike same fun ctx _ _ owned same => ?_
  refine readJSON_alike same fun req _ _ same => ?_
  refine RunsAlike.bind (.still same _) fun _ _ _ _ same => ?_
  exact writeStore_alike same (same.changes lang (.deleteTuple ctx (tupleFromRequest req) clock) owned
    trivial (fun s => s.deleteTuple ctx (tupleFromRequest req) clock) fun _ => rfl)

/-- A page of the changelog is read alike. -/
theorem handleReadChangelog_alike (same : Service.SameFor mine left right) (lang : ExprLang V P)
    (sinceSeq limit : String) :
    RunsAlike (Service.SameFor mine) (client clock (handleReadChangelog mine sinceSeq limit))
      left right := by
  refine client_scoped_alike same fun ctx _ _ owned same => ?_
  refine client_alike (.still same _) fun since _ _ same => ?_
  refine client_alike (.still same _) fun limit _ _ same => ?_
  have page := same.shows lang (.readChangelog ctx since limit) owned trivial
    (fun _ _ => Reply.entries.inj) (fun s => s.readChangelog ctx since limit) fun _ => rfl
  refine client_alike (send_alike same (fun _ => rfl) page) fun answer _ _ same => ?_
  cases answer with
  | error cause => exact .still same _
  | ok entries =>
    -- The last sequence number is read in a call of its own.
    have latest := same.shows lang (.latestSequence ctx) owned trivial
      (fun _ _ => Reply.sequence.inj) (fun s => s.latestSequence ctx) fun _ => rfl
    refine client_alike (send_alike same (fun _ => rfl) latest) fun last _ _ same => ?_
    exact .still same (.ok (changelogResponse entries last))

/-- What is read of a tenant is read alike. -/
theorem readScoped_alike {α : Type} (same : Service.SameFor mine left right)
    {read : Store V → Context V → Except Err α}
    (shown : ∀ ctx (left right : Service V P), ctx.map (·.tenantID) = some mine →
      Service.SameFor mine left right → read left.store ctx = read right.store ctx) :
    RunsAlike (Service.SameFor mine) (readScoped read clock mine) left right :=
  scoped_alike same fun ctx _ _ owned same => readStore_alike same (shown ctx _ _ owned same)

/-- Attributes are replaced in both services, or in neither. -/
theorem setAttributes_alike (same : Service.SameFor mine left right) {type id : String}
    {set : Store V → Context V → String → String → AnyMap V → Except Err Unit × Store V}
    (sets : ∀ ctx attrs (left right : Service V P), ctx.map (·.tenantID) = some mine →
      Service.SameFor mine left right →
        Memory.Alike mine (set left.store ctx type id attrs) (set right.store ctx type id attrs))
    (body : Except String (AnyMap V)) :
    RunsAlike (Service.SameFor mine) (setAttributes set clock mine type id body) left right := by
  refine scoped_alike same fun ctx _ _ owned same => ?_
  refine readJSON_alike same fun attrs _ _ same => ?_
  exact (writeStore_alike same (sets ctx attrs _ _ owned same)).answer

/-- A subject tree is read alike. -/
theorem handleExpand_alike (same : Service.SameFor mine left right) (lang : ExprLang V P)
    (body : Except String ExpandRequest) :
    RunsAlike (Service.SameFor mine) (handleExpand clock mine body) left right := by
  refine scoped_alike same fun ctx _ _ owned same => ?_
  refine readJSON_alike same fun req _ _ same => ?_
  by_cases blank : [req.objectType, req.objectID, req.relation].any (trimSpace · = "") = true
  · rw [if_pos blank]
    exact .still same _
  · rw [if_neg blank]
    -- The engine hands the expansion to the store.
    have tree := same.shows lang (.expand ctx req.objectType req.objectID req.relation (clock 0)) owned
      trivial (fun _ _ => Reply.tree.inj)
      (fun s => s.expand ctx req.objectType req.objectID req.relation (clock 0)) fun _ => rfl
    exact ⟨congrArg (Except.mapError fun cause => Failure.err (errStatus cause) cause) tree, same⟩

/-- A listing of tuples is read alike. -/
theorem handleReadTuples_alike (same : Service.SameFor mine left right) (lang : ExprLang V P)
    (query : ReadTuplesQuery) :
    RunsAlike (Service.SameFor mine) (handleReadTuples clock mine query) left right := by
  refine scoped_alike same fun ctx _ _ owned same => ?_
  refine RunsAlike.bind (.still same _) fun filter _ _ _ same => ?_
  exact readStore_alike same (same.shows lang (.readTuples ctx (some filter) clock) owned trivial
    (fun _ _ => Reply.tuples.inj) (fun s => s.readTuples ctx (some filter) clock) fun _ => rfl)

/-- A decision is the same in both services. -/
theorem Service.SameFor.decide (same : Service.SameFor mine left right) (lang : ExprLang V P)
    {ctx : Context V} (owned : ctx.map (·.tenantID) = some mine) (clock : Clock)
    (req : AuthZenEvaluationRequest V) :
    left.decide lang ctx clock req = right.decide lang ctx clock req := by
  have checks : left.server.eng.check lang (left.store.lookups ctx clock) ctx req.check =
      right.server.eng.check lang (right.store.lookups ctx clock) ctx req.check := by
    rw [lookups_own same.slice owned clock]
    cases passed : checkTenant ctx with
    | error e => rw [Engine.check_refused passed, Engine.check_refused passed]
    | ok tc =>
      cases ctx with
      | none => cases passed
      | some given =>
        obtain rfl := checkTenant_same passed
        obtain rfl : tc.tenantID = mine := by simpa using owned
        have own : left.server.eng.schemas.lookup tc.tenantID =
            right.server.eng.schemas.lookup tc.tenantID := same.system.schema
        -- Whatever its mode, the tenant finds one schema on both sides.
        have chosen : left.server.eng.schemaForTenant tc = right.server.eng.schemaForTenant tc := by
          unfold Engine.schemaForTenant
          rw [same.shared, own]
        have cfg : left.server.eng.cfg = right.server.eng.cfg := same.system.cfg
        simp only [Engine.check, passed, bind, Except.bind, chosen, cfg]
  simp only [Service.decide, checks]

/-- So are the decisions on a batch. -/
theorem Service.SameFor.decideAll (same : Service.SameFor mine left right) (lang : ExprLang V P)
    {ctx : Context V} (owned : ctx.map (·.tenantID) = some mine) (clocks : Nat → Clock)
    (subject : AuthZenEntity) (i : Nat) (items : List (AuthZenBatchItem V)) :
    left.decideAll lang ctx clocks subject i items =
      right.decideAll lang ctx clocks subject i items := by
  -- The induction is on the items that are left.
  induction items generalizing i with
  | nil => rfl
  | cons item rest ih => rw [Service.decideAll, Service.decideAll, same.decide lang owned, ih]

/-- A body that was not decoded is refused alike, after the tenant was looked up. -/
theorem withBody_alike {α β : Type} (same : Service.SameFor mine left right) {body : Except String α}
    {handler : α → ServiceM V P β}
    (decoded : ∀ req, RunsAlike (Service.SameFor mine) (handler req) left right) :
    RunsAlike (Service.SameFor mine) (withBody clock mine body handler) left right := by
  unfold withBody
  split
  · exact decoded _
  · exact scoped_alike same fun _ _ _ _ same => .still same _

/-- A request about a tenant is handled alike by services that the tenant cannot tell apart. -/
theorem handle_alike (env : Environment V P) (call : ApiCall V)
    (owned : call.request.tenant = some mine) (sound : left.Sound)
    (same : Service.SameFor mine left right) :
    RunsAlike (Service.SameFor mine) (env.handle call) left right := by
  obtain ⟨request, now, clock, checks⟩ := call
  have lang := env.lang
  cases request with
  | health | listTenants query => cases owned
  | createTenant body =>
    cases body with
    | error cause => cases owned
    | ok req =>
      obtain rfl := Option.some.inj owned
      exact RunsAlike.answer (create_alike same sound now)
  | getTenant tenantID =>
    obtain rfl := Option.some.inj owned
    have found := same.shows lang (.getTenant tenantID) rfl trivial (fun _ _ => Reply.tenant.inj)
      (fun s => s.getTenant tenantID) fun _ => rfl
    exact RunsAlike.answer (readStore_alike same found)
  | deleteTenant tenantID =>
    obtain rfl := Option.some.inj owned
    exact RunsAlike.answer (transition_alike same sound _ _)
  | activateTenant tenantID | suspendTenant tenantID =>
    obtain rfl := Option.some.inj owned
    refine RunsAlike.answer (RunsAlike.bind (transition_alike same sound _ _) fun _ _ _ _ same => ?_)
    exact readAgain_alike same
  | loadSchema tenantID data =>
    obtain rfl := Option.some.inj owned
    exact RunsAlike.answer (handleLoadSchema_alike same env.yaml env.lang data now)
  | getSchema tenantID =>
    obtain rfl := Option.some.inj owned
    -- Both maps are looked up under the tenant.
    have shown : handleGetSchema left.server tenantID = handleGetSchema right.server tenantID := by
      simp only [handleGetSchema, same.source, same.compiled]
    exact RunsAlike.answer (RunsAlike.read same shown)
  | writeTuples tenantID body =>
    obtain rfl := Option.some.inj owned
    exact RunsAlike.answer (withBody_alike same fun reqs => handleWriteTuples_alike same _ reqs now)
  | writeTuple tenantID body =>
    obtain rfl := Option.some.inj owned
    exact RunsAlike.answer (withBody_alike same fun req => handleWriteTuple_alike same _ req now)
  | deleteTuple tenantID body =>
    obtain rfl := Option.some.inj owned
    exact RunsAlike.answer (handleDeleteTuple_alike same lang body)
  | readTuples tenantID query =>
    obtain rfl := Option.some.inj owned
    exact RunsAlike.answer (handleReadTuples_alike same lang query)
  | listObjectAttributes tenantID type =>
    obtain rfl := Option.some.inj owned
    exact RunsAlike.answer (readScoped_alike same fun ctx _ _ owned same =>
      same.shows lang (.listObjectAttributes ctx type) owned trivial (fun _ _ => Reply.entities.inj)
        (fun s => s.listObjectAttributes ctx type) fun _ => rfl)
  | getObjectAttributes tenantID type id =>
    obtain rfl := Option.some.inj owned
    exact RunsAlike.answer (readScoped_alike same fun ctx _ _ owned same =>
      same.shows lang (.getObjectAttributes ctx type id) owned trivial (fun _ _ => Reply.attrs.inj)
        (fun s => s.getObjectAttributes ctx type id) fun _ => rfl)
  | setObjectAttributes tenantID type id body =>
    obtain rfl := Option.some.inj owned
    exact RunsAlike.answer (setAttributes_alike same (fun ctx attrs _ _ owned same =>
      same.changes lang (.setObjectAttributes ctx type id attrs) owned trivial
        (fun s => s.setObjectAttributes ctx type id attrs) fun _ => rfl) body)
  | listSubjectAttributes tenantID type =>
    obtain rfl := Option.some.inj owned
    exact RunsAlike.answer (readScoped_alike same fun ctx _ _ owned same =>
      same.shows lang (.listSubjectAttributes ctx type) owned trivial (fun _ _ => Reply.entities.inj)
        (fun s => s.listSubjectAttributes ctx type) fun _ => rfl)
  | getSubjectAttributes tenantID type id =>
    obtain rfl := Option.some.inj owned
    exact RunsAlike.answer (readScoped_alike same fun ctx _ _ owned same =>
      same.shows lang (.getSubjectAttributes ctx type id) owned trivial (fun _ _ => Reply.attrs.inj)
        (fun s => s.getSubjectAttributes ctx type id) fun _ => rfl)
  | setSubjectAttributes tenantID type id body =>
    obtain rfl := Option.some.inj owned
    exact RunsAlike.answer (setAttributes_alike same (fun ctx attrs _ _ owned same =>
      same.changes lang (.setSubjectAttributes ctx type id attrs) owned trivial
        (fun s => s.setSubjectAttributes ctx type id attrs) fun _ => rfl) body)
  | readChangelog tenantID sinceSeq limit =>
    obtain rfl := Option.some.inj owned
    exact RunsAlike.answer (handleReadChangelog_alike same lang sinceSeq limit)
  | expand tenantID body =>
    obtain rfl := Option.some.inj owned
    exact RunsAlike.answer (handleExpand_alike same lang body)
  | evaluation tenantID body =>
    obtain rfl := Option.some.inj owned
    refine RunsAlike.answer (headed_alike same fun ctx _ _ owned same => ?_)
    refine readJSON_alike same fun req _ _ same => ?_
    exact .read same (congrArg Except.ok (same.decide env.lang owned (checks 0) req))
  | evaluations tenantID body =>
    obtain rfl := Option.some.inj owned
    refine RunsAlike.answer (headed_alike same fun ctx _ _ owned same => ?_)
    refine readJSON_alike same fun req _ _ same => ?_
    exact .read same
      (congrArg Except.ok (same.decideAll env.lang owned checks req.subject 0 req.evaluations))

end Calls

/-! ### Requests about other tenants -/

/-- A change of the store that leaves a tenant's part alone does not show to the tenant. -/
theorem Service.sameFor_of_slice {svc : Service V P} {after : Store V}
    (slice : after.slice mine = svc.store.slice mine) :
    Service.SameFor mine { svc with store := after } svc :=
  ⟨⟨slice, rfl, rfl⟩, rfl, rfl, rfl⟩

/-- The tenant that a request asks to change something of is the one it is about. -/
theorem asks_tenant (env : Environment V P) (call : ApiCall V) :
    (∀ asked ∈ call.request.moves, call.request.tenant = some asked.1) ∧
      (∀ asked ∈ call.writes env, call.request.tenant = some asked.1) ∧
      (∀ asked ∈ call.request.deletes, call.request.tenant = some asked.1) ∧
      ∀ asked ∈ call.request.sets, call.request.tenant = some asked.1 := by
  obtain ⟨request, now, clock, checks⟩ := call
  cases request with
  | writeTuples tenantID body | writeTuple tenantID body | deleteTuple tenantID body
  | setObjectAttributes tenantID type id body | setSubjectAttributes tenantID type id body =>
    -- A body that was not decoded asks for nothing.
    cases body <;> simp +contextual [ApiRequest.moves, ApiCall.writes, ApiRequest.deletes, ApiRequest.sets,
      ApiRequest.tenant]
  | _ =>
    simp [ApiRequest.moves, ApiCall.writes, ApiRequest.deletes, ApiRequest.sets, ApiRequest.tenant]

/-- What is accepted about another tenant, or about none, does not show to the tenant. -/
theorem Accepted.foreign {env : Environment V P} {svc after : Service V P} {call : ApiCall V}
    (accepted : Accepted env svc call after) (apart : call.request.tenant ≠ some mine) :
    Service.SameFor mine after svc := by
  obtain ⟨moves, writes, deletes, sets⟩ := asks_tenant env call
  cases accepted with
  | read asked => exact ⟨⟨rfl, rfl, rfl⟩, rfl, rfl, rfl⟩
  | @created req t asked fresh own status =>
    have other : mine ≠ req.id := fun same => apart (by rw [asked, same]; rfl)
    refine Service.sameFor_of_slice ((initTenant_foreign other).trans ?_)
    simp [Store.slice, AList.lookup_insert_ne other]
  | @moved tenantID status t asked stored kept =>
    have other : mine ≠ tenantID := fun same => apart (by rw [moves _ asked, same])
    refine Service.sameFor_of_slice ?_
    simp [Store.slice, AList.lookup_insert_ne other]
  | @wrote tenantID tuples asked writable done =>
    have other : mine ≠ tenantID := fun same => apart (by rw [writes _ asked, same])
    exact Service.sameFor_of_slice (writeTuplesLocked_foreign other tuples call.clock)
  | @deleted tenantID tuple t asked writable found =>
    have other : mine ≠ tenantID := fun same => apart (by rw [deletes _ asked, same])
    refine Service.sameFor_of_slice ((appendTupleChangelogUnsafe_foreign other _ _ _ _).trans ?_)
    simp [Store.slice, AList.lookup_insert_ne other]
  | @set tc set after asked writable done =>
    have other : (some tc).map (·.tenantID) ≠ some mine := by
      intro same
      exact apart ((sets _ asked).trans same)
    refine Service.sameFor_of_slice ?_
    obtain ⟨entity, type, id, attrs⟩ := set
    cases entity with
    | object =>
      have untouched := step_foreign svc.system env.lang
        (show (Op.setObjectAttributes (some tc) type id attrs).owner ≠ some mine from other)
      exact congrArg (·.2.slice mine) done.symm |>.trans untouched.slice
    | subject =>
      have untouched := step_foreign svc.system env.lang
        (show (Op.setSubjectAttributes (some tc) type id attrs).owner ≠ some mine from other)
      exact congrArg (·.2.slice mine) done.symm |>.trans untouched.slice
  | @loaded tenantID data cs t asked stored accepted =>
    have other : mine ≠ tenantID := fun same => apart (by rw [asked, same]; rfl)
    exact ⟨⟨rfl, AList.lookup_insert_ne other, rfl⟩, rfl, AList.lookup_insert_ne other,
      AList.lookup_insert_ne other⟩

/-! ### Runs -/

/-- What a tenant cannot tell apart is an unwinding of the server. -/
theorem requests_unwinding (env : Environment V P) (mine : String) :
    env.machine.Unwinding (fun call => decide (call.request.tenant = some mine)) (fun _ => True)
      fun left right => left.Sound ∧ right.Sound ∧ Service.SameFor mine left right where
  own := by
    rintro left right call owned - ⟨sound, sound', same⟩
    obtain ⟨outcome, after⟩ := handle_alike env call (of_decide_eq_true owned) sound same
    exact ⟨outcome, serve_sound env left call sound, serve_sound env right call sound', after⟩
  foreign := by
    rintro left right call foreign ⟨sound, sound', same⟩
    refine ⟨serve_sound env left call sound, sound', ?_⟩
    obtain ⟨failure, ran, -⟩ | ⟨answer, after, ran, accepted⟩ := serve_cases env call sound
    · rw [show (env.machine.step left call).2 = left from congrArg Prod.snd ran]
      exact same
    · rw [show (env.machine.step left call).2 = after from congrArg Prod.snd ran]
      exact (accepted.foreign (of_decide_eq_false foreign)).trans same

/--
The requests about a tenant are answered as in the run in which no others are sent.

What other tenants ask for, and what is asked about no tenant, does not show in any answer.
-/
theorem requests_isolated (env : Environment V P) (cfg : Config) (mine : String)
    (calls : List (ApiCall V)) :
    (env.machine.trace (Service.new cfg) calls).filter
        (fun answered => answered.1.request.tenant = some mine) =
      env.machine.trace (Service.new cfg)
        (calls.filter fun call => call.request.tenant = some mine) :=
  (requests_unwinding env mine).trace_filter (fun _ _ _ => trivial)
    ⟨.new cfg, .new cfg, ⟨rfl, rfl, rfl⟩, rfl, rfl, rfl⟩

end ZanGuard.Api
