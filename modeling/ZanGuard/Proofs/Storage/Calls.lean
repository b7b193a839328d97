import ZanGuard.Storage.Cluster

/-! What the calls of a session send: a write checks the status first, and then opens a transaction. -/

namespace ZanGuard.Postgres

open Transaction

variable {V J : Type}

/-- The tenant whose tuples or entries a statement writes. -/
def Statement.writes : Statement V → Option String
  | .insertTuple tenantID _ _ => some tenantID
  | .refreshExpiredTuple tenantID _ _ => some tenantID
  | .insertChangelog tenantID _ _ => some tenantID
  | .deleteTuple tenantID _ => some tenantID
  | _ => none

/-- A statement on its own that writes neither tuples nor entries. -/
def Quiet : Request (Statement V) → Prop
  | .auto statement => statement.writes = none
  | _ => False

/-- What is sent in a transaction that writes for a tenant. -/
def Inside (tenantID : String) : Request (Statement V) → Prop
  | .exec statement => statement.writes = some tenantID
  | .commit | .rollback => True
  | .auto _ | .start => False

/-- A statement of a transaction that writes for a tenant. -/
def Writing (tenantID : String) : Request (Statement V) → Prop
  | .exec statement => statement.writes = some tenantID
  | _ => False

/-- The tenant for which a call writes. -/
def Call.writes : Call V → Option String
  | .writeTuple ctx _ => ctx.map (·.tenantID)
  | .writeTuples ctx _ => ctx.map (·.tenantID)
  | .deleteTuple ctx _ => ctx.map (·.tenantID)
  | .appendChangelog ctx _ => ctx.map (·.tenantID)
  | _ => none

/-! ### Transactions -/

section Transactions

variable (codec : Codec V J) (tenantID : String)

/-- What a method in the open transaction of a tenant sends. -/
def SendsInside {α : Type} (method : StoreM V α) : Prop :=
  method.run.Sends (Inside tenantID) (OnSuccess fun _ => True)

/-- What a part of it sends that does not end the transaction. -/
def SendsWriting {α : Type} (method : StoreM V α) : Prop :=
  method.run.Sends (Writing tenantID) (OnSuccess fun _ => True)

variable {tenantID}

/-- Such a part is sent inside the transaction. -/
theorem SendsWriting.inside {α : Type} {method : StoreM V α} (sends : SendsWriting tenantID method) :
    SendsInside tenantID method := by
  refine Script.Sends.mono sends fun request writing => ?_
  cases request with
  | exec statement => exact writing
  | auto _ | start | commit | rollback => cases writing

/-- A method that ends with a commit. -/
theorem SendsWriting.commit {α : Type} {method : StoreM V α} (sends : SendsWriting tenantID method) :
    SendsInside tenantID (method >>= fun _ => Transaction.commit) :=
  Script.sends_bind sends.inside fun _ _ => Script.sends_commit trivial

/-- One method after the other. -/
theorem SendsWriting.bind {α β : Type} {first : StoreM V α} {next : α → StoreM V β}
    (sends : SendsWriting tenantID first) (later : ∀ value, SendsWriting tenantID (next value)) :
    SendsWriting tenantID (first >>= next) :=
  Script.sends_bind sends fun value _ => later value

/-- An outcome that is known already. -/
theorem SendsWriting.outcome {α : Type} (outcome : Except Err α) :
    SendsWriting tenantID (ExceptT.mk (pure outcome) : StoreM V α) :=
  Script.sends_outcome (OnSuccess.any outcome)

variable (tenantID)

/-- An entry is added with one statement. -/
theorem appendChangelogTx_sends (entry : ChangelogEntry V) :
    SendsWriting tenantID (appendChangelogTx codec tenantID entry) :=
  SendsWriting.bind (Script.sends_exec rfl) fun _ => .outcome (.ok ())

/-- A tuple is inserted, and refreshed when its identity is taken. -/
theorem insertOrRefreshTx_sends (tuple : RelationTuple V) :
    SendsWriting tenantID (insertOrRefreshTx codec tenantID tuple) := by
  -- The insert may find the identity taken, and only then the refresh is sent.
  refine SendsWriting.bind (.outcome _) fun attrsJSON => ?_
  refine SendsWriting.bind (Script.sends_tryExec rfl) fun attempt => ?_
  cases attempt with
  | ok _ => exact .outcome (.ok ())
  | error err =>
    cases taken : isUniqueViolation err with
    | false =>
      simp only [taken, Bool.false_eq_true, if_false]
      exact .outcome (.error err)
    | true =>
      simp only [taken, if_true]
      refine SendsWriting.bind (SendsWriting.bind (Script.sends_exec rfl) fun tag => .outcome (.ok _)) ?_
      intro refreshed
      cases refreshed with
      | true => exact .outcome (.ok ())
      | false => exact .outcome (.error .duplicateTuple)

/-- A tuple is written and logged. -/
theorem writeTupleTx_sends (tuple : RelationTuple V) :
    SendsWriting tenantID (writeTupleTx codec tenantID tuple) :=
  (insertOrRefreshTx_sends codec tenantID tuple).bind fun _ => appendChangelogTx_sends codec tenantID _

/-- A batch is written tuple by tuple. -/
theorem writeTuplesTx_sends (tuples : List (RelationTuple V)) :
    SendsWriting tenantID (writeTuplesTx codec tenantID tuples) := by
  -- The induction is on the batch.
  induction tuples with
  | nil => exact .outcome (.ok ())
  | cons tuple rest ih => exact (writeTupleTx_sends codec tenantID tuple).bind fun _ => ih

/-- A tuple is marked as deleted and logged, when there is one. -/
theorem deleteTupleTx_sends (tuple : RelationTuple V) :
    SendsInside tenantID (do
      let tag ← Transaction.exec (Statement.deleteTuple tenantID tuple)
      let rowsAffected : Nat := tag
      if rowsAffected = 0 then throw .notFound
      appendChangelogTx codec tenantID (deleteEntry tenantID tuple)
      Transaction.commit : StoreM V Unit) := by
  -- The number of rows decides whether the entry is sent.
  refine Script.sends_bind (Script.sends_exec rfl) fun tag _ => ?_
  dsimp only
  split
  · exact Script.sends_bind (Script.sends_outcome (OnSuccess.any (.error Err.notFound))) fun _ _ =>
      (appendChangelogTx_sends codec tenantID _).commit
  · exact (appendChangelogTx_sends codec tenantID _).commit

end Transactions

/-! ### Calls -/

/-- What a write has been answered when it waits for a request, and what it asks for. -/
inductive WritePhase (tenantID : String) :
    List (Exchange (Statement V) Statement.Answer Err) → Request (Statement V) → Prop
  | check : WritePhase tenantID [] (.auto (.selectTenantStatus tenantID))
  | start : WritePhase tenantID
      [⟨.auto (.selectTenantStatus tenantID), .ok (some .active)⟩] .start
  | inside {earlier : List (Exchange (Statement V) Statement.Answer Err)}
      {request : Request (Statement V)} (kind : Inside tenantID request) :
      WritePhase tenantID (⟨.auto (.selectTenantStatus tenantID), .ok (some .active)⟩ ::
        ⟨.start, .ok ()⟩ :: earlier) request

/-- A method that checks the status and opens a transaction is in one of the phases. -/
theorem guarded_phase {tenantID : String} {body : StoreM V Unit}
    (inside : SendsInside tenantID body)
    {seen : List (Exchange (Statement V) Statement.Answer Err)} {request : Request (Statement V)}
    {next : request.Reply Statement.Answer Err →
      Script (Statement V) Statement.Answer Err (CallResult V)}
    (reached : (CallResult.done <$> (do
      ensureTenantWritable tenantID
      withTransaction body : StoreM V Unit).run).Reaches seen (.ask request next)) :
    WritePhase tenantID seen request := by
  -- One exchange after the other; a refusal ends the call.
  cases reached with
  | here => exact .check
  | @ask _ _ found _ _ later =>
    match found, later with
    | .error e, later => cases later
    | .ok none, later => cases later
    | .ok (some status), later =>
      cases status with
      | active =>
        cases later with
        | here => exact .start
        | @ask _ _ begun _ _ later =>
          match begun, later with
          | .error e, later => cases later
          | .ok (), later =>
            refine .inside ?_
            -- The rest is the body, and a rollback after it.
            have whole : Script.Sends (Inside tenantID) (fun _ : Except Err Unit => True)
                (body.run >>= fun outcome => .ask .rollback fun _ => .done outcome) :=
              Script.Sends.bind inside fun outcome _ => ⟨trivial, fun _ => trivial⟩
            have all : Script.Sends (Inside tenantID) (fun _ : CallResult V => True)
                (CallResult.done <$> (body.run >>= fun outcome =>
                  .ask .rollback fun _ => .done outcome)) :=
              whole.bind fun _ _ => trivial
            exact (later.sends all).1
      | _ => cases later

section Calls

variable {codec : Codec V J} {config : ConfigCodec V} {reader : Reader V} {call : Call V}
  {seen : List (Exchange (Statement V) Statement.Answer Err)} {request : Request (Statement V)}
  {next : request.Reply Statement.Answer Err →
    Script (Statement V) Statement.Answer Err (CallResult V)}

/-- A call that writes for a tenant checks the status of the tenant and opens a transaction. -/
theorem write_guarded (codec : Codec V J) (config : ConfigCodec V) (reader : Reader V)
    {tenantID : String} (writes : call.writes = some tenantID) :
    ∃ body : StoreM V Unit, SendsInside tenantID body ∧
      call.script codec config reader = CallResult.done <$> (do
        ensureTenantWritable tenantID
        withTransaction body : StoreM V Unit).run := by
  -- The four writes differ in the body of their transaction.
  cases call with
  | writeTuple ctx tuple =>
    obtain ⟨tc, rfl, rfl⟩ := Option.map_eq_some_iff.mp writes
    exact ⟨_, (writeTupleTx_sends codec _ tuple).commit, rfl⟩
  | writeTuples ctx tuples =>
    obtain ⟨tc, rfl, rfl⟩ := Option.map_eq_some_iff.mp writes
    exact ⟨_, (writeTuplesTx_sends codec _ tuples).commit, rfl⟩
  | deleteTuple ctx tuple =>
    obtain ⟨tc, rfl, rfl⟩ := Option.map_eq_some_iff.mp writes
    exact ⟨_, deleteTupleTx_sends codec _ tuple, rfl⟩
  | appendChangelog ctx entry =>
    obtain ⟨tc, rfl, rfl⟩ := Option.map_eq_some_iff.mp writes
    exact ⟨_, (appendChangelogTx_sends codec _ entry).commit, rfl⟩
  | _ => cases writes

/-- A call that writes for a tenant is in one of the phases. -/
theorem write_phase {tenantID : String} (writes : call.writes = some tenantID)
    (reached : (call.script codec config reader).Reaches seen (.ask request next)) :
    WritePhase tenantID seen request := by
  obtain ⟨body, inside, sends⟩ := write_guarded codec config reader writes
  rw [sends] at reached
  exact guarded_phase inside reached

/-- A tenant is read with one statement. -/
theorem getTenant_sends (tenantID : String) :
    (getTenant config tenantID).run.Sends Quiet (OnSuccess fun _ => True) := by
  -- What is done with the row sends nothing.
  refine Script.sends_bind (Script.sends_adapt _ (Script.sends_auto rfl)) fun found _ => ?_
  match found with
  | none => trivial
  | some row =>
    exact Script.sends_bind (Script.sends_outcome (OnSuccess.any _)) fun _ _ => trivial

/-- A tenant is updated with one statement. -/
theorem updateTenant_sends (tenant : Tenant V) :
    (updateTenant config tenant).run.Sends Quiet (OnSuccess fun _ => True) := by
  -- The number of rows is looked at after the last request.
  refine Script.sends_bind (Script.sends_outcome (OnSuccess.any _)) fun configJSON _ => ?_
  refine Script.sends_bind (Script.sends_auto rfl) fun tag _ => ?_
  dsimp only
  split <;> trivial

/-- A lifecycle call reads the tenant and updates it. -/
theorem transition_quiet (check : TenantStatus → Except Err Unit) (status : TenantStatus)
    (tenantID : String) :
    (Manager.transition (tupleStore config) check status tenantID).run.Sends Quiet
      (OnSuccess fun _ => True) := by
  refine Script.sends_bind (getTenant_sends tenantID) fun t _ => ?_
  exact Script.sends_bind (Script.sends_outcome (OnSuccess.any _)) fun _ _ => updateTenant_sends _

/-- A tenant is inserted with one statement. -/
theorem createTenant_sends (tenant : Tenant V) (now : Time) :
    (createTenant config tenant now).run.Sends Quiet (OnSuccess fun _ => True) := by
  refine Script.sends_bind (Script.sends_outcome (OnSuccess.any _)) fun configJSON _ => ?_
  exact Script.sends_bind (Script.sends_adapt _ (Script.sends_auto rfl)) fun _ _ => trivial

/-- Creating a tenant sends no more than that. -/
theorem create_quiet (tenantID displayName : String) (mode : SchemaMode) (now : Time) :
    (Manager.create (tupleStore config now) tenantID displayName mode now).run.Sends Quiet
      (OnSuccess fun _ => True) := by
  refine Script.sends_bind (Script.sends_outcome (OnSuccess.any _)) fun _ _ => ?_
  exact Script.sends_bind (Script.sends_adapt _ (createTenant_sends _ now)) fun _ _ => trivial

/-- The status of a tenant is read with one query. -/
theorem ensureTenantReadable_sends (tenantID : String) :
    (ensureTenantReadable tenantID : StoreM V Unit).run.Sends Quiet (OnSuccess fun _ => True) := by
  have read : (tenantStatus tenantID : StoreM V _).run.Sends Quiet (OnSuccess fun _ => True) := by
    refine Script.sends_bind (Script.sends_auto rfl) fun found _ => ?_
    match found with
    | none => trivial
    | some status => trivial
  refine Script.sends_bind read fun status _ => ?_
  split <;> trivial

/-- Reading the changelog sends two queries. -/
theorem readChangelog_quiet (ctx : Context V) (sinceSeq : UInt64) (limit : Int) :
    (readChangelog ctx sinceSeq limit).run.Sends Quiet (OnSuccess fun _ => True) := by
  refine Script.sends_bind (Script.sends_outcome (OnSuccess.any _)) fun tenantID _ => ?_
  exact Script.sends_bind (ensureTenantReadable_sends tenantID) fun _ _ => Script.sends_auto rfl

/-- Any other call sends statements on their own, which write neither tuples nor entries. -/
theorem quiet_sends (silent : call.writes = none) :
    (call.script codec config reader).Sends Quiet fun _ => True := by
  cases call with
  | writeTuple ctx tuple =>
    -- Without a tenant in the context nothing is sent.
    obtain rfl := Option.map_eq_none_iff.mp silent
    trivial
  | writeTuples ctx tuples =>
    obtain rfl := Option.map_eq_none_iff.mp silent
    trivial
  | deleteTuple ctx tuple =>
    obtain rfl := Option.map_eq_none_iff.mp silent
    trivial
  | appendChangelog ctx entry =>
    obtain rfl := Option.map_eq_none_iff.mp silent
    trivial
  | poll limit => exact (readChangelog_quiet _ _ limit).bind fun _ _ => trivial
  | create tenantID displayName mode now =>
    exact (create_quiet tenantID displayName mode now).bind fun _ _ => trivial
  | activate tenantID => exact (transition_quiet _ _ tenantID).bind fun _ _ => trivial
  | suspend tenantID => exact (transition_quiet _ _ tenantID).bind fun _ _ => trivial
  | delete tenantID => exact (transition_quiet _ _ tenantID).bind fun _ _ => trivial

/-- A call that does not write waits for such a statement. -/
theorem quiet_request (silent : call.writes = none)
    (reached : (call.script codec config reader).Reaches seen (.ask request next)) :
    Quiet request :=
  (reached.sends (quiet_sends silent)).1

/-- A statement that any call sends on its own writes neither tuples nor entries. -/
theorem auto_writes {statement : Statement V}
    {cont : Except Err statement.Answer → Script (Statement V) Statement.Answer Err (CallResult V)}
    (reached : (call.script codec config reader).Reaches seen (.ask (.auto statement) cont)) :
    statement.writes = none := by
  cases writes : call.writes with
  | none => exact quiet_request writes reached
  | some owner =>
    -- A write sends its status check on its own, and nothing else.
    cases write_phase writes reached with
    | check => rfl
    | inside kind => exact kind.elim

end Calls

end ZanGuard.Postgres
