import ZanGuard.Lib.Fallible
import ZanGuard.Storage.Postgres
import ZanGuard.Tenant.Lifecycle

/-! The two stores as backends of the tenant lifecycle: which statuses their methods change. -/

namespace ZanGuard

variable {V J : Type}

namespace Memory

/-- Answer a method call at a clock. -/
def Store.serve (clock : Clock) (s : Store V) : (call : TenantCall V) → Except Err call.Answer × Store V
  | .createTenant tenant => s.createTenant tenant clock
  | .getTenant tenantID => (s.getTenant tenantID, s)
  | .updateTenant tenant => s.updateTenant tenant clock

/-- Opening buckets leaves every tenant record alone. -/
theorem initTenant_tenants (s : Store V) (tenantID : String) :
    (s.initTenant tenantID).tenants = s.tenants := by
  unfold Store.initTenant
  split <;> rfl

/-- The in-memory store, which takes the lock for one method call at a time. -/
def backend : TenantBackend V Clock (Store V) where
  serve := Store.serve
  statusOf := Store.statusOf
  getTenant_keeps _ _ _ := rfl
  createTenant_status := by
    intro clock s tenant tenantID _
    simp only [Store.serve, Store.createTenant]
    split
    · exact .inl rfl
    · rename_i absent
      simp only [Store.statusOf, initTenant_tenants]
      -- The record goes under the tenant's own ID, where there was none.
      by_cases same : tenantID = tenant.id
      · subst same
        right
        simp [absent]
      · left
        rw [AList.lookup_insert_ne same]
  updateTenant_status := by
    intro clock s tenant tenantID _
    simp only [Store.serve, Store.updateTenant]
    split
    · exact .inl rfl
    · rename_i found
      by_cases same : tenantID = tenant.id
      · subst same
        right
        simp [Store.statusOf, found]
      · left
        simp only [Store.statusOf, AList.lookup_insert_ne same]

end Memory

namespace Postgres

variable (codec : Codec V J) (config : ConfigCodec V)

/-- The method a call runs. -/
def method (now : Time) : (call : TenantCall V) → StoreM V call.Answer
  | .createTenant tenant => createTenant config tenant now
  | .getTenant tenantID => getTenant config tenantID
  | .updateTenant tenant => updateTenant config tenant

/-- Run a method call on its own, unless the server cannot be reached. -/
def Database.serve (choice : Time × Option Err) (db : Database J) (call : TenantCall V) :
    Except Err call.Answer × Database J :=
  match choice.2 with
  | some e => (.error e, db)
  | none =>
    let outcome := Transaction.Client.from (server codec choice.1) (method config choice.1 call)
      (.idle db)
    (outcome.1, outcome.2.committed)

variable {codec config}

/-- A marshalled configuration comes before the statement, and without one nothing is sent. -/
theorem committed_marshalled {α : Type} (now : Time) (db : Database J) (marshalled : Except Err String)
    (next : String → StoreM V α) :
    (Transaction.Client.from (server codec now) (ExceptT.mk (pure marshalled) >>= next)
        (.idle db)).2.committed = db ∨
      ∃ configJSON, (Transaction.Client.from (server codec now) (ExceptT.mk (pure marshalled) >>= next)
        (.idle db)) = Transaction.Client.from (server codec now) (next configJSON) (.idle db) := by
  -- The configuration is marshalled by the client.
  rw [Transaction.Client.from_bind, Transaction.Client.from_outcome]
  cases marshalled with
  | error e => exact .inl rfl
  | ok configJSON => exact .inr ⟨configJSON, rfl⟩

/-- What creating a tenant leaves committed. -/
theorem committed_createTenant (now : Time) (db : Database J) (tenant : Tenant V) :
    (Transaction.Client.from (server codec now) (createTenant config tenant now)
        (.idle db)).2.committed = db ∨
      ∃ configJSON answer data,
        Statement.exec codec now (.insertTenant tenant configJSON now) db = .ok (answer, data) ∧
        (Transaction.Client.from (server codec now) (createTenant config tenant now)
          (.idle db)).2.committed = data := by
  -- Only the insert can leave something behind.
  unfold createTenant
  obtain kept | ⟨configJSON, sent⟩ := committed_marshalled now db
    ((config.marshal tenant.config).mapError .marshal) _
  · exact .inl kept
  · rw [sent, Transaction.Client.from_bind_silent _ _ (fun _ _ => rfl),
      Transaction.Client.from_adapt]
    obtain kept | ⟨answer, data, ran, left⟩ := Transaction.Client.committed_auto (server codec now)
      (.idle db) (Statement.insertTenant tenant configJSON now)
    · exact .inl kept
    · exact .inr ⟨configJSON, answer, data, ran, left⟩

/-- What updating a tenant leaves committed. -/
theorem committed_updateTenant (now : Time) (db : Database J) (tenant : Tenant V) :
    (Transaction.Client.from (server codec now) (updateTenant config tenant)
        (.idle db)).2.committed = db ∨
      ∃ configJSON answer data,
        Statement.exec codec now (.updateTenant tenant configJSON) db = .ok (answer, data) ∧
        (Transaction.Client.from (server codec now) (updateTenant config tenant)
          (.idle db)).2.committed = data := by
  unfold updateTenant
  obtain kept | ⟨configJSON, sent⟩ := committed_marshalled now db
    ((config.marshal tenant.config).mapError .marshal) _
  · exact .inl kept
  · -- The number of rows is looked at when the statement is done.
    have silent : ∀ (tag : (Statement.updateTenant tenant configJSON).Answer) after,
        (Transaction.Client.from (server codec now)
          (do
            let rowsAffected : Nat := tag
            if rowsAffected = 0 then throw .tenantNotFound : StoreM V Unit) after).2 = after := by
      intro tag after
      dsimp only
      split <;> rfl
    rw [sent, Transaction.Client.from_bind_silent _ _ silent]
    obtain kept | ⟨answer, data, ran, left⟩ := Transaction.Client.committed_auto (server codec now)
      (.idle db) (Statement.updateTenant tenant configJSON)
    · exact .inl kept
    · exact .inr ⟨configJSON, answer, data, ran, left⟩

/-- Reading a tenant leaves everything as it is. -/
theorem committed_getTenant (now : Time) (db : Database J) (tenantID : String) :
    (Transaction.Client.from (server codec now) (getTenant config tenantID)
      (.idle db)).2.committed = db := by
  -- A query changes nothing, and what follows it sends nothing.
  unfold getTenant
  rw [Transaction.Client.from_bind_silent, Transaction.Client.from_adapt]
  · obtain kept | ⟨answer, data, ran, left⟩ := Transaction.Client.committed_auto (server codec now)
      (.idle db) (Statement.selectTenant tenantID)
    · exact kept
    · obtain ⟨-, -, ran⟩ := Except.of_bind_ok ran
      rw [left, ← (Prod.mk.inj (Except.ok.inj ran)).2]
      rfl
  · intro found after
    cases (found : Option TenantRow) with
    | none => rfl
    | some row =>
      rw [Transaction.Client.from_bind_silent]
      · rfl
      · exact fun _ _ => rfl

/-- A declared status is stored as it is. -/
theorem assignStatus_declared {status : TenantStatus} (declared : status.Declared) :
    assignStatus status = .ok status := by
  cases status with
  | other text => exact declared.elim
  | pending | active | suspended | deleted => rfl

/-- What the columns of a row hold that is built for a tenant. -/
structure TenantRow.Built (tenant : Tenant V) (configJSON : String) (row : TenantRow) : Prop where
  id : Varchar.assign 128 tenant.id = .ok row.id
  displayName : Varchar.assign 256 tenant.displayName = .ok row.displayName
  parentTenantID : Varchar.assignNullable 128 tenant.parentTenantID = .ok row.parentTenantID
  status : assignStatus tenant.status = .ok row.status
  schemaMode : assignSchemaMode tenant.schemaMode = .ok row.schemaMode
  sharedSchemaRef : Varchar.assignNullable 128 tenant.sharedSchemaRef = .ok row.sharedSchemaRef
  config : row.config = configJSON
  deletedAt : row.deletedAt = none

/-- Every row is built that way. -/
theorem TenantRow.built {tenant : Tenant V} {configJSON : String} {now : Time} {row : TenantRow}
    (built : TenantRow.build codec tenant configJSON now = .ok row) :
    row.Built tenant configJSON := by
  -- The columns are assigned one after the other.
  unfold TenantRow.build at built
  obtain ⟨_, -, built⟩ := Except.of_bind_ok built
  obtain ⟨_, id, built⟩ := Except.of_bind_ok built
  obtain ⟨_, displayName, built⟩ := Except.of_bind_ok built
  obtain ⟨_, parentTenantID, built⟩ := Except.of_bind_ok built
  obtain ⟨_, status, built⟩ := Except.of_bind_ok built
  obtain ⟨_, schemaMode, built⟩ := Except.of_bind_ok built
  obtain ⟨_, sharedSchemaRef, built⟩ := Except.of_bind_ok built
  obtain rfl := Except.ok.inj built
  exact ⟨id, displayName, parentTenantID, status, schemaMode, sharedSchemaRef, rfl, rfl⟩

/-- A row that is built holds the status of its tenant, and is not soft-deleted. -/
theorem build_status {tenant : Tenant V} {configJSON : String} {now : Time} {row : TenantRow}
    (built : TenantRow.build codec tenant configJSON now = .ok row)
    (declared : tenant.status.Declared) :
    row.status = tenant.status ∧ row.deletedAt = none := by
  have columns := TenantRow.built built
  have status := columns.status
  rw [assignStatus_declared declared] at status
  exact ⟨(Except.ok.inj status).symm, columns.deletedAt⟩

/-- The status of a tenant after a row was added under an ID nobody had. -/
theorem statusOf_append {db : Database J} {row : TenantRow} (kept : row.deletedAt = none)
    (free : db.tenants.any (·.id.text = row.id.text) = false) (tenantID : String) :
    ({ db with tenants := db.tenants ++ [row] } : Database J).statusOf tenantID =
        db.statusOf tenantID ∨
      db.statusOf tenantID = none ∧
        ({ db with tenants := db.tenants ++ [row] } : Database J).statusOf tenantID =
          some row.status := by
  -- The new row is the only one with its ID.
  by_cases same : row.id.text = tenantID
  · subst same
    have absent : db.tenants.find? (fun other =>
        decide (other.id.text = row.id.text) && decide (other.deletedAt = none)) = none := by
      refine List.find?_eq_none.mpr fun other member => ?_
      have apart := List.any_eq_false.mp free other member
      simp only [decide_eq_true_eq] at apart
      simp [apart]
    refine .inr ⟨by simp [Database.statusOf, absent], ?_⟩
    simp [Database.statusOf, List.find?_append, absent, kept]
  · left
    simp [Database.statusOf, List.find?_append, same]

/-- The status of a tenant after the columns of some rows were updated. -/
theorem statusOf_update (db : Database J) (columns : TenantRow) (updated tenantID : String) :
    ({ db with
        tenants := db.tenants.map fun row =>
          if row.id.text = updated then row.update columns else row } : Database J).statusOf tenantID =
        db.statusOf tenantID ∨
      tenantID = updated ∧ (db.statusOf tenantID).isSome = true ∧
        ({ db with
          tenants := db.tenants.map fun row =>
            if row.id.text = updated then row.update columns else row } : Database J).statusOf
              tenantID = some columns.status := by
  -- An update sets neither the ID nor `deleted_at`, so the same row is found.
  have found : ∀ rows : List TenantRow,
      (rows.map fun row => if row.id.text = updated then row.update columns else row).find?
          (fun row => decide (row.id.text = tenantID) && decide (row.deletedAt = none)) =
        (rows.find? fun row => decide (row.id.text = tenantID) && decide (row.deletedAt = none)).map
          fun row => if row.id.text = updated then row.update columns else row := by
    intro rows
    rw [List.find?_map]
    congr 2
    funext row
    simp only [Function.comp]
    split <;> rfl
  simp only [Database.statusOf, found]
  cases old : db.tenants.find? fun row =>
      decide (row.id.text = tenantID) && decide (row.deletedAt = none) with
  | none => exact .inl rfl
  | some row =>
    have named := List.find?_some old
    simp only [Bool.and_eq_true, decide_eq_true_eq] at named
    by_cases same : tenantID = updated
    · refine .inr ⟨same, rfl, ?_⟩
      simp [named.1, same, TenantRow.update]
    · left
      simp [named.1, same]

/-- An insert that succeeds adds the row of its tenant, under an ID nobody had. -/
theorem exec_insertTenant {tenant : Tenant V} {configJSON : String} {now created : Time}
    {db data : Database J} {answer : Nat}
    (ran : Statement.exec codec now (.insertTenant tenant configJSON created) db =
      .ok (answer, data)) :
    ∃ row, TenantRow.build codec tenant configJSON created = .ok row ∧
      db.tenants.any (·.id.text = row.id.text) = false ∧
      data = { db with tenants := db.tenants ++ [row] } := by
  obtain ⟨row, built, ran⟩ := Except.of_bind_ok ran
  cases taken : db.tenants.any (·.id.text = row.id.text) with
  | true => simp [taken, bind, Except.bind] at ran
  | false =>
    simp only [taken, Bool.false_eq_true, if_false] at ran
    refine ⟨row, built, taken, ?_⟩
    -- The check of the parent comes last and changes nothing.
    split at ran
    · obtain ⟨-, -, ran⟩ := Except.of_bind_ok ran
      exact (Prod.mk.inj (Except.ok.inj ran)).2.symm
    · exact (Prod.mk.inj (Except.ok.inj ran)).2.symm

/-- The status of a tenant after a tenant was inserted. -/
theorem exec_insertTenant_status {tenant : Tenant V} (declared : tenant.status.Declared)
    {configJSON : String} {now created : Time} {db data : Database J} {answer : Nat}
    (ran : Statement.exec codec now (.insertTenant tenant configJSON created) db =
      .ok (answer, data)) (tenantID : String) :
    data.statusOf tenantID = db.statusOf tenantID ∨
      db.statusOf tenantID = none ∧ data.statusOf tenantID = some tenant.status := by
  obtain ⟨row, built, free, rfl⟩ := exec_insertTenant ran
  obtain ⟨status, kept⟩ := build_status built declared
  rw [← status]
  exact statusOf_append kept free tenantID

/-- The status of a tenant after a tenant was updated. -/
theorem exec_updateTenant_status {tenant : Tenant V} (declared : tenant.status.Declared)
    {configJSON : String} {now : Time} {db data : Database J} {answer : Nat}
    (ran : Statement.exec codec now (.updateTenant tenant configJSON) db = .ok (answer, data))
    (tenantID : String) :
    data.statusOf tenantID = db.statusOf tenantID ∨
      tenantID = tenant.id ∧ (db.statusOf tenantID).isSome = true ∧
        data.statusOf tenantID = some tenant.status := by
  -- The columns hold the status that was asked for.
  obtain ⟨-, -, ran⟩ := Except.of_bind_ok ran
  obtain ⟨columns, built, ran⟩ := Except.of_bind_ok ran
  obtain ⟨status, -⟩ := build_status built declared
  obtain rfl := (Prod.mk.inj (Except.ok.inj ran)).2
  have updated := statusOf_update db columns tenant.id tenantID
  rwa [status] at updated

variable (codec config)

/-- The Postgres store, each of whose tenant methods sends one statement that commits on its own. -/
def backend : TenantBackend V (Time × Option Err) (Database J) where
  serve := Database.serve codec config
  statusOf := Database.statusOf
  getTenant_keeps := by
    rintro ⟨now, failure⟩ db tenantID
    cases failure with
    | some e => rfl
    | none => exact committed_getTenant now db tenantID
  createTenant_status := by
    rintro ⟨now, failure⟩ db tenant tenantID declared
    cases failure with
    | some e => exact .inl rfl
    | none =>
      show Database.statusOf (Transaction.Client.from _ (createTenant config tenant now) _).2.committed
          tenantID = _ ∨ _ ∧ Database.statusOf (Transaction.Client.from _
            (createTenant config tenant now) _).2.committed tenantID = _
      obtain kept | ⟨configJSON, answer, data, ran, left⟩ :=
        committed_createTenant now db tenant
      · rw [kept]
        exact .inl rfl
      · rw [left]
        exact exec_insertTenant_status declared ran tenantID
  updateTenant_status := by
    rintro ⟨now, failure⟩ db tenant tenantID declared
    cases failure with
    | some e => exact .inl rfl
    | none =>
      show Database.statusOf (Transaction.Client.from _ (updateTenant config tenant) _).2.committed
          tenantID = _ ∨ _ ∧ _ ∧ Database.statusOf (Transaction.Client.from _
            (updateTenant config tenant) _).2.committed tenantID = _
      obtain kept | ⟨configJSON, answer, data, ran, left⟩ :=
        committed_updateTenant now db tenant
      · rw [kept]
        exact .inl rfl
      · rw [left]
        exact exec_updateTenant_status declared ran tenantID

end Postgres

end ZanGuard
