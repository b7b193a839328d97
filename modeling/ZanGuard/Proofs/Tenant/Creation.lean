import ZanGuard.Lib.Among
import ZanGuard.Proofs.Api.Listing
import ZanGuard.Proofs.Storage.Regrant
import ZanGuard.Proofs.Tenant.Backends
import ZanGuard.Proofs.Tenant.Lifecycle
import ZanGuard.Storage.PostgresReads

/-! Tenants that were created: when the stored record is the one that was answered. -/

namespace ZanGuard

open Api Transaction

variable {V J χ G W : Type}

/-! ### Records -/

/-- A record that is the same to a caller; the two timestamps are left out. -/
structure Tenant.SameRecord (answered stored : Tenant V) : Prop where
  id : stored.id = answered.id
  displayName : stored.displayName = answered.displayName
  parentTenantID : stored.parentTenantID = answered.parentTenantID
  status : stored.status = answered.status
  schemaMode : stored.schemaMode = answered.schemaMode
  sharedSchemaRef : stored.sharedSchemaRef = answered.sharedSchemaRef
  config : stored.config = answered.config

/-- A tenant is read, and listed under its parent, as it was answered. -/
structure Tenant.StoredAs (answered : Tenant V) (get : Except Err (Tenant V))
    (list : Except Err (List (Tenant V))) : Prop where
  found : ∃ stored, get = .ok stored ∧ answered.SameRecord stored
  listed : answered.parentTenantID ≠ "" →
    ∃ page, list = .ok page ∧ ∃ stored ∈ page, answered.SameRecord stored

/-- The filter for the children of a tenant. -/
def childrenOf (parentID : String) : Option TenantFilter :=
  some { parentID }

/-- The record a request creates at first. -/
def Api.CreateTenantRequest.record (req : CreateTenantRequest) (mode : SchemaMode) (now : Time) :
    Tenant V where
  id := req.id
  displayName := if req.displayName = "" then req.id else req.displayName
  status := .pending
  schemaMode := mode
  config := defaultTenantConfig
  createdAt := now

/-- The record that is answered. -/
def Api.CreateTenantRequest.answer (req : CreateTenantRequest) (mode : SchemaMode) (now : Time) :
    Tenant V :=
  { req.record mode now with
    parentTenantID := req.parentTenantID
    sharedSchemaRef := req.sharedSchemaRef }

/-! ### The request -/

/-- A request that creates a tenant is answered with a record, while others leave its view alone. -/
def TenantBackend.Creates (b : TenantBackend V χ G) (view : G → W) (req : CreateTenantRequest)
    (now : Time) (g : G) (answered : Tenant V) (last : G) : Prop :=
  (handleCreateTenant sharedStore req now).run.RunsAmong b.answer view g (.ok answered) last

/-- What the store has done for such a request. -/
structure TenantBackend.Created (b : TenantBackend V χ G) (view : G → W) (req : CreateTenantRequest)
    (now : Time) (g : G) (answered : Tenant V) (last : G) (mode : SchemaMode) : Prop where
  check : req.check = .ok mode
  named : matchesTenantIDRegexp req.id = true
  answer : answered = req.answer mode now
  stored : ∃ before choice created, view before = view g ∧
    b.serve choice before (.createTenant (req.record mode now)) = (.ok (), created) ∧
      -- The second step is left out when it has nothing to store.
      ((req.parentTenantID = "" ∧ req.sharedSchemaRef = "" ∧ view last = view created) ∨
        ∃ between again updated, view between = view created ∧
          b.serve again between (.updateTenant answered) = (.ok (), updated) ∧
            view last = view updated)

/-- A method that returned was carried out by the store. -/
theorem served_of_answer {b : TenantBackend V χ G} {choice : χ} {g after : G} {call : TenantCall V}
    {answer : call.Answer} (served : b.answer choice g (.auto call) = some (.ok answer, after)) :
    b.serve choice g call = (.ok answer, after) :=
  Option.some.inj served

/-- The store has done all that for a request that was answered with a record. -/
theorem TenantBackend.Creates.created {b : TenantBackend V χ G} {view : G → W}
    {req : CreateTenantRequest} {now : Time} {g last : G} {answered : Tenant V}
    (creates : b.Creates view req now g answered last) :
    ∃ mode, b.Created view req now g answered last mode := by
  unfold TenantBackend.Creates handleCreateTenant at creates
  obtain ⟨mode, checked, check, creates⟩ := Script.RunsAmong.of_bind_ok creates
  -- Checking the request sends nothing, but others may act meanwhile.
  obtain ⟨check, seen⟩ := Script.RunsAmong.of_outcome check
  obtain ⟨t, created, creation, optional⟩ := Script.RunsAmong.of_bind_ok creates
  -- The manager checks the ID and then creates the record.
  obtain ⟨inner, creation, kept⟩ := Script.RunsAmong.of_adapt creation
  unfold Manager.create at creation
  obtain ⟨_, valid, validated, creation⟩ := Script.RunsAmong.of_bind_ok creation
  obtain ⟨validated, still⟩ := Script.RunsAmong.of_outcome validated
  obtain ⟨_, stored, sent, returned⟩ := Script.RunsAmong.of_bind_ok creation
  obtain ⟨direct, sent, same⟩ := Script.RunsAmong.of_adapt sent
  obtain ⟨before, choice, after, earlier, served, left_⟩ := Script.RunsAmong.of_auto sent
  obtain ⟨returned, end_⟩ := Script.RunsAmong.of_done returned
  obtain rfl := Except.ok.inj returned
  -- The manager has refused every other ID.
  have named : matchesTenantIDRegexp req.id = true := by
    unfold validateTenantID at validated
    by_contra mismatch
    rw [if_neg mismatch] at validated
    cases validated
  have first : view before = view g := earlier.trans (still.trans seen)
  have second : view created = view after := kept.trans (end_.trans (same.trans left_))
  unfold storeOptional at optional
  split at optional
  · -- The optional fields are stored in a second step.
    obtain ⟨_, updated, update, returned⟩ := Script.RunsAmong.of_bind_ok optional
    obtain ⟨direct, update, same⟩ := Script.RunsAmong.of_adapt update
    obtain ⟨between, again, later, gap, again_, after_⟩ := Script.RunsAmong.of_auto update
    obtain ⟨returned, last_⟩ := Script.RunsAmong.of_done returned
    obtain rfl := Except.ok.inj returned
    exact ⟨mode, check.symm, named, rfl, before, choice, after, first, served_of_answer served,
      .inr ⟨between, again, later, gap.trans second, served_of_answer again_,
        last_.trans (same.trans after_)⟩⟩
  · rename_i none_
    obtain ⟨noParent, noRef⟩ := not_or.mp none_
    simp only [ne_eq, not_not] at noParent noRef
    -- Without a parent and a reference, the record is answered as it was created.
    obtain ⟨returned, last_⟩ := Script.RunsAmong.of_done optional
    obtain rfl := Except.ok.inj returned
    refine ⟨mode, check.symm, named, ?_, before, choice, after, first, served_of_answer served,
      .inl ⟨noParent, noRef, last_.trans second⟩⟩
    simp only [CreateTenantRequest.answer, noParent, noRef]
    rfl

/-! ### In memory -/

section InMemory

open Memory

/-- The record of a tenant in memory. -/
def Memory.Store.recordOf (tenantID : String) (s : Store V) : Option (Tenant V) :=
  s.tenants.lookup tenantID

/-- The record in memory is the one that was answered. -/
theorem memory_record {req : CreateTenantRequest} {now : Time} {s last : Store V}
    {answered : Tenant V} {mode : SchemaMode}
    (created : Memory.backend.Created (Store.recordOf req.id) req now s answered last mode) :
    ∃ stored, last.recordOf req.id = some stored ∧ answered.SameRecord stored := by
  obtain ⟨before, clock, middle, -, first, rest⟩ := created.stored
  obtain rfl := created.answer
  -- The first step stores a copy of the record, with its two timestamps.
  have stored : ∃ t, middle.recordOf req.id = some t ∧ (req.record mode now).SameRecord t := by
    have inserted : Store.createTenant before (req.record mode now) clock = (.ok (), middle) := first
    unfold Store.createTenant at inserted
    split at inserted
    · cases inserted
    · obtain ⟨-, rfl⟩ := Prod.mk.inj inserted
      refine ⟨_, by rw [Store.recordOf, initTenant_tenants]; exact AList.lookup_insert _, ?_⟩
      exact ⟨rfl, rfl, rfl, rfl, rfl, rfl, rfl⟩
  rcases rest with ⟨noParent, noRef, seen⟩ | ⟨between, again, updated, -, second, seen⟩
  · obtain ⟨t, found, same⟩ := stored
    refine ⟨t, seen.trans found, { same with parentTenantID := ?_, sharedSchemaRef := ?_ }⟩
    · exact same.parentTenantID.trans noParent.symm
    · exact same.sharedSchemaRef.trans noRef.symm
  · -- The second step replaces the record by a copy of what is answered.
    have replaced : Store.updateTenant between (req.answer mode now) again = (.ok (), updated) :=
      second
    unfold Store.updateTenant at replaced
    split at replaced
    · cases replaced
    · obtain ⟨-, rfl⟩ := Prod.mk.inj replaced
      refine ⟨_, seen.trans (AList.lookup_insert _), ?_⟩
      exact ⟨rfl, rfl, rfl, rfl, rfl, rfl, rfl⟩

/-- A record in memory is listed under its parent. -/
theorem mem_children {s : Store V} {tenantID : String} {stored : Tenant V}
    (found : s.recordOf tenantID = some stored) :
    ∃ page, s.listTenants (childrenOf stored.parentTenantID) = .ok page ∧ stored ∈ page := by
  have admitted : Admitted 0 := ⟨le_refl 0, by omega⟩
  have window_ : s.listTenants (childrenOf stored.parentTenantID) =
      .ok (window { parentID := stored.parentTenantID }
        (s.selectTenants (childrenOf stored.parentTenantID))) :=
    applyTenantFilter_window admitted admitted fun limited => absurd limited (lt_irrefl 0)
  refine ⟨_, window_, ?_⟩
  rw [window_eq _ (le_refl 0)]
  have entry := AList.mem_lookup_iff.mp (Option.mem_def.mpr found)
  -- The filter names no status and no page, so only the parent matters.
  simp only [gt_iff_lt, lt_irrefl, if_false, List.take_length, Int.toNat_zero, List.drop_zero,
    Store.selectTenants, childrenOf]
  rw [List.mem_mergeSort]
  exact List.mem_filter.mpr ⟨List.mem_map.mpr ⟨_, entry, rfl⟩, by simp⟩

/-- From memory a tenant is read and listed as it was answered. -/
theorem memory_storedAs {req : CreateTenantRequest} {now : Time} {s last : Store V}
    {answered : Tenant V}
    (creates : Memory.backend.Creates (Store.recordOf req.id) req now s answered last)
    {later : Store V} (kept : later.recordOf req.id = last.recordOf req.id) :
    answered.StoredAs (later.getTenant answered.id)
      (later.listTenants (childrenOf answered.parentTenantID)) := by
  obtain ⟨mode, created⟩ := creates.created
  obtain ⟨stored, found, same⟩ := memory_record created
  -- The record is still there, as nobody else has touched it.
  have named : answered.id = req.id := by rw [created.answer]; rfl
  have there : later.recordOf answered.id = some stored := by rw [named, kept, found]
  constructor
  · exact ⟨stored, by rw [Store.getTenant, show later.tenants.lookup answered.id = some stored from
      there], same⟩
  · intro _
    obtain ⟨page, listed, member⟩ := mem_children there
    rw [same.parentTenantID] at listed
    exact ⟨page, listed, stored, member, same⟩

end InMemory

/-! ### In a database -/

section InDatabase

open Postgres

variable {codec : Codec V J} {config : ConfigCodec V}

/-- The rows with the ID of a tenant. -/
def Postgres.Database.rowsWithID (tenantID : String) (db : Database J) : List TenantRow :=
  db.tenants.filter fun row => decide (row.id.text = tenantID)

/-- A row that holds a record, except for its parent. -/
structure Postgres.TenantRow.Stores (config : ConfigCodec V) (t : Tenant V) (row : TenantRow) :
    Prop where
  id : row.id.text = t.id
  displayName : Varchar.assign 256 t.displayName = .ok row.displayName
  parentTenantID : row.parentTenantID = none
  status : row.status = t.status
  schemaMode : row.schemaMode = t.schemaMode
  sharedSchemaRef : Varchar.assignNullable 128 t.sharedSchemaRef = .ok row.sharedSchemaRef
  config : config.marshal t.config = .ok row.config
  deletedAt : row.deletedAt = none

/-- A valid tenant ID fits its column. -/
theorem fits_tenantID {id : String} (named : matchesTenantIDRegexp id = true) : Fits 128 id := by
  unfold matchesTenantIDRegexp at named
  unfold Fits
  split at named
  · cases named
  · rename_i first rest split_
    split at named
    · cases named
    · rename_i last found
      simp only [Bool.and_eq_true, decide_eq_true_eq, List.all_eq_true] at named
      obtain ⟨⟨⟨firstOk, inner⟩, short⟩, lastOk⟩ := named
      have whole : rest = rest.dropLast ++ [last] := (List.dropLast_append_getLast? last found).symm
      rw [split_, whole]
      -- None of the characters that are allowed is the zero character.
      have zero : isTenantIDAlnum '\x00' = false := by decide
      constructor
      · simp only [List.length_cons, List.length_append, List.length_nil]
        omega
      · intro member
        rcases List.mem_cons.mp member with same | member
        · rw [← same, zero] at firstOk
          cases firstOk
        · rcases List.mem_append.mp member with member | member
          · have allowed := inner _ member
            rw [zero] at allowed
            cases allowed
          · rw [← List.mem_singleton.mp member, zero] at lastOk
            cases lastOk

/-- A mode that passes the checks of a request is stored as it is. -/
theorem assignSchemaMode_checked {req : CreateTenantRequest} {mode : SchemaMode}
    (checked : req.check = .ok mode) : assignSchemaMode mode = .ok mode := by
  cases mode with
  | own | shared | inherited => rfl
  | other text =>
    -- The checks let no other mode pass.
    unfold CreateTenantRequest.check at checked
    split at checked
    · cases checked
    · split at checked
      · cases checked
      · split at checked
        · cases checked
        · cases checked
      · rename_i declared _
        exact (declared text (Except.ok.inj checked)).elim

/-- A method that was served has returned, and left what is committed. -/
theorem from_of_serve {choice : Time × Option Err} {db after : Database J} {call : TenantCall V}
    {answer : call.Answer}
    (served : (backend codec config).serve choice db call = (.ok answer, after)) :
    ∃ session : Session (Database J), session.committed = after ∧
      Client.from (server codec choice.1) (method config choice.1 call) (.idle db) =
        (.ok answer, session) := by
  -- A call that is cut off has not returned.
  have ran : Database.serve codec config choice db call = (.ok answer, after) := served
  unfold Database.serve at ran
  split at ran
  · cases ran
  · obtain ⟨returned, kept⟩ := Prod.mk.inj ran
    exact ⟨_, kept, Prod.ext returned rfl⟩

/-- A tenant that was created was inserted. -/
theorem serve_createTenant {choice : Time × Option Err} {db created : Database J} {tenant : Tenant V}
    (served : (backend codec config).serve choice db (.createTenant tenant) = (.ok (), created)) :
    ∃ configJSON, config.marshal tenant.config = .ok configJSON ∧ ∃ answer : Nat,
      Statement.exec codec choice.1 (.insertTenant tenant configJSON choice.1) db =
        .ok (answer, created) := by
  obtain ⟨session, rfl, ran⟩ := from_of_serve served
  -- The insert is the one statement of the method.
  have ran : Client.from (server codec choice.1) (createTenant config tenant choice.1) (.idle db) =
      (.ok (), session) := ran
  unfold createTenant at ran
  obtain ⟨configJSON, _, marshalled, ran⟩ := Client.of_bind_ok _ _ ran
  obtain ⟨text, rfl⟩ := Prod.mk.inj marshalled
  obtain ⟨answer, _, sent, last⟩ := Client.of_bind_ok _ _ ran
  obtain ⟨data, executed, rfl⟩ := Client.of_auto_ok _ _ (Client.of_adapt_ok _ _ sent)
  obtain ⟨-, rfl⟩ := Prod.mk.inj last
  exact ⟨configJSON, Except.of_mapError_ok text, answer, executed⟩

/-- A tenant that was updated has a row, which was overwritten. -/
theorem serve_updateTenant {choice : Time × Option Err} {db updated : Database J} {tenant : Tenant V}
    (served : (backend codec config).serve choice db (.updateTenant tenant) = (.ok (), updated)) :
    ∃ configJSON, config.marshal tenant.config = .ok configJSON ∧ ∃ answer : Nat,
      Statement.exec codec choice.1 (.updateTenant tenant configJSON) db = .ok (answer, updated) := by
  obtain ⟨session, rfl, ran⟩ := from_of_serve served
  have ran : Client.from (server codec choice.1) (updateTenant config tenant) (.idle db) =
      (.ok (), session) := ran
  unfold updateTenant at ran
  obtain ⟨configJSON, _, marshalled, ran⟩ := Client.of_bind_ok _ _ ran
  obtain ⟨text, rfl⟩ := Prod.mk.inj marshalled
  obtain ⟨answer, _, sent, last⟩ := Client.of_bind_ok _ _ ran
  obtain ⟨data, executed, rfl⟩ := Client.of_auto_ok _ _ sent
  -- The number of rows is looked at when the statement is done.
  have kept : session = { committed := data, work := none } := by
    dsimp only at last
    split at last
    · cases last
    · exact (Prod.mk.inj last).2.symm
  subst kept
  exact ⟨configJSON, Except.of_mapError_ok text, answer, executed⟩

/-- After its creation a tenant has one row, which stores the record that is created. -/
theorem insertTenant_row {now created : Time} {db after : Database J} {tenant : Tenant V}
    {configJSON : String} {answer : Nat}
    (ran : Statement.exec codec now (.insertTenant tenant configJSON created) db =
      .ok (answer, after))
    (marshalled : config.marshal tenant.config = .ok configJSON) (named : Fits 128 tenant.id)
    (parentless : tenant.parentTenantID = "") (pending : tenant.status = .pending)
    (mode : assignSchemaMode tenant.schemaMode = .ok tenant.schemaMode) :
    ∃ row, after.rowsWithID tenant.id = [row] ∧ row.Stores config tenant := by
  obtain ⟨row, built, free, rfl⟩ := exec_insertTenant ran
  have columns := TenantRow.built built
  have id := Varchar.assigned_text named columns.id
  -- No row had the ID before.
  have absent : db.tenants.filter (fun other => decide (other.id.text = tenant.id)) = [] := by
    refine List.filter_eq_nil_iff.mpr fun other stored => ?_
    have apart := List.any_eq_false.mp free other stored
    rw [id] at apart
    exact apart
  have status := columns.status
  have schemaMode := columns.schemaMode
  have parent := columns.parentTenantID
  rw [pending] at status
  rw [mode] at schemaMode
  rw [parentless] at parent
  refine ⟨row, by simp [Database.rowsWithID, absent, id], ?_⟩
  exact {
    id
    displayName := columns.displayName
    parentTenantID := (Except.ok.inj parent).symm
    status := by rw [pending]; exact (Except.ok.inj status).symm
    schemaMode := (Except.ok.inj schemaMode).symm
    sharedSchemaRef := columns.sharedSchemaRef
    config := by rw [marshalled, columns.config]
    deletedAt := columns.deletedAt }

/-- An update leaves one row, which stores the record except for its parent. -/
theorem updateTenant_row {now : Time} {db after : Database J} {tenant before : Tenant V}
    {configJSON : String} {answer : Nat} {row : TenantRow}
    (ran : Statement.exec codec now (.updateTenant tenant configJSON) db = .ok (answer, after))
    (marshalled : config.marshal tenant.config = .ok configJSON)
    (rows : db.rowsWithID tenant.id = [row]) (stores : row.Stores config before)
    (pending : tenant.status = .pending)
    (mode : assignSchemaMode tenant.schemaMode = .ok tenant.schemaMode) :
    ∃ row, after.rowsWithID tenant.id = [row] ∧ row.Stores config tenant := by
  obtain ⟨-, -, ran⟩ := Except.of_bind_ok ran
  obtain ⟨columns, built, ran⟩ := Except.of_bind_ok ran
  obtain rfl := (Prod.mk.inj (Except.ok.inj ran)).2
  have assigned := TenantRow.built built
  have own : row.id.text = tenant.id := by
    have member : row ∈ db.rowsWithID tenant.id := rows ▸ List.mem_singleton_self row
    simpa using (List.mem_filter.mp member).2
  have status := assigned.status
  have schemaMode := assigned.schemaMode
  rw [pending] at status
  rw [mode] at schemaMode
  refine ⟨row.update columns, ?_, ?_⟩
  · -- The ID is not among the columns that are set.
    have same : ((fun other : TenantRow => decide (other.id.text = tenant.id)) ∘ fun other =>
        if other.id.text = tenant.id then other.update columns else other) =
          fun other => decide (other.id.text = tenant.id) := by
      funext other
      simp only [Function.comp]
      split <;> rfl
    unfold Database.rowsWithID at rows ⊢
    rw [List.filter_map, same, rows]
    simp [own]
  · exact {
      id := own
      displayName := assigned.displayName
      parentTenantID := stores.parentTenantID
      status := by rw [pending]; exact (Except.ok.inj status).symm
      schemaMode := (Except.ok.inj schemaMode).symm
      sharedSchemaRef := assigned.sharedSchemaRef
      config := by rw [marshalled]; exact congrArg Except.ok assigned.config.symm
      deletedAt := stores.deletedAt }

/-- What is left of a request in the database stores the record that was answered. -/
theorem postgres_row {req : CreateTenantRequest} {now : Time} {db last : Database J}
    {answered : Tenant V} {mode : SchemaMode}
    (created : (backend codec config).Created (Database.rowsWithID req.id) req now db answered last
      mode) :
    ∃ row, last.rowsWithID req.id = [row] ∧ row.Stores config answered := by
  obtain ⟨before, choice, middle, -, first, rest⟩ := created.stored
  obtain rfl := created.answer
  -- The status is pending and the mode is checked, so both are stored as they are.
  have checked := assignSchemaMode_checked created.check
  obtain ⟨configJSON, marshalled, answer, inserted⟩ := serve_createTenant first
  obtain ⟨row, rows, stores⟩ := insertTenant_row inserted marshalled
    (fits_tenantID created.named) rfl rfl checked
  rcases rest with ⟨-, noRef, seen⟩ | ⟨between, again, updated, kept, second, seen⟩
  · -- Without a second step, the reference is empty in both.
    refine ⟨row, seen.trans rows, { stores with sharedSchemaRef := ?_ }⟩
    rw [show (req.answer mode now : Tenant V).sharedSchemaRef = "" from noRef]
    exact stores.sharedSchemaRef
  · obtain ⟨configJSON, marshalled, answer, overwritten⟩ := serve_updateTenant second
    obtain ⟨row, rows, stores⟩ := updateTenant_row overwritten marshalled (kept.trans rows) stores rfl
      checked
    exact ⟨row, seen.trans rows, stores⟩

/-- A row that stores a record is read as the record, without its parent. -/
theorem serve_getTenant (codec : Codec V J) {tenantID : String} {row : TenantRow} {t : Tenant V}
    {db : Database J} (clean : '\x00' ∉ tenantID.toList) (rows : db.rowsWithID tenantID = [row])
    (stores : row.Stores config t) {resolved : TenantConfig V}
    (unmarshalled : config.unmarshal row.config = .ok resolved) (now : Time) :
    ((backend codec config).serve (now, none) db (.getTenant tenantID)).1 = .ok {
      id := row.id.text
      displayName := row.displayName.text
      parentTenantID := ""
      status := row.status
      schemaMode := row.schemaMode
      sharedSchemaRef := Varchar.coalesce row.sharedSchemaRef
      config := resolved
      createdAt := row.createdAt
      updatedAt := row.updatedAt } := by
  -- No other row has the ID, and this one is not deleted.
  have found : db.tenantRow tenantID = some row := by
    have narrowed : db.tenantRow tenantID =
        (db.rowsWithID tenantID).find? fun row => decide (row.deletedAt = none) := by
      simp [Database.tenantRow, Database.rowsWithID, List.find?_filter]
    rw [narrowed, rows]
    simp [stores.deletedAt]
  have query : (server codec now).exec (Statement.selectTenant tenantID)
      (Session.idle db).committed = .ok (some row, db) := by
    show Statement.exec codec now (.selectTenant tenantID) db = _
    simp only [Statement.exec, bindTexts, clean, found, List.any_cons, List.any_nil, decide_false,
      Bool.or_false, Bool.false_eq_true, if_false, bind, Except.bind, pure, Except.pure]
  have read := Client.from_auto (server codec now) (.idle db) query
  -- The empty parent of the row is read as an empty text.
  show (Client.from (server codec now) (getTenant config tenantID) (.idle db)).1 = _
  unfold getTenant
  have adapted : Client.from (server codec now)
      ((auto (Statement.selectTenant tenantID)).adapt Err.getTenant) (.idle db) =
        (.ok (some row), .idle db) := by
    rw [Client.from_adapt, read]
    rfl
  rw [Client.from_bind_ok _ _ adapted]
  simp only [unmarshalled, stores.parentTenantID, Varchar.coalesce]
  rfl

/-- The texts that a request leaves in columns of their own are short enough. -/
def Api.CreateTenantRequest.Short (req : CreateTenantRequest) : Prop :=
  req.displayName.toList.length ≤ 256 ∧ req.sharedSchemaRef.toList.length ≤ 128

/-- A valid ID that stands for the display name fits its column as well. -/
theorem displayName_short {req : CreateTenantRequest} (mode : SchemaMode) (now : Time)
    (named : matchesTenantIDRegexp req.id = true) :
    (req.answer mode now : Tenant V).displayName.toList.length ≤ 256 ↔
      req.displayName.toList.length ≤ 256 := by
  show (if req.displayName = "" then req.id else req.displayName).toList.length ≤ 256 ↔ _
  split
  · rename_i empty
    -- The ID stands for an empty name, and it is shorter than the column.
    have short := (fits_tenantID named).1
    rw [empty]
    exact iff_of_true (by omega) (Nat.zero_le _)
  · rfl

/-- From a database a tenant is read as it was answered exactly when it has no parent and fits. -/
theorem postgres_storedAs_iff (codec : Codec V J)
    (lossless : ∀ text, config.marshal defaultTenantConfig = .ok text →
      config.unmarshal text = .ok defaultTenantConfig)
    (req : CreateTenantRequest) {now : Time} {db last : Database J} {answered : Tenant V}
    (creates : (backend codec config).Creates (Database.rowsWithID req.id) req now db answered last)
    {later : Database J} (kept : later.rowsWithID req.id = last.rowsWithID req.id) (instant : Time)
    (collate : String → String → Bool) :
    answered.StoredAs ((backend codec config).serve (instant, none) later (.getTenant answered.id)).1
        (later.listTenants config collate (childrenOf answered.parentTenantID)) ↔
      req.parentTenantID = "" ∧ req.Short := by
  obtain ⟨mode, created⟩ := creates.created
  obtain ⟨row, rows, stores⟩ := postgres_row created
  have named := created.named
  obtain rfl := created.answer
  have read := serve_getTenant codec (fits_tenantID named).2 (kept.trans rows) stores
    (lossless _ stores.config) instant
  -- A text is stored whole exactly when it is no longer than its column.
  have displayName := (Varchar.assigned_iff stores.displayName).trans
    (displayName_short mode now named)
  have sharedSchemaRef := Varchar.assignedNullable_iff stores.sharedSchemaRef
  constructor
  · intro storedAs
    obtain ⟨stored, found, same⟩ := storedAs.found
    obtain rfl := Except.ok.inj (read.symm.trans found)
    exact ⟨same.parentTenantID.symm, displayName.mp same.displayName,
      sharedSchemaRef.mp same.sharedSchemaRef⟩
  · rintro ⟨noParent, short, shortRef⟩
    constructor
    · exact ⟨_, read, {
        id := stores.id
        displayName := displayName.mpr short
        parentTenantID := noParent.symm
        status := stores.status
        schemaMode := stores.schemaMode
        sharedSchemaRef := sharedSchemaRef.mpr shortRef
        config := rfl }⟩
    · -- Without a parent there is nothing to be listed under.
      intro parent
      exact absurd noParent parent

end InDatabase

/--
A created tenant is stored as it was answered in memory, and in a database unless it has a parent.

The update that stores the optional fields does not set the parent, and longer texts are cut.
-/
theorem created_tenant_stored_iff (config : Postgres.ConfigCodec V)
    (lossless : ∀ text, config.marshal defaultTenantConfig = .ok text →
      config.unmarshal text = .ok defaultTenantConfig) (req : CreateTenantRequest) (now : Time) :
    (∀ (s last later : Memory.Store V) (answered : Tenant V),
      Memory.backend.Creates (Memory.Store.recordOf req.id) req now s answered last →
      later.recordOf req.id = last.recordOf req.id →
      answered.StoredAs (later.getTenant answered.id)
        (later.listTenants (childrenOf answered.parentTenantID))) ∧
    ∀ (codec : Postgres.Codec V J) (db last later : Postgres.Database J) (answered : Tenant V),
      (Postgres.backend codec config).Creates (Postgres.Database.rowsWithID req.id) req now db answered
        last →
      later.rowsWithID req.id = last.rowsWithID req.id →
      ∀ (instant : Time) (collate : String → String → Bool),
      (answered.StoredAs
          ((Postgres.backend codec config).serve (instant, none) later (.getTenant answered.id)).1
          (later.listTenants config collate (childrenOf answered.parentTenantID)) ↔
        req.parentTenantID = "" ∧ req.Short) := by
  constructor
  · intro s last later answered creates kept
    exact memory_storedAs creates kept
  · intro codec db last later answered creates kept instant collate
    exact postgres_storedAs_iff codec lossless req creates kept instant collate

/-- The default configuration is read back from the text it is written as. -/
theorem defaultConfigCodec_lossless (text : String)
    (marshalled : defaultConfigCodec.marshal defaultTenantConfig = .ok text) :
    defaultConfigCodec.unmarshal text = .ok defaultTenantConfig := by
  obtain rfl : defaultConfigJSON = text := Except.ok.inj marshalled
  rfl

/-- A request without optional fields. -/
def teamRequest : CreateTenantRequest :=
  { id := "team-a", displayName := "Team A" }

/-- The store in memory after the request. -/
def teamStore : Memory.Store Empty :=
  (Memory.backend.serve (fun _ => 5) .new (.createTenant (teamRequest.record .own 5))).2

/-- The database after the request. -/
def teamDatabase : Postgres.Database String :=
  (defaultBackend.serve (5, none) Postgres.twoGrants (.createTenant (teamRequest.record .own 5))).2

/-- The tenant is read back from both. -/
theorem created_tenant_stored_iff_team :
    (teamRequest.answer .own 5).StoredAs (teamStore.getTenant "team-a")
        (teamStore.listTenants (childrenOf "")) ∧
      (teamRequest.answer .own 5).StoredAs
        (defaultBackend.serve (7, none) teamDatabase (.getTenant "team-a")).1
        (teamDatabase.listTenants defaultConfigCodec (fun a b => decide (a ≤ b)) (childrenOf "")) := by
  obtain ⟨memory, postgres⟩ := created_tenant_stored_iff (J := String) defaultConfigCodec
    defaultConfigCodec_lossless teamRequest 5
  constructor
  · have served : Memory.backend.answer (fun _ => 5) .new
        (.auto (.createTenant (teamRequest.record .own 5))) = some (.ok (), teamStore) := rfl
    exact memory .new teamStore teamStore _ (.answered served (.done _ _)) rfl
  · have served : defaultBackend.answer (5, none) Postgres.twoGrants
        (.auto (.createTenant (teamRequest.record .own 5))) = some (.ok (), teamDatabase) := rfl
    refine (postgres Postgres.emptyCodec Postgres.twoGrants teamDatabase teamDatabase _
      (.answered served (.done _ _)) rfl 7 _).mpr ?_
    exact ⟨rfl, by decide, by decide⟩

/-- The same request for a child of a tenant. -/
def childRequest : CreateTenantRequest :=
  { teamRequest with parentTenantID := "acme" }

/-- The database after this request. -/
def childDatabase : Postgres.Database String :=
  (defaultBackend.serve (6, none) teamDatabase (.updateTenant (childRequest.answer .own 5))).2

/-- It is answered with the parent, but the tenant is stored without it. -/
theorem parent_not_stored :
    defaultBackend.Creates (Postgres.Database.rowsWithID "team-a") childRequest 5 Postgres.twoGrants
        (childRequest.answer .own 5) childDatabase ∧
      ¬ (childRequest.answer .own 5).StoredAs
        (defaultBackend.serve (7, none) childDatabase (.getTenant "team-a")).1
        (childDatabase.listTenants defaultConfigCodec (fun a b => decide (a ≤ b))
          (childrenOf "acme")) := by
  have created : defaultBackend.answer (5, none) Postgres.twoGrants
      (.auto (.createTenant (childRequest.record .own 5))) = some (.ok (), teamDatabase) := rfl
  -- The update carries the parent, but its statement has no column for it.
  have updated : defaultBackend.answer (6, none) teamDatabase
      (.auto (.updateTenant (childRequest.answer .own 5))) = some (.ok (), childDatabase) := rfl
  have creates : defaultBackend.Creates (Postgres.Database.rowsWithID "team-a") childRequest 5
      Postgres.twoGrants (childRequest.answer .own 5) childDatabase :=
    .answered created (.answered updated (.done _ _))
  refine ⟨creates, fun storedAs => ?_⟩
  have exact_ := postgres_storedAs_iff Postgres.emptyCodec defaultConfigCodec_lossless childRequest
    creates rfl 7 fun a b => decide (a ≤ b)
  exact absurd (exact_.mp storedAs).1 (by decide)

end ZanGuard
