import Mathlib.Data.List.Sort
import ZanGuard.Lib.Transaction
import ZanGuard.Model.Tenant
import ZanGuard.Model.Tuple

/-! The Postgres store: its tables, the statements it sends, and the writes that send them. -/

namespace ZanGuard.Postgres

/-! ### Columns and rows -/

/-- A text of at most the given length that PostgreSQL can store. -/
def Fits (limit : Nat) (text : String) : Prop :=
  -- The character with code zero is not representable in a text column.
  text.toList.length ≤ limit ∧ '\x00' ∉ text.toList

instance (limit : Nat) (text : String) : Decidable (Fits limit text) :=
  inferInstanceAs (Decidable (_ ∧ _))

/-- A value of a `VARCHAR` column. -/
structure Varchar (limit : Nat) where
  text : String
  fits : Fits limit text
  deriving DecidableEq

/-- Cutting a text without a zero character at a length gives one that fits. -/
theorem fits_take {text : String} (clean : '\x00' ∉ text.toList) (limit : Nat) :
    Fits limit (.ofList (text.toList.take limit)) := by
  simp only [Fits, String.toList_ofList]
  exact ⟨List.length_take_le _ _, fun member => clean (List.mem_of_mem_take member)⟩

/-- Assign a text to a column; a longer one is refused unless only blanks would be lost. -/
def Varchar.assign (limit : Nat) (text : String) : Except Err (Varchar limit) :=
  if clean : '\x00' ∉ text.toList then
    if short : text.toList.length ≤ limit then .ok ⟨text, short, clean⟩
    else if (text.toList.drop limit).all (· = ' ') then
      .ok ⟨.ofList (text.toList.take limit), fits_take clean limit⟩
    else .error (.postgres "22001")
  else .error (.postgres "22021")

/-- Assign `NULLIF(text, '')` to a column that may be NULL. -/
def Varchar.assignNullable (limit : Nat) (text : String) : Except Err (Option (Varchar limit)) :=
  if text = "" then .ok none else some <$> Varchar.assign limit text

/-- The text of a column that may be NULL, as `COALESCE(column, '')` reads it. -/
def Varchar.coalesce {limit : Nat} (value : Option (Varchar limit)) : String :=
  match value with
  | none => ""
  | some v => v.text

/-- A tenant need not have a name. -/
theorem fits_noName : Fits 256 "" := by decide

/-- The columns of the index `uq_tuples_identity_active`. -/
structure Identity where
  tenantID : String
  objectType : String
  objectID : String
  relation : String
  subjectType : String
  subjectID : String
  subjectRelation : String
  deriving DecidableEq

/-- A row of `tenants`; a column nobody names holds what its default or an empty text gives. -/
structure TenantRow where
  id : Varchar 128
  displayName : Varchar 256 := ⟨"", fits_noName⟩
  parentTenantID : Option (Varchar 128) := none
  status : TenantStatus
  schemaMode : SchemaMode := .own
  sharedSchemaRef : Option (Varchar 128) := none
  /-- The JSON text of the column `config`. -/
  config : String := "\x7b\x7d"
  createdAt : Time := 0
  updatedAt : Time := 0
  deletedAt : Option Time
  deriving DecidableEq

/-- A row of `relation_tuples`; `J` stands for the values of a JSONB column. -/
structure TupleRow (J : Type) where
  tenantID : Varchar 128
  objectType : Varchar 128
  objectID : Varchar 256
  relation : Varchar 128
  subjectType : Varchar 128
  subjectID : Varchar 256
  subjectRelation : Option (Varchar 128)
  subjectTenantID : Option (Varchar 128)
  sourceSystem : Option (Varchar 64)
  externalID : Option (Varchar 512)
  attributes : J
  expiresAt : Option Time
  createdAt : Time
  updatedAt : Time
  deletedAt : Option Time
  deriving DecidableEq

/-- A row of `changelog`. -/
structure ChangelogRow (J : Type) where
  sequence : Nat
  tenantID : Varchar 128
  operation : Varchar 8
  objectType : Varchar 128
  objectID : Varchar 256
  relation : Varchar 128
  subjectType : Varchar 128
  subjectID : Varchar 256
  subjectRelation : Option (Varchar 128)
  actor : Varchar 256
  source : Varchar 32
  metadata : Option J
  createdAt : Time
  deriving DecidableEq

variable {V J : Type}

/-- The identity of a row. -/
def TupleRow.identity (row : TupleRow J) : Identity where
  tenantID := row.tenantID.text
  objectType := row.objectType.text
  objectID := row.objectID.text
  relation := row.relation.text
  subjectType := row.subjectType.text
  subjectID := row.subjectID.text
  subjectRelation := Varchar.coalesce row.subjectRelation

/-- The identity a tuple has when it is written for a tenant. -/
def identityOf (tenantID : String) (tuple : RelationTuple V) : Identity where
  tenantID := tenantID
  objectType := tuple.objectType
  objectID := tuple.objectID
  relation := tuple.relation
  subjectType := tuple.subjectType
  subjectID := tuple.subjectID
  subjectRelation := tuple.subjectRelation

/-- Whether a row holds an identity, which a soft-deleted row does not. -/
def TupleRow.holds (row : TupleRow J) (identity : Identity) : Bool :=
  row.deletedAt = none && row.identity = identity

/-- Whether a row has expired: `expires_at IS NOT NULL AND expires_at <= NOW()`. -/
def TupleRow.expired (row : TupleRow J) (now : Time) : Bool :=
  match row.expiresAt with
  | none => false
  | some expiresAt => expiresAt ≤ now

/-- The table `relation_tuples`, in which the partial unique index holds. -/
structure TupleTable (J : Type) where
  rows : List (TupleRow J)
  unique : rows.Pairwise fun r s =>
    r.deletedAt = none → s.deletedAt = none → r.identity ≠ s.identity

/-- Nothing is twice in a table without rows. -/
theorem TupleTable.unique_nil : ([] : List (TupleRow J)).Pairwise fun r s =>
    r.deletedAt = none → s.deletedAt = none → r.identity ≠ s.identity :=
  .nil

/-- The tables a tuple write touches, and the last value drawn for `changelog.sequence`. -/
structure Database (J : Type) where
  tenants : List TenantRow
  tuples : TupleTable J
  changelog : List (ChangelogRow J)
  sequence : Nat

/-! ### Statements -/

/-- Whether some row holds an identity. -/
def TupleTable.holds (table : TupleTable J) (identity : Identity) : Bool :=
  table.rows.any (·.holds identity)

/-- No two rows of a table hold the same identity, so adding one that is free keeps the index. -/
theorem TupleTable.unique_append {table : TupleTable J} {row : TupleRow J}
    (free : table.holds row.identity = false) :
    (table.rows ++ [row]).Pairwise fun r s =>
      r.deletedAt = none → s.deletedAt = none → r.identity ≠ s.identity := by
  refine List.pairwise_append.mpr ⟨table.unique, List.pairwise_singleton _ _, ?_⟩
  intro r stored s added live _ same
  obtain rfl := List.mem_singleton.mp added
  -- The stored row would hold the identity that is free.
  have held : table.holds s.identity = true :=
    List.any_eq_true.mpr ⟨r, stored, by simp [TupleRow.holds, live, same]⟩
  rw [free] at held
  cases held

/-- Insert a row, unless the index rejects it. -/
def TupleTable.insert (table : TupleTable J) (row : TupleRow J) : Except Err (TupleTable J) :=
  if free : table.holds row.identity = false then
    .ok ⟨table.rows ++ [row], TupleTable.unique_append free⟩
  else .error (.postgres "23505")

/-- The columns `refreshExpiredTupleTx` sets. -/
structure Refresh (J : Type) where
  subjectTenantID : Option (Varchar 128)
  sourceSystem : Option (Varchar 64)
  externalID : Option (Varchar 512)
  expiresAt : Option Time
  attributes : J
  updatedAt : Time

/-- Set these columns of a row. -/
def TupleRow.refresh (row : TupleRow J) (columns : Refresh J) : TupleRow J :=
  { row with
    subjectTenantID := columns.subjectTenantID
    sourceSystem := columns.sourceSystem
    externalID := columns.externalID
    expiresAt := columns.expiresAt
    attributes := columns.attributes
    updatedAt := columns.updatedAt }

/-- Refresh the rows that hold an identity and have expired. -/
def TupleTable.refresh (table : TupleTable J) (identity : Identity) (now : Time)
    (columns : Refresh J) : TupleTable J where
  rows := table.rows.map fun row =>
    if row.holds identity && row.expired now then row.refresh columns else row
  unique := by
    refine List.pairwise_map.mpr (table.unique.imp ?_)
    -- Neither the identity nor `deleted_at` is among the columns set.
    intro r s distinct
    split <;> split <;> exact distinct

/-- Mark the rows that hold an identity as deleted. -/
def TupleTable.markDeleted (table : TupleTable J) (identity : Identity) (now : Time) :
    TupleTable J where
  rows := table.rows.map fun row =>
    if row.holds identity then { row with deletedAt := some now } else row
  unique := by
    refine List.pairwise_map.mpr (table.unique.imp ?_)
    -- A row that is marked has left the index, and the others stay as they are.
    intro r s distinct
    split <;> split
    · exact fun live => absurd live (by simp)
    · exact fun live => absurd live (by simp)
    · exact fun _ live => absurd live (by simp)
    · exact distinct

/-- How Go values reach a JSONB column: `json.Marshal`, and PostgreSQL's reading of its text. -/
structure Codec (V J : Type) where
  marshal : AnyMap V → Except String String
  /-- A text PostgreSQL refuses is refused with a SQLSTATE. -/
  jsonb : String → Except String J
  /-- A nil map is marshalled as null, and null is a JSONB value. -/
  marshal_nil : marshal none = .ok "null"
  jsonb_null : ∃ null, jsonb "null" = .ok null

/-- The SQL the store sends, with its arguments. -/
inductive Statement (V : Type) where
  | selectTenantStatus (tenantID : String)
  | insertTuple (tenantID : String) (tuple : RelationTuple V) (attrsJSON : String)
  | refreshExpiredTuple (tenantID : String) (tuple : RelationTuple V) (attrsJSON : String)
  | insertChangelog (tenantID : String) (entry : ChangelogEntry V) (metaJSON : Option String)
  | deleteTuple (tenantID : String) (tuple : RelationTuple V)
  | selectChangelog (tenantID : String) (sinceSeq : UInt64) (limit : Int)
  | insertTenant (tenant : Tenant V) (configJSON : String) (now : Time)
  | selectTenant (tenantID : String)
  | updateTenant (tenant : Tenant V) (configJSON : String)

/-- A query answers with its row, and any other statement with the number of rows affected. -/
def Statement.Answer : Statement V → Type
  | .selectTenantStatus _ => Option TenantStatus
  | .insertTuple _ _ _ => Nat
  | .refreshExpiredTuple _ _ _ => Nat
  | .insertChangelog _ _ _ => Nat
  | .deleteTuple _ _ => Nat
  | .selectChangelog _ _ _ => List (ChangelogEntry V)
  | .insertTenant _ _ _ => Nat
  | .selectTenant _ => Option TenantRow
  | .updateTenant _ _ => Nat

/-- Read a text as JSONB. -/
def Codec.read (codec : Codec V J) (text : String) : Except Err J :=
  (codec.jsonb text).mapError .postgres

/-- Arguments that are only compared still have to be representable. -/
def bindTexts (texts : List String) : Except Err Unit :=
  if texts.any fun text => '\x00' ∈ text.toList then .error (.postgres "22021") else .ok ()

/-- The row an insert builds. -/
def TupleRow.build (codec : Codec V J) (now : Time) (tenantID : String)
    (tuple : RelationTuple V) (attrsJSON : String) : Except Err (TupleRow J) := do
  return {
    tenantID := ← Varchar.assign 128 tenantID
    objectType := ← Varchar.assign 128 tuple.objectType
    objectID := ← Varchar.assign 256 tuple.objectID
    relation := ← Varchar.assign 128 tuple.relation
    subjectType := ← Varchar.assign 128 tuple.subjectType
    subjectID := ← Varchar.assign 256 tuple.subjectID
    subjectRelation := ← Varchar.assignNullable 128 tuple.subjectRelation
    subjectTenantID := ← Varchar.assignNullable 128 tuple.subjectTenantID
    sourceSystem := ← Varchar.assignNullable 64 tuple.sourceSystem
    externalID := ← Varchar.assignNullable 512 tuple.externalID
    attributes := ← codec.read attrsJSON
    -- The times are those of the transaction, whatever the tuple has.
    expiresAt := tuple.expiresAt
    createdAt := now
    updatedAt := now
    deletedAt := none }

/-- The columns a refresh computes. -/
def Refresh.build (codec : Codec V J) (now : Time) (tuple : RelationTuple V) (attrsJSON : String) :
    Except Err (Refresh J) := do
  return {
    subjectTenantID := ← Varchar.assignNullable 128 tuple.subjectTenantID
    sourceSystem := ← Varchar.assignNullable 64 tuple.sourceSystem
    externalID := ← Varchar.assignNullable 512 tuple.externalID
    expiresAt := tuple.expiresAt
    attributes := ← codec.read attrsJSON
    updatedAt := now }

/-- The text of a change. -/
def operationText : ChangeOp → String
  | .insert => "INSERT"
  | .delete => "DELETE"
  | .update => "UPDATE"
  | .other text => text

/-- The row a changelog insert builds. -/
def ChangelogRow.build (codec : Codec V J) (now : Time) (sequence : Nat) (tenantID : String)
    (entry : ChangelogEntry V) (metaJSON : Option String) : Except Err (ChangelogRow J) := do
  return {
    sequence
    tenantID := ← Varchar.assign 128 tenantID
    operation := ← Varchar.assign 8 (operationText entry.operation)
    objectType := ← Varchar.assign 128 entry.tuple.objectType
    objectID := ← Varchar.assign 256 entry.tuple.objectID
    relation := ← Varchar.assign 128 entry.tuple.relation
    subjectType := ← Varchar.assign 128 entry.tuple.subjectType
    subjectID := ← Varchar.assign 256 entry.tuple.subjectID
    subjectRelation := ← Varchar.assignNullable 128 entry.tuple.subjectRelation
    actor := ← Varchar.assign 256 entry.actor
    source := ← Varchar.assign 32 entry.source
    metadata := ← metaJSON.mapM codec.read
    createdAt := now }

/-- The change a stored text stands for. -/
def operationOf (text : String) : ChangeOp :=
  if text = "INSERT" then .insert
  else if text = "DELETE" then .delete
  else if text = "UPDATE" then .update
  else .other text

/-- The entry a changelog row is scanned into; the metadata is not selected. -/
def ChangelogRow.scan (row : ChangelogRow J) : ChangelogEntry V where
  sequence := .ofNat row.sequence
  tenantID := row.tenantID.text
  operation := operationOf row.operation.text
  tuple := {
    objectType := row.objectType.text
    objectID := row.objectID.text
    relation := row.relation.text
    subjectType := row.subjectType.text
    subjectID := row.subjectID.text
    subjectRelation := Varchar.coalesce row.subjectRelation }
  actor := row.actor.text
  source := row.source.text
  timestamp := row.createdAt

/-- Assign a status to its column. -/
def assignStatus : TenantStatus → Except Err TenantStatus
  | .other text => do return .other (← Varchar.assign 32 text).text
  | status => .ok status

/-- Assign a schema mode to its column. -/
def assignSchemaMode : SchemaMode → Except Err SchemaMode
  | .other text => do return .other (← Varchar.assign 32 text).text
  | mode => .ok mode

/-- The row a tenant insert builds. -/
def TenantRow.build (codec : Codec V J) (tenant : Tenant V) (configJSON : String) (now : Time) :
    Except Err TenantRow := do
  let _ ← (codec.jsonb configJSON).mapError Err.postgres
  return {
    id := ← Varchar.assign 128 tenant.id
    displayName := ← Varchar.assign 256 tenant.displayName
    parentTenantID := ← Varchar.assignNullable 128 tenant.parentTenantID
    status := ← assignStatus tenant.status
    schemaMode := ← assignSchemaMode tenant.schemaMode
    sharedSchemaRef := ← Varchar.assignNullable 128 tenant.sharedSchemaRef
    config := configJSON
    createdAt := now
    updatedAt := now
    deletedAt := none }

/-- The row a tenant update leaves; the parent is not among the columns it sets. -/
def TenantRow.update (row columns : TenantRow) : TenantRow :=
  { row with
    displayName := columns.displayName
    status := columns.status
    schemaMode := columns.schemaMode
    sharedSchemaRef := columns.sharedSchemaRef
    config := columns.config
    updatedAt := columns.updatedAt }

/-- The foreign key of both tables: the tenant has a row. -/
def Database.references (db : Database J) (tenantID : String) : Except Err Unit :=
  if db.tenants.any (·.id.text = tenantID) then .ok () else .error (.postgres "23503")

/-- The status of a tenant whose row is not soft-deleted. -/
def Database.statusOf (db : Database J) (tenantID : String) : Option TenantStatus :=
  let found := db.tenants.find? fun row => row.id.text = tenantID && row.deletedAt = none
  found.map (·.status)

/-- The row of a tenant, unless it is soft-deleted. -/
def Database.tenantRow (db : Database J) (tenantID : String) : Option TenantRow :=
  db.tenants.find? fun row => row.id.text = tenantID && row.deletedAt = none

/-- The rows of a tenant's changelog after a sequence number, in its order. -/
def Database.changelogAfter (db : Database J) (tenantID : String) (sinceSeq : Nat) :
    List (ChangelogRow J) :=
  (db.changelog.filter fun row =>
    row.tenantID.text = tenantID && row.sequence > sinceSeq).insertionSort
      fun r s => r.sequence ≤ s.sequence

/-- What a statement answers and changes, in a transaction that began at an instant. -/
def Statement.exec (codec : Codec V J) (now : Time) :
    (statement : Statement V) → Database J → Except Err (statement.Answer × Database J)
  | .selectTenantStatus tenantID, db => do
    bindTexts [tenantID]
    return (db.statusOf tenantID, db)
  | .insertTuple tenantID tuple attrsJSON, db => do
    let row ← TupleRow.build codec now tenantID tuple attrsJSON
    -- The index is checked at once, and the foreign key at the end of the statement.
    let tuples ← db.tuples.insert row
    db.references row.tenantID.text
    return ((1 : Nat), { db with tuples })
  | .refreshExpiredTuple tenantID tuple attrsJSON, db => do
    bindTexts [tenantID, tuple.objectType, tuple.objectID, tuple.relation, tuple.subjectType,
      tuple.subjectID, tuple.subjectRelation]
    -- The identity is only compared, so its texts need not fit a column.
    let columns ← Refresh.build codec now tuple attrsJSON
    let identity := identityOf tenantID tuple
    let affected := db.tuples.rows.countP fun row => row.holds identity && row.expired now
    return (affected, { db with tuples := db.tuples.refresh identity now columns })
  | .insertChangelog tenantID entry metaJSON, db => do
    -- The column draws the next value from its sequence.
    let row ← ChangelogRow.build codec now (db.sequence + 1) tenantID entry metaJSON
    db.references row.tenantID.text
    return ((1 : Nat), { db with
      changelog := db.changelog ++ [row]
      sequence := db.sequence + 1 })
  | .deleteTuple tenantID tuple, db => do
    bindTexts [tenantID, tuple.objectType, tuple.objectID, tuple.relation, tuple.subjectType,
      tuple.subjectID, tuple.subjectRelation]
    let identity := identityOf tenantID tuple
    -- A row that is deleted already holds no identity.
    let affected := db.tuples.rows.countP (·.holds identity)
    return (affected, { db with tuples := db.tuples.markDeleted identity now })
  | .selectChangelog tenantID sinceSeq limit, db => do
    -- The column is signed, so the driver refuses a number beyond its range.
    if sinceSeq.toNat ≥ 2 ^ 63 then throw .argumentOutOfRange
    bindTexts [tenantID]
    return (((db.changelogAfter tenantID sinceSeq.toNat).take limit.toNat).map ChangelogRow.scan, db)
  | .insertTenant tenant configJSON created, db => do
    let row ← TenantRow.build codec tenant configJSON created
    if db.tenants.any (·.id.text = row.id.text) then throw (.postgres "23505")
    let db := { db with tenants := db.tenants ++ [row] }
    -- A tenant may name itself as its parent.
    if let some parent := row.parentTenantID then db.references parent.text
    return ((1 : Nat), db)
  | .selectTenant tenantID, db => do
    bindTexts [tenantID]
    return (db.tenantRow tenantID, db)
  | .updateTenant tenant configJSON, db => do
    bindTexts [tenant.id]
    -- Neither the ID nor the parent is among the columns that are set.
    let columns ← TenantRow.build codec { tenant with id := "", parentTenantID := "" } configJSON now
    let affected := db.tenants.countP (·.id.text = tenant.id)
    return (affected, { db with
      tenants := db.tenants.map fun row =>
        if row.id.text = tenant.id then row.update columns else row })

/-- The server; a value drawn from a sequence stays drawn when its transaction is rolled back. -/
def server (codec : Codec V J) (now : Time) :
    Transaction.Server (Statement V) (Database J) Err Statement.Answer where
  exec := Statement.exec codec now
  undo committed data := { committed with sequence := data.sequence }
  aborted := .postgres "25P02"
  rolledBack := .txCommitRollback
  closed := .txClosed

/-! ### The store -/

/-- A method of the store. -/
abbrev StoreM (V : Type) := Transaction.Client (Statement V) Statement.Answer Err

/-- The status of a tenant that is not soft-deleted. -/
def tenantStatus (tenantID : String) : StoreM V TenantStatus := do
  let found ← Transaction.auto (Statement.selectTenantStatus tenantID)
  match (found : Option TenantStatus) with
  | none => throw .tenantNotFound
  | some status => return status

/-- Refuse a read for a tenant that is deleted. -/
def ensureTenantReadable (tenantID : String) : StoreM V Unit := do
  let status ← tenantStatus tenantID
  if status = .deleted then throw .tenantDeleted

/-- Refuse a write for a tenant that is not active. -/
def ensureTenantWritable (tenantID : String) : StoreM V Unit := do
  match ← tenantStatus tenantID with
  | .deleted => throw .tenantDeleted
  | .active => return ()
  -- Every other status is refused like a suspension.
  | _ => throw .tenantSuspended

/-- Add an entry to the changelog; metadata that cannot be marshalled is stored as NULL. -/
def appendChangelogTx (codec : Codec V J) (tenantID : String) (entry : ChangelogEntry V) :
    StoreM V Unit := do
  let _ ← Transaction.exec (.insertChangelog tenantID entry (codec.marshal entry.metadata).toOption)

/-- Whether an error is a violation of a unique index. -/
def isUniqueViolation : Err → Bool
  | .postgres code => code = "23505"
  | _ => false

/-- The text of a tuple's attributes, of which there are none when the map is nil. -/
def marshalTupleAttributes (codec : Codec V J) (attrs : AnyMap V) : Except Err String :=
  match attrs with
  | none => .ok "\x7b\x7d"
  | some _ => (codec.marshal attrs).mapError .marshal

/-- Overwrite an expired row with a tuple of its identity, and report whether there was one. -/
def refreshExpiredTupleTx (tenantID : String) (tuple : RelationTuple V) (attrsJSON : String) :
    StoreM V Bool := do
  let tag ← Transaction.exec (Statement.refreshExpiredTuple tenantID tuple attrsJSON)
  let rowsAffected : Nat := tag
  return rowsAffected > 0

/-- The entry a tuple write adds to the changelog. -/
def insertEntry (tenantID : String) (tuple : RelationTuple V) : ChangelogEntry V where
  operation := .insert
  tuple := {
    tenantID
    objectType := tuple.objectType
    objectID := tuple.objectID
    relation := tuple.relation
    subjectType := tuple.subjectType
    subjectID := tuple.subjectID
    subjectRelation := tuple.subjectRelation }
  source := "api"

/-- Insert a row for a tuple, or refresh the expired row that is in its way. -/
def insertOrRefreshTx (codec : Codec V J) (tenantID : String) (tuple : RelationTuple V) :
    StoreM V Unit := do
  let attrsJSON ← ExceptT.mk (pure (marshalTupleAttributes codec tuple.attributes))
  match ← Transaction.tryExec (Statement.insertTuple tenantID tuple attrsJSON) with
  | .ok _ => return ()
  | .error err =>
    if isUniqueViolation err then
      -- The refresh is sent in the transaction whose insert has just failed.
      let refreshed ← refreshExpiredTupleTx tenantID tuple attrsJSON
      if !refreshed then throw .duplicateTuple else return ()
    else throw err

/-- Write one tuple in the open transaction, the part `WriteTuple` and `WriteTuples` share. -/
def writeTupleTx (codec : Codec V J) (tenantID : String) (tuple : RelationTuple V) :
    StoreM V Unit := do
  insertOrRefreshTx codec tenantID tuple
  appendChangelogTx codec tenantID (insertEntry tenantID tuple)

/-- The loop of `WriteTuples`. -/
def writeTuplesTx (codec : Codec V J) (tenantID : String) :
    List (RelationTuple V) → StoreM V Unit
  | [] => return ()
  | tuple :: rest => do
    writeTupleTx codec tenantID tuple
    writeTuplesTx codec tenantID rest

/-- Write one tuple for the tenant of the context. -/
def writeTuple (codec : Codec V J) (ctx : Context V) (tuple : RelationTuple V) :
    StoreM V Unit := do
  let tenantID ← ExceptT.mk (pure (tenantIDFromCtx ctx))
  ensureTenantWritable tenantID
  Transaction.withTransaction do
    writeTupleTx codec tenantID tuple
    Transaction.commit

/-- Write a batch of tuples for the tenant of the context. -/
def writeTuples (codec : Codec V J) (ctx : Context V) (tuples : List (RelationTuple V)) :
    StoreM V Unit := do
  let tenantID ← ExceptT.mk (pure (tenantIDFromCtx ctx))
  ensureTenantWritable tenantID
  Transaction.withTransaction do
    writeTuplesTx codec tenantID tuples
    Transaction.commit

/-- The entry a deletion adds to the changelog. -/
def deleteEntry (tenantID : String) (tuple : RelationTuple V) : ChangelogEntry V :=
  { insertEntry tenantID tuple with operation := .delete }

/-- Mark the row of a tuple as deleted. -/
def deleteTuple (codec : Codec V J) (ctx : Context V) (tuple : RelationTuple V) :
    StoreM V Unit := do
  let tenantID ← ExceptT.mk (pure (tenantIDFromCtx ctx))
  ensureTenantWritable tenantID
  Transaction.withTransaction do
    let tag ← Transaction.exec (Statement.deleteTuple tenantID tuple)
    let rowsAffected : Nat := tag
    -- The deferred rollback ends a transaction that has found nothing.
    if rowsAffected = 0 then throw .notFound
    appendChangelogTx codec tenantID (deleteEntry tenantID tuple)
    Transaction.commit

/-- Add an entry a caller has made to the changelog. -/
def appendChangelog (codec : Codec V J) (ctx : Context V) (entry : ChangelogEntry V) :
    StoreM V Unit := do
  let tenantID ← ExceptT.mk (pure (tenantIDFromCtx ctx))
  ensureTenantWritable tenantID
  Transaction.withTransaction do
    appendChangelogTx codec tenantID entry
    Transaction.commit

/-- The entries after a sequence number, at most `limit` of them, or a thousand without a limit. -/
def readChangelog (ctx : Context V) (sinceSeq : UInt64) (limit : Int) :
    StoreM V (List (ChangelogEntry V)) := do
  let tenantID ← ExceptT.mk (pure (tenantIDFromCtx ctx))
  ensureTenantReadable tenantID
  -- Without a limit the page is still bounded.
  let limit := if limit ≤ 0 then 1000 else limit
  Transaction.auto (Statement.selectChangelog tenantID sinceSeq limit)

/-- How a tenant's configuration is written to and read from its column. -/
structure ConfigCodec (V : Type) where
  marshal : TenantConfig V → Except String String
  unmarshal : String → Except String (TenantConfig V)

/-- Insert a row for a new tenant. -/
def createTenant (config : ConfigCodec V) (tenant : Tenant V) (now : Time) : StoreM V Unit := do
  let configJSON ← ExceptT.mk (pure ((config.marshal tenant.config).mapError .marshal))
  let _ ← (Transaction.auto (Statement.insertTenant tenant configJSON now)).adapt Err.createTenant

/-- Read a tenant that is not soft-deleted. -/
def getTenant (config : ConfigCodec V) (tenantID : String) : StoreM V (Tenant V) := do
  let found ← (Transaction.auto (Statement.selectTenant tenantID)).adapt Err.getTenant
  match (found : Option TenantRow) with
  | none => throw .tenantNotFound
  | some row =>
    let resolved ← ExceptT.mk (pure ((config.unmarshal row.config).mapError .unmarshalTenantConfig))
    return {
      id := row.id.text
      displayName := row.displayName.text
      parentTenantID := Varchar.coalesce row.parentTenantID
      status := row.status
      schemaMode := row.schemaMode
      sharedSchemaRef := Varchar.coalesce row.sharedSchemaRef
      config := resolved
      createdAt := row.createdAt
      updatedAt := row.updatedAt }

/-- Overwrite the row of a tenant, without looking at the status it holds. -/
def updateTenant (config : ConfigCodec V) (tenant : Tenant V) : StoreM V Unit := do
  let configJSON ← ExceptT.mk (pure ((config.marshal tenant.config).mapError .marshal))
  let tag ← Transaction.auto (Statement.updateTenant tenant configJSON)
  let rowsAffected : Nat := tag
  if rowsAffected = 0 then throw .tenantNotFound

/-- Run a method alone on a database, and see what it returns and what it has committed. -/
def call (codec : Codec V J) (now : Time) (db : Database J) (method : StoreM V Unit) :
    Except Err Unit × Database J :=
  let outcome := Transaction.Client.from (server codec now) method (.idle db)
  (outcome.1, outcome.2.committed)

end ZanGuard.Postgres
