import ZanGuard.Lib.Faults
import ZanGuard.Storage.Cluster

/-! The Postgres store with all the tables a tenant has data in, and every method that changes them. -/

namespace ZanGuard.Postgres

/-! ### Attributes -/

/-- What has attributes, in a table of its own. -/
inductive EntityKind where
  | object
  | subject
  deriving DecidableEq

/-- The primary key of `object_attributes` or `subject_attributes`. -/
structure EntityKey where
  tenantID : String
  entityType : String
  entityID : String
  deriving DecidableEq

/-- A row of one of these tables, whose columns differ in their names only. -/
structure AttributesRow (J : Type) where
  tenantID : Varchar 128
  entityType : Varchar 128
  entityID : Varchar 256
  attributes : J
  updatedAt : Time
  deriving DecidableEq

variable {V J : Type}

/-- The key of a row. -/
def AttributesRow.key (row : AttributesRow J) : EntityKey where
  tenantID := row.tenantID.text
  entityType := row.entityType.text
  entityID := row.entityID.text

/-- A table of attributes, in which the primary key holds. -/
structure AttributesTable (J : Type) where
  rows : List (AttributesRow J)
  unique : rows.Pairwise fun r s => r.key ≠ s.key

/-- Whether a row has a key. -/
def AttributesTable.has (table : AttributesTable J) (key : EntityKey) : Bool :=
  table.rows.any fun row => decide (row.key = key)

/-- Insert a row, or set the attributes of the row that has its key. -/
def AttributesTable.upsert (table : AttributesTable J) (row : AttributesRow J) :
    AttributesTable J :=
  if taken : table.has row.key = true then
    { rows := table.rows.map fun r =>
        if r.key = row.key then
          { r with attributes := row.attributes, updatedAt := row.updatedAt }
        else r
      unique := by
        refine List.pairwise_map.mpr (table.unique.imp ?_)
        -- The key is not among the columns set.
        intro r s distinct
        split <;> split <;> exact distinct }
  else
    { rows := table.rows ++ [row]
      unique := by
        -- No row has the key of the one that is added.
        refine List.pairwise_append.mpr ⟨table.unique, List.pairwise_singleton _ _, ?_⟩
        intro r stored s added same
        obtain rfl := List.mem_singleton.mp added
        exact taken (List.any_eq_true.mpr ⟨r, stored, decide_eq_true same⟩) }

/-- The row an upsert inserts. -/
def AttributesRow.build (codec : Codec V J) (now : Time) (tenantID entityType entityID : String)
    (attrsJSON : String) : Except Err (AttributesRow J) := do
  return {
    tenantID := ← Varchar.assign 128 tenantID
    entityType := ← Varchar.assign 128 entityType
    entityID := ← Varchar.assign 256 entityID
    attributes := ← codec.read attrsJSON
    updatedAt := now }

/-! ### Tables -/

/-- The tables that hold the data of tenants. -/
inductive DataTable where
  | relationTuples
  | attributes (kind : EntityKind)
  | changelog
  deriving DecidableEq

/-- The database with the tables for attributes. -/
structure TenantData (J : Type) where
  database : Database J
  objectAttributes : AttributesTable J
  subjectAttributes : AttributesTable J

/-- The attributes of one kind. -/
def TenantData.attributes (data : TenantData J) : EntityKind → AttributesTable J
  | .object => data.objectAttributes
  | .subject => data.subjectAttributes

/-- Replace the attributes of one kind. -/
def TenantData.setAttributes (data : TenantData J) (table : AttributesTable J) :
    EntityKind → TenantData J
  | .object => { data with objectAttributes := table }
  | .subject => { data with subjectAttributes := table }

/-- Delete the rows of a tenant, those of soft-deleted tuples among them. -/
def TenantData.deleteFrom (data : TenantData J) (tenantID : String) : DataTable → TenantData J
  | .relationTuples =>
    -- Whether a row is soft-deleted is not asked.
    let tuples := data.database.tuples
    { data with database := { data.database with tuples := {
        rows := tuples.rows.filter fun row => !decide (row.tenantID.text = tenantID)
        unique := tuples.unique.filter _ } } }
  | .attributes kind =>
    let table := data.attributes kind
    data.setAttributes {
      rows := table.rows.filter fun row => !decide (row.tenantID.text = tenantID)
      unique := table.unique.filter _ } kind
  | .changelog =>
    { data with database := { data.database with
        changelog := data.database.changelog.filter fun row =>
          !decide (row.tenantID.text = tenantID) } }

/-- How many rows of a table belong to a tenant. -/
def TenantData.countFrom (data : TenantData J) (tenantID : String) : DataTable → Nat
  | .relationTuples =>
    data.database.tuples.rows.countP fun row => decide (row.tenantID.text = tenantID)
  | .attributes kind =>
    (data.attributes kind).rows.countP fun row => decide (row.tenantID.text = tenantID)
  | .changelog => data.database.changelog.countP fun row => decide (row.tenantID.text = tenantID)

/-! ### Statements -/

/-- The SQL that changes the data of tenants, and the statements around it. -/
inductive DataStatement (V : Type) where
  | base (statement : Statement V)
  | upsertAttributes (kind : EntityKind) (tenantID entityType entityID attrsJSON : String)
  /-- `DELETE FROM table WHERE tenant_id=$1` -/
  | deleteFrom (table : DataTable) (tenantID : String)

/-- The new statements answer with the number of rows affected. -/
def DataStatement.Answer : DataStatement V → Type
  | .base statement => statement.Answer
  | .upsertAttributes _ _ _ _ _ => Nat
  | .deleteFrom _ _ => Nat

/-- What a statement answers and changes. -/
def DataStatement.exec (codec : Codec V J) (now : Time) :
    (statement : DataStatement V) → TenantData J → Except Err (statement.Answer × TenantData J)
  | .base statement, data => do
    let (answer, database) ← statement.run codec now data.database
    return (answer, { data with database })
  | .upsertAttributes kind tenantID entityType entityID attrsJSON, data => do
    let row ← AttributesRow.build codec now tenantID entityType entityID attrsJSON
    let table := data.attributes kind
    -- A row that is there already refers to its tenant.
    if !table.has row.key then data.database.references row.tenantID.text
    return ((1 : Nat), data.setAttributes (table.upsert row) kind)
  | .deleteFrom table tenantID, data => do
    bindTexts [tenantID]
    -- The statement succeeds with no row as well.
    return (data.countFrom tenantID table, data.deleteFrom tenantID table)

/-- The server with all of these tables. -/
def dataServer (codec : Codec V J) (now : Time) :
    Transaction.Server (DataStatement V) (TenantData J) Err DataStatement.Answer where
  exec := DataStatement.exec codec now
  undo committed data := { committed with
    database := { committed.database with sequence := data.database.sequence } }
  aborted := .postgres "25P02"
  rolledBack := .txCommitRollback
  closed := .txClosed

/-! ### The store -/

/-- A method of the store on these tables. -/
abbrev DataM (V : Type) := Transaction.Client (DataStatement V) DataStatement.Answer Err

/-- A method that sends the other statements only. -/
def DataM.ofStore {α : Type} (method : StoreM V α) : DataM V α :=
  Transaction.Client.embed .base (fun _ answer => answer) method

/-- Replace the attributes of one kind, with a single statement. -/
def setAttributes (codec : Codec V J) (kind : EntityKind) (ctx : Context V)
    (entityType entityID : String) (attrs : AnyMap V) : DataM V Unit := do
  let tenantID ← ExceptT.mk (pure (tenantIDFromCtx ctx))
  DataM.ofStore (ensureTenantWritable tenantID)
  -- Attributes that cannot be encoded are refused before anything is sent.
  let attrsJSON ← ExceptT.mk (pure ((codec.marshal attrs).mapError .marshal))
  let _ ← Transaction.auto (DataStatement.upsertAttributes kind tenantID entityType entityID attrsJSON)

/-- Replace the attributes of an object. -/
def setObjectAttributes (codec : Codec V J) (ctx : Context V) (objectType objectID : String)
    (attrs : AnyMap V) : DataM V Unit :=
  setAttributes codec .object ctx objectType objectID attrs

/-- Replace the attributes of a subject. -/
def setSubjectAttributes (codec : Codec V J) (ctx : Context V) (subjectType subjectID : String)
    (attrs : AnyMap V) : DataM V Unit :=
  setAttributes codec .subject ctx subjectType subjectID attrs

/-- Delete all data of the tenant of the context, table by table. -/
def purgeTenantData (ctx : Context V) : DataM V Unit := do
  let tenantID ← ExceptT.mk (pure (tenantIDFromCtx ctx))
  DataM.ofStore (ensureTenantWritable tenantID)
  -- Each statement goes to the pool, and is committed on its own.
  let _ ← Transaction.auto (.deleteFrom .relationTuples tenantID)
  let _ ← Transaction.auto (.deleteFrom (.attributes .object) tenantID)
  let _ ← Transaction.auto (.deleteFrom (.attributes .subject) tenantID)
  let _ ← Transaction.auto (.deleteFrom .changelog tenantID)

/-- The methods that change data of tenants. -/
inductive Mutation (V : Type) where
  | writeTuple (ctx : Context V) (tuple : RelationTuple V)
  | writeTuples (ctx : Context V) (tuples : List (RelationTuple V))
  | deleteTuple (ctx : Context V) (tuple : RelationTuple V)
  | setObjectAttributes (ctx : Context V) (objectType objectID : String) (attrs : AnyMap V)
  | setSubjectAttributes (ctx : Context V) (subjectType subjectID : String) (attrs : AnyMap V)
  | appendChangelog (ctx : Context V) (entry : ChangelogEntry V)
  | purgeTenantData (ctx : Context V)

/-- What a method asks of the server. -/
def Mutation.method (codec : Codec V J) : Mutation V → DataM V Unit
  | .writeTuple ctx tuple => .ofStore (Postgres.writeTuple codec ctx tuple)
  | .writeTuples ctx tuples => .ofStore (Postgres.writeTuples codec ctx tuples)
  | .deleteTuple ctx tuple => .ofStore (Postgres.deleteTuple codec ctx tuple)
  | .setObjectAttributes ctx objectType objectID attrs =>
    Postgres.setObjectAttributes codec ctx objectType objectID attrs
  | .setSubjectAttributes ctx subjectType subjectID attrs =>
    Postgres.setSubjectAttributes codec ctx subjectType subjectID attrs
  | .appendChangelog ctx entry => .ofStore (Postgres.appendChangelog codec ctx entry)
  | .purgeTenantData ctx => Postgres.purgeTenantData ctx

/-- Run a method alone, with the failures of its requests; see what it returns and has committed. -/
def callFaulty (codec : Codec V J) (now : Time) (faults : Nat → Option Err) (data : TenantData J)
    (method : DataM V Unit) : Except Err Unit × TenantData J :=
  let outcome := Transaction.Client.fromFaulty (dataServer codec now) faults method (.idle data)
  (outcome.1, outcome.2.committed)

end ZanGuard.Postgres
