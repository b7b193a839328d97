import ZanGuard.Lib.Sql
import ZanGuard.Storage.Postgres

/-!
The reads of the Postgres store, as the queries it sends.

A query answers what its WHERE clause says of the rows, with each placeholder standing for its
argument; what a server refuses before it looks at the rows is left out.
-/

namespace ZanGuard.Postgres

variable {V J : Type}

/-! ### Columns and clauses -/

/-- The text columns of `relation_tuples` that queries compare. -/
inductive TextColumn where
  | tenantID
  | objectType
  | objectID
  | relation
  | subjectType
  | subjectID
  | subjectRelation

/-- The columns of `relation_tuples` that hold instants. -/
inductive TimeColumn where
  | expiresAt
  | deletedAt

/-- A text column of a row. -/
def TupleRow.text (row : TupleRow J) : TextColumn → Option String
  | .tenantID => some row.tenantID.text
  | .objectType => some row.objectType.text
  | .objectID => some row.objectID.text
  | .relation => some row.relation.text
  | .subjectType => some row.subjectType.text
  | .subjectID => some row.subjectID.text
  -- This is the one text column of the seven that may be NULL.
  | .subjectRelation => row.subjectRelation.map (·.text)

/-- A column of a row that holds an instant. -/
def TupleRow.instant (row : TupleRow J) : TimeColumn → Option Time
  | .expiresAt => row.expiresAt
  | .deletedAt => row.deletedAt

/-- How the columns of `relation_tuples` are read. -/
def tupleColumns : Sql.Columns TextColumn TimeColumn (TupleRow J) where
  text := TupleRow.text
  instant := TupleRow.instant

/-- A clause of a query over `relation_tuples`. -/
abbrev Clause := Sql.Condition TextColumn TimeColumn

/-- A query over `relation_tuples`. -/
abbrev TupleQuery := Sql.Query TextColumn TimeColumn

/-- `deleted_at IS NULL` -/
def notDeleted : Clause := .unset .deletedAt

/-- `(expires_at IS NULL OR expires_at > NOW())` -/
def unexpired : Clause := .or (.unset .expiresAt) (.later .expiresAt)

/-- `(subject_relation IS NULL OR subject_relation='')` -/
def directSubject : Clause := .or (.null .subjectRelation) (.empty .subjectRelation)

/-! ### Queries -/

/-- The query of `ReadTuples` while it is put together, with the number of its next placeholder. -/
structure Assembly where
  query : TupleQuery
  argN : Nat

/-- Compare a column with a field of the filter, unless the field is empty. -/
def Assembly.filterBy (a : Assembly) (column : TextColumn) (value : String) : Assembly :=
  if value ≠ "" then { query := a.query.andEquals column a.argN value, argN := a.argN + 1 } else a

/-- The query of `ReadTuples`. -/
def readTuplesQuery (tenantID : String) (filter : Option TupleFilter) : TupleQuery :=
  let query : TupleQuery := { conditions := [.equals .tenantID 1, notDeleted], args := [tenantID] }
  -- A missing filter asks for no expired tuples either.
  let query := if filter.all (!·.includeExpired) then
      { query with conditions := query.conditions ++ [unexpired] }
    else query
  match filter with
  | none => query
  | some filter =>
    let a : Assembly := { query, argN := 2 }
    let a := a.filterBy .objectType filter.objectType
    let a := a.filterBy .objectID filter.objectID
    let a := a.filterBy .relation filter.relation
    let a := a.filterBy .subjectType filter.subjectType
    let a := a.filterBy .subjectID filter.subjectID
    -- The last field does not count the placeholder on.
    if filter.subjectRelation ≠ "" then
      a.query.andEquals .subjectRelation a.argN filter.subjectRelation
    else a.query

/-- The query of `CheckDirect`. -/
def checkDirectQuery (tenantID objectType objectID relation subjectType subjectID : String) :
    TupleQuery where
  conditions := [.equals .tenantID 1, .equals .objectType 2, .equals .objectID 3,
    .equals .relation 4, .equals .subjectType 5, .equals .subjectID 6, directSubject, notDeleted,
    unexpired]
  args := [tenantID, objectType, objectID, relation, subjectType, subjectID]

/-- The query of `CheckDirectCrossTenant`, which has no clause on the subject relation. -/
def checkDirectCrossTenantQuery
    (targetTenantID objectType objectID relation subjectType subjectID : String) : TupleQuery where
  conditions := [.equals .tenantID 1, .equals .objectType 2, .equals .objectID 3,
    .equals .relation 4, .equals .subjectType 5, .equals .subjectID 6, notDeleted, unexpired]
  args := [targetTenantID, objectType, objectID, relation, subjectType, subjectID]

/-- The query of `ListRelatedObjects` and `ListSubjects`. -/
def listQuery (tenantID objectType objectID relation : String) : TupleQuery where
  conditions := [.equals .tenantID 1, .equals .objectType 2, .equals .objectID 3,
    .equals .relation 4, notDeleted, unexpired]
  args := [tenantID, objectType, objectID, relation]

/-- The query of `CountTuples`. -/
def countTuplesQuery (tenantID : String) : TupleQuery where
  conditions := [.equals .tenantID 1, notDeleted, unexpired]
  args := [tenantID]

/-- The query of `ExportTenantSnapshot`. -/
def exportQuery (tenantID : String) : TupleQuery where
  conditions := [.equals .tenantID 1, notDeleted, unexpired]
  args := [tenantID]

/-! ### Reads -/

/-- The rows a query selects at an instant. -/
def Database.select (db : Database J) (now : Time) (query : TupleQuery) :
    Except Err (List (TupleRow J)) :=
  match query.run tupleColumns now db.tuples.rows with
  | none => .error .argumentMismatch
  | some rows => .ok rows

/-- Refuse a read for a tenant that is deleted. -/
def Database.ensureTenantReadable (db : Database J) (tenantID : String) : Except Err Unit :=
  match db.statusOf tenantID with
  | none => .error .tenantNotFound
  -- A suspended tenant may be read, and only a deleted one may not.
  | some status => if status = .deleted then .error .tenantDeleted else .ok ()

/-- The tuple a row is scanned into; `unmarshal` reads the JSON of its attributes. -/
def TupleRow.scan (unmarshal : J → Except String (AnyMap V)) (row : TupleRow J) :
    Except Err (RelationTuple V) := do
  -- Attributes that are no JSON object fail the whole read.
  let attributes ← (unmarshal row.attributes).mapError Err.unmarshal
  return {
    tenantID := row.tenantID.text
    objectType := row.objectType.text
    objectID := row.objectID.text
    relation := row.relation.text
    subjectType := row.subjectType.text
    subjectID := row.subjectID.text
    subjectRelation := Varchar.coalesce row.subjectRelation
    subjectTenantID := Varchar.coalesce row.subjectTenantID
    sourceSystem := Varchar.coalesce row.sourceSystem
    externalID := Varchar.coalesce row.externalID
    attributes
    expiresAt := row.expiresAt
    createdAt := row.createdAt
    updatedAt := row.updatedAt }

/-- The tuples a filter selects, without the expired ones unless it asks for them. -/
def Database.readTuples (db : Database J) (unmarshal : J → Except String (AnyMap V))
    (ctx : Context V) (filter : Option TupleFilter) (now : Time) :
    Except Err (List (RelationTuple V)) := do
  let tenantID ← tenantIDFromCtx ctx
  db.ensureTenantReadable tenantID
  let rows ← db.select now (readTuplesQuery tenantID filter)
  rows.mapM (TupleRow.scan unmarshal)

/-- Whether a live tuple relates object and subject directly. -/
def Database.checkDirect (db : Database J) (ctx : Context V)
    (objectType objectID relation subjectType subjectID : String) (now : Time) :
    Except Err Bool := do
  let tenantID ← tenantIDFromCtx ctx
  db.ensureTenantReadable tenantID
  let rows ← db.select now
    (checkDirectQuery tenantID objectType objectID relation subjectType subjectID)
  return !rows.isEmpty

/-- The objects an object is related to. -/
def Database.listRelatedObjects (db : Database J) (ctx : Context V)
    (objectType objectID relation : String) (now : Time) : Except Err (List ObjectRef) := do
  let tenantID ← tenantIDFromCtx ctx
  db.ensureTenantReadable tenantID
  let rows ← db.select now (listQuery tenantID objectType objectID relation)
  return rows.map fun row => { type := row.subjectType.text, id := row.subjectID.text }

/-- The subjects of an object and relation. -/
def Database.listSubjects (db : Database J) (ctx : Context V)
    (objectType objectID relation : String) (now : Time) : Except Err (List SubjectRef) := do
  let tenantID ← tenantIDFromCtx ctx
  db.ensureTenantReadable tenantID
  let rows ← db.select now (listQuery tenantID objectType objectID relation)
  return rows.map fun row => {
    type := row.subjectType.text
    id := row.subjectID.text
    relation := Varchar.coalesce row.subjectRelation }

/-- The subject tree of an object and relation, one level deep. -/
def Database.expand (db : Database J) (ctx : Context V) (objectType objectID relation : String)
    (now : Time) : Except Err SubjectTree := do
  let subjects ← db.listSubjects ctx objectType objectID relation now
  return { subject := { type := objectType, id := objectID, relation }, children := subjects }

/-- Whether a live tuple of another tenant relates object and subject, usersets included. -/
def Database.checkDirectCrossTenant (db : Database J)
    (targetTenantID objectType objectID relation subjectType subjectID : String) (now : Time) :
    Except Err Bool := do
  db.ensureTenantReadable targetTenantID
  let rows ← db.select now
    (checkDirectCrossTenantQuery targetTenantID objectType objectID relation subjectType subjectID)
  return !rows.isEmpty

/-- The number of live tuples. -/
def Database.countTuples (db : Database J) (ctx : Context V) (now : Time) : Except Err Nat := do
  let tenantID ← tenantIDFromCtx ctx
  db.ensureTenantReadable tenantID
  let rows ← db.select now (countTuplesQuery tenantID)
  return rows.length

/-- The greatest sequence number of a tenant's changelog: `COALESCE(MAX(sequence), 0)`. -/
def Database.maxSequence (db : Database J) (tenantID : String) : Nat :=
  ((db.changelog.filter (·.tenantID.text = tenantID)).map (·.sequence)).foldr max 0

/-- The last sequence number a tenant's changelog holds. -/
def Database.latestSequence (db : Database J) (ctx : Context V) : Except Err UInt64 := do
  let tenantID ← tenantIDFromCtx ctx
  db.ensureTenantReadable tenantID
  return .ofNat (db.maxSequence tenantID)

/-! ### Tenants -/

/-- The tenant a row of a listing is scanned into. -/
def TenantRow.scan (config : ConfigCodec V) (row : TenantRow) : Except Err (Tenant V) := do
  let resolved ← (config.unmarshal row.config).mapError Err.unmarshal
  return {
    id := row.id.text
    displayName := row.displayName.text
    parentTenantID := Varchar.coalesce row.parentTenantID
    status := row.status
    schemaMode := row.schemaMode
    sharedSchemaRef := Varchar.coalesce row.sharedSchemaRef
    config := resolved
    createdAt := row.createdAt
    updatedAt := row.updatedAt }

/-- Whether a listing asks for a row; a parent that is NULL is equal to none. -/
def TenantRow.selected (row : TenantRow) (filter : TenantFilter) : Bool :=
  row.deletedAt = none &&
    (filter.status = .other "" || row.status = filter.status) &&
    (filter.parentID = "" || row.parentTenantID.map (·.text) = some filter.parentID)

/-- The page of a listing; `collate` is how the database orders texts. -/
def Database.listTenants (db : Database J) (config : ConfigCodec V)
    (collate : String → String → Bool) (filter : Option TenantFilter) :
    Except Err (List (Tenant V)) := do
  let filter := filter.getD {}
  let rows := (db.tenants.filter (·.selected filter)).mergeSort fun r s =>
    collate r.id.text s.id.text
  let rows := if filter.offset > 0 then rows.drop filter.offset.toNat else rows
  let rows := if filter.limit > 0 then rows.take filter.limit.toNat else rows
  rows.mapM (TenantRow.scan config)

/-! ### Snapshots -/

/-- The tuple a row of a snapshot is scanned into, from three columns fewer than in a read. -/
def TupleRow.scanExported (unmarshal : J → Except String (AnyMap V)) (row : TupleRow J) :
    Except Err (RelationTuple V) := do
  let attributes ← (unmarshal row.attributes).mapError Err.unmarshal
  return {
    tenantID := row.tenantID.text
    objectType := row.objectType.text
    objectID := row.objectID.text
    relation := row.relation.text
    subjectType := row.subjectType.text
    subjectID := row.subjectID.text
    subjectRelation := Varchar.coalesce row.subjectRelation
    attributes
    expiresAt := row.expiresAt
    createdAt := row.createdAt
    updatedAt := row.updatedAt }

/-- Scan and encode rows one by one, up to the first that fails. -/
def encodeRows (unmarshal : J → Except String (AnyMap V))
    (encode : RelationTuple V → Except String String) :
    List (TupleRow J) → List String × Except Err Unit
  | [] => ([], .ok ())
  | row :: rest =>
    match row.scanExported unmarshal with
    | .error e => ([], .error e)
    | .ok t =>
      match encode t with
      | .error cause => ([], .error (.marshal cause))
      | .ok line =>
        let (lines, outcome) := encodeRows unmarshal encode rest
        (line :: lines, outcome)

/-- Write the live tuples of a tenant, one line each, and report what was written. -/
def Database.exportTenantSnapshot (db : Database J) (unmarshal : J → Except String (AnyMap V))
    (encode : RelationTuple V → Except String String) (ctx : Context V) (now : Time) :
    Except Err (List String × Except Err Unit) := do
  let tenantID ← tenantIDFromCtx ctx
  db.ensureTenantReadable tenantID
  let rows ← db.select now (exportQuery tenantID)
  return encodeRows unmarshal encode rows

end ZanGuard.Postgres
