import ZanGuard.Storage.Postgres

/-! What a tuple write should do to a Postgres database, said without transactions. -/

namespace ZanGuard.Postgres

variable {V J : Type}

/-- The value an `attributes` column gets for a tuple's attributes. -/
def storedAttributes (codec : Codec V J) (attrs : AnyMap V) : Except Err J := do
  codec.read (← marshalTupleAttributes codec attrs)

/-- A tuple whose texts fit their columns and whose attributes can be stored. -/
structure Storable (codec : Codec V J) (tuple : RelationTuple V) : Prop where
  objectType : Fits 128 tuple.objectType
  objectID : Fits 256 tuple.objectID
  relation : Fits 128 tuple.relation
  subjectType : Fits 128 tuple.subjectType
  subjectID : Fits 256 tuple.subjectID
  subjectRelation : Fits 128 tuple.subjectRelation
  subjectTenantID : Fits 128 tuple.subjectTenantID
  sourceSystem : Fits 64 tuple.sourceSystem
  externalID : Fits 512 tuple.externalID
  attributes : ∃ json, storedAttributes codec tuple.attributes = .ok json

/-- A row that says at an instant what a tuple of a tenant says. -/
structure TupleRow.Carries (codec : Codec V J) (now : Time) (tenantID : String)
    (row : TupleRow J) (tuple : RelationTuple V) : Prop where
  identity : row.identity = identityOf tenantID tuple
  subjectTenantID : Varchar.coalesce row.subjectTenantID = tuple.subjectTenantID
  sourceSystem : Varchar.coalesce row.sourceSystem = tuple.sourceSystem
  externalID : Varchar.coalesce row.externalID = tuple.externalID
  attributes : storedAttributes codec tuple.attributes = .ok row.attributes
  expiresAt : row.expiresAt = tuple.expiresAt
  updatedAt : row.updatedAt = now
  deletedAt : row.deletedAt = none

/-- A row a write inserted for a tuple. -/
def TupleRow.Inserted (codec : Codec V J) (now : Time) (tenantID : String) (row : TupleRow J)
    (tuple : RelationTuple V) : Prop :=
  row.Carries codec now tenantID tuple ∧ row.createdAt = now

/-- What a write makes of a stored row: it refreshes a row of the batch and keeps any other. -/
def TupleRow.Kept (codec : Codec V J) (now : Time) (tenantID : String)
    (batch : List (RelationTuple V)) (before after : TupleRow J) : Prop :=
  (∃ tuple ∈ batch, before.holds (identityOf tenantID tuple) = true ∧
    after.Carries codec now tenantID tuple ∧ after.createdAt = before.createdAt) ∨
  ((∀ tuple ∈ batch, before.holds (identityOf tenantID tuple) = false) ∧ after = before)

/-- The identity of the tuple a changelog row is about. -/
def ChangelogRow.identity (row : ChangelogRow J) : Identity where
  tenantID := row.tenantID.text
  objectType := row.objectType.text
  objectID := row.objectID.text
  relation := row.relation.text
  subjectType := row.subjectType.text
  subjectID := row.subjectID.text
  subjectRelation := Varchar.coalesce row.subjectRelation

/-- A changelog row that records the insertion of a tuple. -/
def ChangelogRow.Records (tenantID : String) (row : ChangelogRow J) (tuple : RelationTuple V) :
    Prop :=
  row.operation.text = "INSERT" ∧ row.identity = identityOf tenantID tuple

/-- A batch went in: new identities inserted, expired rows refreshed, one record for each tuple. -/
structure Written (codec : Codec V J) (now : Time) (tenantID : String)
    (batch : List (RelationTuple V)) (before after : Database J) : Prop where
  tuples : ∃ kept inserted, after.tuples.rows = kept ++ inserted ∧
    List.Forall₂ (TupleRow.Kept codec now tenantID batch) before.tuples.rows kept ∧
    List.Forall₂ (TupleRow.Inserted codec now tenantID) inserted
      (batch.filter fun tuple => !before.tuples.holds (identityOf tenantID tuple))
  changelog : ∃ logged, after.changelog = before.changelog ++ logged ∧
    List.Forall₂ (ChangelogRow.Records tenantID) logged batch
  tenants : after.tenants = before.tenants

/-- Nothing changed but perhaps the numbers drawn for the changelog. -/
structure Database.SameTables (before after : Database J) : Prop where
  tenants : after.tenants = before.tenants
  tuples : after.tuples = before.tuples
  changelog : after.changelog = before.changelog

/-- Some tuple of the batch has an identity that a live row holds. -/
def Database.HasLive (db : Database J) (now : Time) (tenantID : String)
    (batch : List (RelationTuple V)) : Prop :=
  ∃ tuple ∈ batch, ∃ row ∈ db.tuples.rows,
    row.holds (identityOf tenantID tuple) = true ∧ row.expired now = false

/-- A write that reports a live duplicate and changes nothing, and otherwise goes in. -/
structure Classifies (codec : Codec V J) (now : Time) (tenantID : String)
    (batch : List (RelationTuple V)) (before : Database J)
    (outcome : Except Err Unit × Database J) : Prop where
  duplicate : before.HasLive now tenantID batch →
    outcome.1 = .error .duplicateTuple ∧ before.SameTables outcome.2
  succeeds : ¬ before.HasLive now tenantID batch →
    outcome.1 = .ok () ∧ Written codec now tenantID batch before outcome.2

end ZanGuard.Postgres
