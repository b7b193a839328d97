import ZanGuard.Lib.Marks
import ZanGuard.Lib.Undo
import ZanGuard.Proofs.Api.History
import ZanGuard.Proofs.Storage.Ledger
import ZanGuard.Proofs.Storage.Reads
import ZanGuard.Proofs.Tenant.Creation
import ZanGuard.Storage.Twins

/-! The two stores stay in step, whatever is written, deleted, suspended or activated. -/

namespace ZanGuard.Postgres

open Memory Transaction

variable {V J : Type} {codec : Codec V J} {config : ConfigCodec V}
  {unmarshal : J → Except String (AnyMap V)} {tenantID : String} {db : Database J}
  {s : Memory.Store V} {clock : Clock} {now : Time}

/-! ### Identities and keys -/

/-- A tuple whose key can be taken apart in one way only. -/
structure Plain (tuple : RelationTuple V) : Prop where
  objectType : ':' ∉ tuple.objectType.toList
  objectID : '#' ∉ tuple.objectID.toList
  relation : '@' ∉ tuple.relation.toList
  subjectType : ':' ∉ tuple.subjectType.toList
  subjectID : '#' ∉ tuple.subjectID.toList

/-- The identity of a tuple is what a deletion compares. -/
theorem identityOf_eq_iff {t u : RelationTuple V} :
    identityOf tenantID t = identityOf tenantID u ↔ sameIdentity t u = true := by
  simp [identityOf, sameIdentity, and_assoc]

/-- Plain tuples with the same key have the same identity. -/
theorem key_eq_iff (tenantID : String) {t u : RelationTuple V} (plain : Plain t) (other : Plain u) :
    tupleIdentityKey t = tupleIdentityKey u ↔ identityOf tenantID t = identityOf tenantID u := by
  constructor
  · intro same
    have chars : ∀ v : RelationTuple V, (tupleIdentityKey v).toList =
        v.objectType.toList ++ ':' :: (v.objectID.toList ++ '#' :: (v.relation.toList ++
          '@' :: (v.subjectType.toList ++ ':' :: (v.subjectID.toList ++
            '#' :: v.subjectRelation.toList)))) := by
      intro v
      simp [tupleIdentityKey]
    have split := congrArg String.toList same
    rw [chars, chars] at split
    -- Each mark ends the text before it, which does not contain it.
    obtain ⟨objectTypes, split⟩ := Marks.first_inj plain.objectType other.objectType split
    obtain ⟨objectIDs, split⟩ := Marks.first_inj plain.objectID other.objectID split
    obtain ⟨relations, split⟩ := Marks.first_inj plain.relation other.relation split
    obtain ⟨subjectTypes, split⟩ := Marks.first_inj plain.subjectType other.subjectType split
    obtain ⟨subjectIDs, subjectRelations⟩ := Marks.first_inj plain.subjectID other.subjectID split
    simp only [identityOf, Identity.mk.injEq, true_and]
    exact ⟨String.toList_inj.mp objectTypes, String.toList_inj.mp objectIDs,
      String.toList_inj.mp relations, String.toList_inj.mp subjectTypes,
      String.toList_inj.mp subjectIDs, String.toList_inj.mp subjectRelations⟩
  · intro same
    exact key_of_sameIdentity (identityOf_eq_iff.mp same)

/-- A live row of a tenant has the identity of the tuple it matches. -/
theorem TupleRow.Matches.identity {row : TupleRow J} {t : RelationTuple V}
    (fields : row.Matches unmarshal t) (live : row.liveFor tenantID = true) :
    row.identity = identityOf tenantID t := by
  have own : row.tenantID.text = tenantID := by
    simp only [TupleRow.liveFor, Bool.and_eq_true, decide_eq_true_eq] at live
    exact live.2
  simp only [TupleRow.identity, identityOf, own, fields.objectType, fields.objectID,
    fields.relation, fields.subjectType, fields.subjectID, fields.subjectRelation]

/-- A row that holds an identity of a tenant is a live row of the tenant. -/
theorem TupleRow.liveFor_of_holds {row : TupleRow J} {t : RelationTuple V}
    (held : row.holds (identityOf tenantID t) = true) : row.liveFor tenantID = true := by
  simp only [TupleRow.holds, Bool.and_eq_true, decide_eq_true_eq] at held
  have own := congrArg Identity.tenantID held.2
  simp only [TupleRow.liveFor, Bool.and_eq_true, decide_eq_true_eq]
  exact ⟨held.1, own⟩

/-- The rows of a tenant have the identities of its tuples, in some order. -/
theorem Related.identities (related : Related unmarshal tenantID db s) :
    ((db.tuples.rows.filter (·.liveFor tenantID)).map TupleRow.identity).Perm
      ((s.tuplesOf tenantID).map (identityOf tenantID)) := by
  obtain ⟨order, permuted, matched⟩ := related.tuples
  have all_live : ∀ row ∈ db.tuples.rows.filter (·.liveFor tenantID),
      row.liveFor tenantID = true := fun row member => (List.mem_filter.mp member).2
  have paired := List.forall₂_and_left _ _ |>.mpr ⟨all_live, matched⟩
  -- Each row has the identity of the tuple that it matches.
  have same : (db.tuples.rows.filter (·.liveFor tenantID)).map TupleRow.identity =
      order.map (identityOf tenantID) := by
    rw [← List.forall₂_eq_eq_eq, List.forall₂_map_left_iff, List.forall₂_map_right_iff]
    exact paired.imp fun row t pair => pair.2.identity pair.1
  rw [same]
  exact permuted.map _

/-- A row holds the identity of a tuple exactly when the store has a tuple that agrees with it. -/
theorem Related.holds_iff (related : Related unmarshal tenantID db s) (tuple : RelationTuple V) :
    db.tuples.holds (identityOf tenantID tuple) = true ↔
      ∃ t ∈ s.tuplesOf tenantID, identityOf tenantID t = identityOf tenantID tuple := by
  rw [← List.mem_map, ← related.identities.mem_iff, List.mem_map]
  constructor
  · intro held
    obtain ⟨row, stored, holds⟩ := List.any_eq_true.mp held
    refine ⟨row, List.mem_filter.mpr ⟨stored, TupleRow.liveFor_of_holds holds⟩, ?_⟩
    simp only [TupleRow.holds, Bool.and_eq_true, decide_eq_true_eq] at holds
    exact holds.2
  · rintro ⟨row, member, identity⟩
    obtain ⟨stored, live⟩ := List.mem_filter.mp member
    -- A live row holds its own identity.
    refine List.any_eq_true.mpr ⟨row, stored, ?_⟩
    simp only [TupleRow.liveFor, Bool.and_eq_true, decide_eq_true_eq] at live
    simp only [TupleRow.holds, Bool.and_eq_true, decide_eq_true_eq]
    exact ⟨live.1, identity⟩

/-- A row that a write inserts matches the tuple that the store keeps. -/
theorem TupleRow.Inserted.matches {row : TupleRow J} {tuple : RelationTuple V}
    (inserted : row.Inserted codec now tenantID tuple) (fresh : isZeroTime tuple.createdAt = true)
    (attributes : ∃ attrs, unmarshal row.attributes = .ok attrs ∧ SameAttrs attrs tuple.attributes) :
    row.Matches unmarshal (stageTuple tenantID now tuple) := by
  obtain ⟨carries, created⟩ := inserted
  have same := carries.identity
  simp only [TupleRow.identity, identityOf, Identity.mk.injEq] at same
  obtain ⟨tenant, objectType, objectID, relation, subjectType, subjectID, subjectRelation⟩ := same
  refine ⟨tenant, objectType, objectID, relation, subjectType, subjectID, subjectRelation,
    carries.subjectTenantID, carries.sourceSystem, carries.externalID, attributes,
    carries.expiresAt, ?_, carries.updatedAt⟩
  -- Without a time of its own the tuple gets that of the write, as the row does.
  rw [created]
  simp [stageTuple, fresh]

/-! ### Writes -/

/-- A tuple that both stores keep as it is. -/
structure Welcome (codec : Codec V J) (unmarshal : J → Except String (AnyMap V))
    (tuple : RelationTuple V) : Prop where
  storable : Storable codec tuple
  plain : Plain tuple
  fresh : isZeroTime tuple.createdAt = true
  attributes : ∀ json, storedAttributes codec tuple.attributes = .ok json →
    ∃ attrs, unmarshal json = .ok attrs ∧ SameAttrs attrs tuple.attributes

/-- An expired tuple of the store is not written again. -/
def NoRegrant (now : Time) (stored batch : List (RelationTuple V)) : Prop :=
  ∀ tuple ∈ batch, ∀ t ∈ stored, sameIdentity t tuple = true → tupleIsExpiredAt t now = false

instance (now : Time) (stored batch : List (RelationTuple V)) :
    Decidable (NoRegrant now stored batch) :=
  inferInstanceAs (Decidable (∀ tuple ∈ batch, ∀ t ∈ stored,
    sameIdentity t tuple = true → tupleIsExpiredAt t now = false))

/-- Both stores refuse a batch for the same reason: an identity is taken, or comes twice. -/
theorem Related.writable_iff (related : Related unmarshal tenantID db s)
    (stored : ∀ t ∈ s.tuplesOf tenantID, Plain t) {batch : List (RelationTuple V)}
    (plain : ∀ tuple ∈ batch, Plain tuple) (regrants : NoRegrant now (s.tuplesOf tenantID) batch) :
    Writable now (s.tuplesOf tenantID) batch ↔
      batch.Pairwise (fun t u => identityOf tenantID t ≠ identityOf tenantID u) ∧
        ∀ tuple ∈ batch, db.tuples.holds (identityOf tenantID tuple) = false := by
  -- Keys are distinct when identities are, and what is stored under a key has not expired.
  have distinct : (batch.map tupleIdentityKey).Nodup ↔
      batch.Pairwise (fun t u => identityOf tenantID t ≠ identityOf tenantID u) := by
    rw [List.Nodup, List.pairwise_map]
    refine List.Pairwise.iff_of_mem fun {t u} first second => ?_
    exact not_congr (key_eq_iff tenantID (plain t first) (plain u second))
  refine and_congr distinct (forall₂_congr fun tuple member => ?_)
  rw [← Bool.not_eq_true, related.holds_iff]
  constructor
  · rintro free ⟨t, among, same⟩
    have expired := free t among ((key_eq_iff tenantID (stored t among) (plain tuple member)).mpr same)
    rw [regrants tuple member t among (identityOf_eq_iff.mp same)] at expired
    cases expired
  · intro free t among same
    exact absurd ⟨t, among, (key_eq_iff tenantID (stored t among) (plain tuple member)).mp same⟩ free

/-- Tuples whose keys are filed nowhere are put at the end. -/
theorem placeTuples_unfiled {expiredIndexes : StringMap Nat}
    {slots appends staged : List (RelationTuple V)}
    (unfiled : ∀ t ∈ staged, expiredIndexes.lookup (tupleIdentityKey t) = none) :
    placeTuples expiredIndexes slots appends staged = (slots, appends ++ staged) := by
  -- The induction is on the staged tuples.
  induction staged generalizing appends with
  | nil => simp [placeTuples]
  | cons t rest ih =>
    rw [placeTuples, unfiled t List.mem_cons_self]
    refine (ih fun u member => unfiled u (List.mem_cons_of_mem _ member)).trans ?_
    rw [List.append_assoc]
    rfl

/-- A batch with keys of its own, none of which is stored, is put at the end and logged. -/
theorem writeTuplesLocked_absent {batch : List (RelationTuple V)}
    (distinct : (batch.map tupleIdentityKey).Nodup)
    (absent : ∀ tuple ∈ batch, ∀ t ∈ s.tuplesOf tenantID,
      tupleIdentityKey t ≠ tupleIdentityKey tuple) (some_there : batch ≠ []) :
    s.writeTuplesLocked tenantID batch clock =
      (.ok (), { s with
        tuples := s.tuples.insert tenantID
          (s.tuplesOf tenantID ++ batch.map (stageTuple tenantID (clock 0)))
        }.logInserts tenantID clock 1 (batch.map (stageTuple tenantID (clock 0)))) := by
  have staged : stageTuples tenantID (clock 0)
      (indexOf (clock 0) (s.tuplesOf tenantID)).existingKeys [] batch =
        .ok (batch.map (stageTuple tenantID (clock 0))) := by
    refine stageTuples_eq (fun t member => ⟨free_iff.mp ?_, List.not_mem_nil⟩) distinct
    intro u among same
    exact absurd same (absent t member u among)
  -- No expired tuple has a key of the batch either.
  have unfiled : ∀ t ∈ batch.map (stageTuple tenantID (clock 0)),
      (indexOf (clock 0) (s.tuplesOf tenantID)).expiredIndexes.lookup (tupleIdentityKey t) = none := by
    intro t member
    obtain ⟨tuple, among, rfl⟩ := List.mem_map.mp member
    rw [expiredIndexes_eq, List.findIdx?_eq_none_iff]
    intro u stored
    have other : tupleIdentityKey u ≠ tupleIdentityKey (stageTuple tenantID (clock 0) tuple) :=
      absent tuple among u stored
    simp [expiredUnder, other]
  unfold Store.writeTuplesLocked
  rw [if_neg (by simpa using some_there)]
  simp only [staged, placeTuples_unfiled unfiled, List.nil_append]

/-- The attributes of a storable tuple can be marshalled. -/
theorem Storable.marshalled {tuple : RelationTuple V} (storable : Storable codec tuple) :
    ∃ text, marshalTupleAttributes codec tuple.attributes = .ok text := by
  obtain ⟨json, stored⟩ := storable.attributes
  cases outcome : marshalTupleAttributes codec tuple.attributes with
  | ok text => exact ⟨text, rfl⟩
  | error e => simp [storedAttributes, outcome, bind, Except.bind] at stored

/-- An insert of a tuple whose identity is held is refused by the index. -/
theorem exec_insertTuple_held (now : Time) {tuple : RelationTuple V} {attrsJSON : String}
    (named : Fits 128 tenantID) (storable : Storable codec tuple)
    (marshalled : marshalTupleAttributes codec tuple.attributes = .ok attrsJSON)
    (held : db.tuples.holds (identityOf tenantID tuple) = true) :
    Statement.exec codec now (.insertTuple tenantID tuple attrsJSON) db =
      .error (.postgres "23505") := by
  obtain ⟨row, built, inserted⟩ := TupleRow.build_of_storable now named storable marshalled
  have taken : ¬ db.tuples.holds row.identity = false := by
    rw [inserted.1.identity, held]
    exact Bool.noConfusion
  simp only [Statement.exec, bind, Except.bind, built, TupleTable.insert, dif_neg taken]

/-- A tuple whose identity is held breaks its transaction. -/
theorem writeTupleTx_held (now : Time) {tuple : RelationTuple V} (committed : Database J)
    (named : Fits 128 tenantID) (storable : Storable codec tuple)
    (held : db.tuples.holds (identityOf tenantID tuple) = true) :
    Client.from (server codec now) (writeTupleTx codec tenantID tuple) (.working committed db) =
      (.error (.postgres "25P02"), .broken committed db) := by
  obtain ⟨attrsJSON, marshalled⟩ := storable.marshalled
  have insert : (server codec now).exec (.insertTuple tenantID tuple attrsJSON) db =
      .error (.postgres "23505") := exec_insertTuple_held now named storable marshalled held
  -- The refresh is sent to the broken transaction.
  unfold writeTupleTx insertOrRefreshTx
  refine Client.from_bind_error _ _ ?_
  rw [Client.from_bind, Client.from_outcome, marshalled]
  simp only
  rw [Client.from_bind_ok _ _ (Client.from_tryExec_error (server codec now) committed db insert)]
  simp only [isUniqueViolation, decide_true, if_true]
  exact Client.from_bind_error _ _ (refreshExpiredTupleTx_broken _ _ _ _ committed db)

/-- A batch in which an identity is taken, or comes twice, breaks its transaction. -/
theorem writeTuplesTx_held (now : Time) {batch : List (RelationTuple V)} (committed : Database J)
    (named : Fits 128 tenantID) (known : db.references tenantID = .ok ())
    (storable : ∀ tuple ∈ batch, Storable codec tuple)
    (taken : ¬ (batch.Pairwise (fun t u => identityOf tenantID t ≠ identityOf tenantID u) ∧
      ∀ tuple ∈ batch, db.tuples.holds (identityOf tenantID tuple) = false)) :
    ∃ data, Client.from (server codec now) (writeTuplesTx codec tenantID batch)
      (.working committed db) = (.error (.postgres "25P02"), .broken committed data) := by
  -- The induction is on the batch; the tuples before the one that is taken are written.
  induction batch generalizing db with
  | nil => exact absurd ⟨.nil, by simp⟩ taken
  | cons tuple rest ih =>
    have first := storable tuple List.mem_cons_self
    cases held : db.tuples.holds (identityOf tenantID tuple) with
    | true => exact ⟨db, Client.from_bind_error _ _ (writeTupleTx_held now committed named first held)⟩
    | false =>
      obtain ⟨middle, row, record, ran, inserted, -, added, -, kept⟩ :=
        writeTupleTx_appends now committed named known first held
      have stillKnown : middle.references tenantID = .ok () := by
        unfold Database.references
        rw [kept]
        exact known
      -- What is free after the first tuple was free before, and is another identity.
      have later : ¬ (rest.Pairwise (fun t u => identityOf tenantID t ≠ identityOf tenantID u) ∧
          ∀ tuple ∈ rest, middle.tuples.holds (identityOf tenantID tuple) = false) := by
        rintro ⟨distinct, free⟩
        have both : ∀ u ∈ rest, db.tuples.holds (identityOf tenantID u) = false ∧
            row.holds (identityOf tenantID u) = false := by
          intro u member
          have none := free u member
          rwa [TupleTable.holds_append added, Bool.or_eq_false_iff] at none
        refine taken ⟨List.pairwise_cons.mpr ⟨fun u member same => ?_, distinct⟩, ?_⟩
        · have apart := (both u member).2
          simp [TupleRow.holds, inserted.1.identity, inserted.1.deletedAt, same] at apart
        · intro u member
          rcases List.mem_cons.mp member with rfl | member
          · exact held
          · exact (both u member).1
      obtain ⟨data, broke⟩ :=
        ih stillKnown (fun u member => storable u (List.mem_cons_of_mem _ member)) later
      refine ⟨data, ?_⟩
      unfold writeTuplesTx
      rw [Client.from_bind_ok _ _ ran]
      exact broke

/-! ### What the stores have in common -/

/-- What the log of a tenant says of its tuples, from the first entry on. -/
def eventsIn (s : Memory.Store V) (tenantID : String) : List RowEvent :=
  (s.changelogOf tenantID).map fun entry => (entry.operation, identityOf tenantID entry.tuple)

/-- What the rows of the changelog say of the tuples of a tenant. -/
def Database.events (db : Database J) (tenantID : String) : List RowEvent :=
  (db.changelog.filter (·.tenantID.text = tenantID)).map ChangelogRow.event

/-- The changelog is numbered in the order in which it was written. -/
structure Database.InOrder (db : Database J) : Prop where
  numbered : ∀ row ∈ db.changelog, 0 < row.sequence ∧ row.sequence ≤ db.sequence
  ordered : db.changelog.Pairwise fun r s => r.sequence < s.sequence

/-- A row of `tenants` that can be read, and written again as it was read. -/
structure TenantRow.Legible (config : ConfigCodec V) (row : TenantRow) : Prop where
  kept : row.deletedAt = none
  schemaMode : assignSchemaMode row.schemaMode = .ok row.schemaMode
  config : ∃ resolved, config.unmarshal row.config = .ok resolved

/-- A database and a store that hold the same, in a form in which both go on alike. -/
structure InStep (config : ConfigCodec V) (unmarshal : J → Except String (AnyMap V))
    (db : Database J) (s : Memory.Store V) : Prop where
  related : ∀ tenantID, Related unmarshal tenantID db s
  events : ∀ tenantID, db.events tenantID = eventsIn s tenantID
  inOrder : db.InOrder
  legible : ∀ row ∈ db.tenants, row.Legible config
  declared : ∀ tenantID status, s.statusOf tenantID = some status → status.Declared
  own : ∀ tenantID t, s.tenants.lookup tenantID = some t → t.id = tenantID
  plain : ∀ tenantID, ∀ t ∈ s.tuplesOf tenantID, Plain t
  opened : ∀ tenantID, s.tuples.lookup tenantID = none → s.changelogOf tenantID = []

/-- What two calls come to: the same, but for the error that a Postgres duplicate is reported as. -/
inductive SameOutcome : Except Err Unit → Except Err Unit → Prop where
  | ok : SameOutcome (.ok ()) (.ok ())
  | error (e : Err) : SameOutcome (.error e) (.error e)
  | duplicate : SameOutcome (.error (.postgres "25P02")) (.error .duplicateTuple)
  | tenantExists (id : String) :
    SameOutcome (.error (.createTenant (.createTenant (.postgres "23505"))))
      (.error (.createTenant (.tenantExists id)))

/-- The query for the status of a tenant answers what the store holds. -/
theorem Related.status_answer (related : Related unmarshal tenantID db s) (codec : Codec V J)
    (now : Time) (clean : '\x00' ∉ tenantID.toList) :
    Client.from (server codec now) (Transaction.auto (Statement.selectTenantStatus tenantID))
      (.idle db) = (.ok (s.statusOf tenantID), .idle db) := by
  have query : (server codec now).exec (Statement.selectTenantStatus tenantID)
      (Session.idle db).committed = .ok (s.statusOf tenantID, db) := by
    show Statement.exec codec now (.selectTenantStatus tenantID) db = _
    simp [Statement.exec, bindTexts, clean, related.status, bind, Except.bind, pure, Except.pure]
  exact Client.from_auto (server codec now) (.idle db) query

/-- A write of a tenant passes the same check in both stores. -/
theorem Related.writable (related : Related unmarshal tenantID db s) (codec : Codec V J) (now : Time)
    (clean : '\x00' ∉ tenantID.toList)
    (declared : ∀ status, s.statusOf tenantID = some status → status.Declared) :
    Client.from (server codec now) (ensureTenantWritable tenantID) (.idle db) =
      (s.checkTenantWritable tenantID, .idle db) := by
  have answer := related.status_answer codec now clean
  unfold ensureTenantWritable tenantStatus Store.checkTenantWritable
  unfold Store.statusOf at answer declared
  cases stored : s.tenants.lookup tenantID with
  | none =>
    rw [stored] at answer
    refine Client.from_bind_error _ _ ?_
    rw [Client.from_bind_ok _ _ answer]
    rfl
  | some t =>
    rw [stored] at answer declared
    have status : Client.from (server codec now) (tenantStatus tenantID) (.idle db) =
        (.ok t.status, .idle db) := by
      unfold tenantStatus
      rw [Client.from_bind_ok _ _ answer]
      rfl
    have known := declared t.status rfl
    unfold tenantStatus at status
    rw [Client.from_bind_ok _ _ status]
    -- Every status but the active one is refused by both.
    cases is : t.status with
    | other text =>
      rw [is] at known
      exact known.elim
    | pending | active | suspended | deleted => simp [is]

/-- A call that gets past the check is its transaction, run on its own. -/
theorem call_guarded {tc : TenantContext V} (body : String → StoreM V Unit)
    (related : Related unmarshal tc.tenantID db s) (codec : Codec V J) (now : Time)
    (clean : '\x00' ∉ tc.tenantID.toList)
    (declared : ∀ status, s.statusOf tc.tenantID = some status → status.Declared) :
    call codec now db (do
        let tenantID ← ExceptT.mk (pure (tenantIDFromCtx (some tc)))
        ensureTenantWritable tenantID
        withTransaction (body tenantID)) =
      match s.checkTenantWritable tc.tenantID with
      | .error e => (.error e, db)
      | .ok () =>
        let ran := Client.from (server codec now) (body tc.tenantID) (.working db db)
        (ran.1, ((server codec now).abandon ran.2).committed) := by
  have named : Client.from (server codec now)
      (ExceptT.mk (pure (tenantIDFromCtx (some tc))) : StoreM V String) (.idle db) =
        (.ok tc.tenantID, .idle db) := rfl
  have checked := related.writable codec now clean declared
  unfold call
  rw [Client.from_bind_ok _ _ named]
  cases outcome : s.checkTenantWritable tc.tenantID with
  | error e =>
    rw [outcome] at checked
    rw [Client.from_bind_error _ _ checked]
    rfl
  | ok _ =>
    rw [outcome] at checked
    rw [Client.from_bind_ok _ _ checked, Client.from_withTransaction]

/-! ### The order of the changelog -/

/-- A statement that succeeds keeps the changelog in order, and draws no number twice. -/
theorem exec_inOrder {statement : Statement V} {after : Database J} {answer : statement.Answer}
    (inOrder : db.InOrder) (ran : statement.exec codec now db = .ok (answer, after)) :
    after.InOrder ∧ db.sequence ≤ after.sequence := by
  have effect := exec_effect ran
  have grown : after.changelog = db.changelog ++ entriesOf (statement.changes codec now db) := by
    rw [effect.changes]
    exact foldl_apply_changelog _ db
  cases draws : statement.draws with
  | false =>
    rw [entriesOf_changes draws, List.append_nil] at grown
    have same := effect.sequence draws
    refine ⟨⟨fun row member => ?_, grown ▸ inOrder.ordered⟩, same.ge⟩
    rw [same]
    exact inOrder.numbered row (grown ▸ member)
  | true =>
    cases statement with
    | insertChangelog tenantID entry metaJSON =>
      obtain ⟨row, built, ran⟩ := Except.of_bind_ok ran
      obtain ⟨-, -, ran⟩ := Except.of_bind_ok ran
      obtain rfl := (Prod.mk.inj (Except.ok.inj ran)).2
      have number := (ChangelogRow.build_columns built).2
      -- The new row has the number after the last one.
      refine ⟨⟨fun other member => ?_, ?_⟩, Nat.le_succ _⟩
      · rcases List.mem_append.mp member with old | new
        · have bounds := inOrder.numbered other old
          exact ⟨bounds.1, by show other.sequence ≤ db.sequence + 1; omega⟩
        · obtain rfl := List.mem_singleton.mp new
          exact ⟨by omega, by show other.sequence ≤ db.sequence + 1; omega⟩
      · refine List.pairwise_append.mpr ⟨inOrder.ordered, List.pairwise_singleton _ _, ?_⟩
        intro other old last new
        obtain rfl := List.mem_singleton.mp new
        have bounds := inOrder.numbered other old
        omega
    | _ => cases draws

/-- Every transaction keeps the changelog in order, commit or rollback. -/
theorem keeps_inOrder (codec : Codec V J) (now : Time) :
    (server codec now).Keeps Database.InOrder fun committed data =>
      data.InOrder ∧ committed.sequence ≤ data.sequence where
  start inOrder := ⟨inOrder, le_rfl⟩
  exec grown ran :=
    have next := exec_inOrder grown.1 ran
    ⟨next.1, grown.2.trans next.2⟩
  commit grown := grown.1
  undo {committed data} inOrder grown := by
    -- What is drawn stays drawn, so the numbers only have more room.
    refine ⟨fun row member => ?_, inOrder.ordered⟩
    have bounds := inOrder.numbered row member
    exact ⟨bounds.1, bounds.2.trans grown.2⟩

/-- So does a method that runs its body in a transaction. -/
theorem inOrder_of_inside (codec : Codec V J) (now : Time) {body : StoreM V Unit}
    (inside : SendsInside tenantID body) (inOrder : db.InOrder) :
    ((server codec now).abandon (Client.from (server codec now) body
      (.working db db)).2).committed.InOrder := by
  have keeps := keeps_inOrder codec now
  have begun : (Session.working db db).Sound Database.InOrder fun committed data =>
      data.InOrder ∧ committed.sequence ≤ data.sequence := by
    refine ⟨inOrder, fun work opened => ?_⟩
    obtain rfl := Option.some.inj opened
    exact keeps.start inOrder
  have ended := keeps.run inside (fun _ sent => sent) begun
  exact (keeps.abandon ended).1

/-! ### A tenant whose tuples change -/

/-- A change of one tenant's tuples and log leaves the stores alike, if it does so for the tenant. -/
theorem InStep.of_change (inStep : InStep config unmarshal db s) (tenantID : String)
    {data : Database J} {after : Memory.Store V} (tenants : data.tenants = db.tenants) (inOrder : data.InOrder)
    (rows : ∀ other, other ≠ tenantID →
      data.tuples.rows.filter (·.liveFor other) = db.tuples.rows.filter (·.liveFor other))
    (entries : ∀ other, other ≠ tenantID → data.events other = db.events other)
    (kept : after.tenants = s.tenants)
    (foreign : ∀ other, other ≠ tenantID → after.slice other = s.slice other)
    (there : (after.tuples.lookup tenantID).isSome = true)
    (tuples : ∃ order, order.Perm (after.tuplesOf tenantID) ∧
      List.Forall₂ (TupleRow.Matches unmarshal) (data.tuples.rows.filter (·.liveFor tenantID)) order)
    (plain : ∀ t ∈ after.tuplesOf tenantID, Plain t)
    (events : data.events tenantID = eventsIn after tenantID) : InStep config unmarshal data after := by
  have status : ∀ other, after.statusOf other = s.statusOf other := by
    intro other
    simp only [Store.statusOf, kept]
  have elsewhere : ∀ other, other ≠ tenantID → after.tuples.lookup other = s.tuples.lookup other ∧
      after.changelog.lookup other = s.changelog.lookup other := by
    intro other apart
    obtain ⟨-, tuples, -, -, changelog, -⟩ := slice_eq_iff.mp (foreign other apart)
    exact ⟨tuples, changelog⟩
  constructor
  · intro other
    have answered : data.statusOf other = after.statusOf other := by
      rw [status, ← (inStep.related other).status]
      simp only [Database.statusOf, tenants]
    refine ⟨answered, ?_⟩
    by_cases same : other = tenantID
    · exact same ▸ tuples
    · have bucket : after.tuplesOf other = s.tuplesOf other := by
        simp only [Store.tuplesOf, (elsewhere other same).1]
      rw [rows other same, bucket]
      exact (inStep.related other).tuples
  · intro other
    by_cases same : other = tenantID
    · exact same ▸ events
    · rw [entries other same, inStep.events]
      simp only [eventsIn, Store.changelogOf, (elsewhere other same).2]
  · exact inOrder
  · exact tenants ▸ inStep.legible
  · intro other found held
    exact inStep.declared other found (status other ▸ held)
  · exact kept ▸ inStep.own
  · intro other t among
    by_cases same : other = tenantID
    · exact plain t (same ▸ among)
    · simp only [Store.tuplesOf, (elsewhere other same).1] at among
      exact inStep.plain other t among
  · intro other missing
    by_cases same : other = tenantID
    · rw [same] at missing
      rw [missing] at there
      cases there
    · rw [(elsewhere other same).1] at missing
      simp only [Store.changelogOf, (elsewhere other same).2]
      exact inStep.opened other missing

/-! ### Writing -/

/-- A batch is logged as the insertion of its tuples. -/
theorem eventsIn_logInserts (s : Memory.Store V) (tenantID : String) (clock : Clock) (i : Nat)
    (staged : List (RelationTuple V)) :
    eventsIn (s.logInserts tenantID clock i staged) tenantID =
      eventsIn s tenantID ++ staged.map fun t => (.insert, identityOf tenantID t) := by
  -- The induction is on the batch, one entry at a time.
  induction staged generalizing s i with
  | nil => simp [Store.logInserts]
  | cons t rest ih =>
    rw [Store.logInserts, ih]
    simp [eventsIn, Store.appendTupleChangelogUnsafe, Store.changelogOf]

/-- The rows that a batch adds are live rows of its tenant. -/
theorem liveFor_of_inserted {batch : List (RelationTuple V)} {inserted : List (TupleRow J)}
    (carry : List.Forall₂ (TupleRow.Inserted codec now tenantID) inserted batch) :
    ∀ row ∈ inserted, row.liveFor tenantID = true := by
  -- The induction is on the rows, each of which has the identity of its tuple.
  induction carry with
  | nil => simp
  | cons first _ ih =>
    have own := congrArg Identity.tenantID first.1.identity
    refine List.forall_mem_cons.mpr ⟨?_, ih⟩
    simp only [TupleRow.liveFor, Bool.and_eq_true, decide_eq_true_eq]
    exact ⟨first.1.deletedAt, own⟩

/-- The rows that a batch adds are rows of its tenant, and so are its records. -/
theorem Appended.own {batch : List (RelationTuple V)} {after : Database J}
    (appended : Appended codec now tenantID batch db after) :
    (∀ other, other ≠ tenantID →
      after.tuples.rows.filter (·.liveFor other) = db.tuples.rows.filter (·.liveFor other) ∧
      after.events other = db.events other) ∧
    after.events tenantID =
      db.events tenantID ++ batch.map fun t => (.insert, identityOf tenantID t) := by
  obtain ⟨inserted, grown, carry⟩ := appended.tuples
  obtain ⟨logged, longer, record_⟩ := appended.changelog
  have said : logged.map ChangelogRow.event =
      batch.map fun t => (ChangeOp.insert, identityOf tenantID t) := by
    rw [← List.forall₂_eq_eq_eq, List.forall₂_map_left_iff, List.forall₂_map_right_iff]
    refine record_.imp fun row t records => ?_
    simp [ChangelogRow.event, records.1, records.2, operationOf]
  have named : ∀ row ∈ logged, row.tenantID.text = tenantID := by
    intro row member
    have among : row.event ∈ batch.map fun t => (ChangeOp.insert, identityOf tenantID t) :=
      said ▸ List.mem_map_of_mem member
    obtain ⟨t, -, same⟩ := List.mem_map.mp among
    exact (congrArg (fun event => event.2.tenantID) same).symm
  constructor
  · intro other apart
    constructor
    · have none : inserted.filter (·.liveFor other) = [] := by
        refine List.filter_eq_nil_iff.mpr fun row member live => ?_
        have own := liveFor_of_inserted carry row member
        simp only [TupleRow.liveFor, Bool.and_eq_true, decide_eq_true_eq] at live own
        exact apart (live.2.symm.trans own.2)
      rw [grown, List.filter_append, none, List.append_nil]
    · have none : logged.filter (fun row => decide (row.tenantID.text = other)) = [] := by
        refine List.filter_eq_nil_iff.mpr fun row member found => ?_
        exact apart ((decide_eq_true_eq.mp found).symm.trans (named row member))
      simp only [Database.events, longer, List.filter_append, none, List.append_nil]
  · have all : logged.filter (fun row => decide (row.tenantID.text = tenantID)) = logged :=
      List.filter_eq_self.mpr fun row member => decide_eq_true (named row member)
    simp only [Database.events, longer, List.filter_append, all, List.map_append, said]

/-- A batch that both stores take is added to both. -/
theorem InStep.appended (inStep : InStep config unmarshal db s) {batch : List (RelationTuple V)}
    (welcome : ∀ tuple ∈ batch, Welcome codec unmarshal tuple) {after : Database J}
    (appended : Appended codec (clock 0) tenantID batch db after) (inOrder : after.InOrder) :
    InStep config unmarshal after ({ s with
        tuples := s.tuples.insert tenantID
          (s.tuplesOf tenantID ++ batch.map (stageTuple tenantID (clock 0)))
        }.logInserts tenantID clock 1 (batch.map (stageTuple tenantID (clock 0)))) := by
  obtain ⟨others, events⟩ := appended.own
  obtain ⟨inserted, grown, carry⟩ := appended.tuples
  obtain ⟨order, permuted, matched⟩ := (inStep.related tenantID).tuples
  have bucket : (Store.logInserts { s with
        tuples := s.tuples.insert tenantID
          (s.tuplesOf tenantID ++ batch.map (stageTuple tenantID (clock 0)))
        } tenantID clock 1 (batch.map (stageTuple tenantID (clock 0)))).tuplesOf tenantID =
      s.tuplesOf tenantID ++ batch.map (stageTuple tenantID (clock 0)) := by
    simp [Store.tuplesOf, logInserts_tuples]
  -- Every inserted row is live, and matches the tuple as it was staged.
  have added : List.Forall₂ (TupleRow.Matches unmarshal) inserted
      (batch.map (stageTuple tenantID (clock 0))) := by
    rw [List.forall₂_map_right_iff]
    refine List.forall₂_iff_zip.mpr ⟨carry.length_eq, fun {row t} pair => ?_⟩
    have stored := (List.forall₂_iff_zip.mp carry).2 pair
    have kept := welcome t (List.of_mem_zip pair).2
    exact stored.matches kept.fresh (kept.attributes _ stored.1.attributes)
  have live : inserted.filter (·.liveFor tenantID) = inserted :=
    List.filter_eq_self.mpr (liveFor_of_inserted carry)
  refine inStep.of_change tenantID appended.tenants inOrder (fun other apart => (others other apart).1)
    (fun other apart => (others other apart).2) ?_ ?_ ?_ ?_ ?_ ?_
  · simp
  · intro other apart
    rw [logInserts_foreign apart]
    simp [Store.slice, AList.lookup_insert_ne apart]
  · rw [logInserts_tuples]
    simp
  · refine ⟨order ++ batch.map (stageTuple tenantID (clock 0)), ?_, ?_⟩
    · rw [bucket]
      exact permuted.append_right _
    · rw [grown, List.filter_append, live]
      exact List.rel_append matched added
  · intro t among
    rw [bucket] at among
    rcases List.mem_append.mp among with old | new
    · exact inStep.plain tenantID t old
    · obtain ⟨tuple, member, rfl⟩ := List.mem_map.mp new
      exact ⟨(welcome tuple member).plain.objectType, (welcome tuple member).plain.objectID,
        (welcome tuple member).plain.relation, (welcome tuple member).plain.subjectType,
        (welcome tuple member).plain.subjectID⟩
  · rw [events, eventsIn_logInserts, inStep.events, List.map_map]
    rfl

/-- A batch that is stored in memory is writable. -/
theorem writable_of_ok {batch : List (RelationTuple V)}
    (done : (s.writeTuplesLocked tenantID batch clock).1 = .ok ()) :
    Writable (clock 0) (s.tuplesOf tenantID) batch := by
  unfold Store.writeTuplesLocked at done
  split at done
  · rename_i empty
    obtain rfl := List.isEmpty_iff.mp empty
    exact ⟨List.nodup_nil, by simp⟩
  · dsimp only at done
    split at done
    · cases done
    · rename_i staged ok
      obtain ⟨distinct, fresh⟩ := stageTuples_fresh ok
      exact ⟨distinct, fun t member => free_iff.mpr (fresh t member).1⟩

/-- A transaction that has failed leaves the stores as they were, but for the numbers it drew. -/
theorem InStep.of_undone (inStep : InStep config unmarshal db s) {sequence : Nat}
    (inOrder : ({ db with sequence } : Database J).InOrder) :
    InStep config unmarshal { db with sequence } s :=
  ⟨fun other => ⟨(inStep.related other).status, (inStep.related other).tuples⟩, inStep.events, inOrder,
    inStep.legible, inStep.declared, inStep.own, inStep.plain, inStep.opened⟩

/-- A batch is written to both stores, or to none. -/
theorem InStep.wrote (inStep : InStep config unmarshal db s) {tc : TenantContext V}
    (clean : '\x00' ∉ tc.tenantID.toList) {batch : List (RelationTuple V)}
    (welcome : ∀ tuple ∈ batch, Welcome codec unmarshal tuple)
    (regrants : NoRegrant (clock 0) (s.tuplesOf tc.tenantID) batch) :
    SameOutcome (call codec (clock 0) db (writeTuples codec (some tc) batch)).1
        (s.writeTuples (some tc) batch clock).1 ∧
      InStep config unmarshal (call codec (clock 0) db (writeTuples codec (some tc) batch)).2
        (s.writeTuples (some tc) batch clock).2 := by
  have related := inStep.related tc.tenantID
  have guarded : call codec (clock 0) db (writeTuples codec (some tc) batch) = _ :=
    call_guarded (fun tenantID => do writeTuplesTx codec tenantID batch; commit) related codec
      (clock 0) clean (inStep.declared tc.tenantID)
  have writes : s.writeTuples (some tc) batch clock = match s.checkTenantWritable tc.tenantID with
      | .error e => (.error e, s)
      | .ok () => s.writeTuplesLocked tc.tenantID batch clock := rfl
  have inside : SendsInside tc.tenantID (do writeTuplesTx codec tc.tenantID batch; commit) :=
    (writeTuplesTx_sends codec _ batch).commit
  have inOrder := inOrder_of_inside codec (clock 0) inside inStep.inOrder
  rw [guarded, writes]
  cases checked : s.checkTenantWritable tc.tenantID with
  | error e => exact ⟨.error e, inStep⟩
  | ok _ =>
    dsimp only
    -- The tenant has a row, which both tables may refer to.
    obtain ⟨t, stored⟩ := Api.stored_of_writable checked
    have found : db.statusOf tc.tenantID = some t.status := by
      rw [related.status, Store.statusOf, stored]
      rfl
    obtain ⟨named, known⟩ := known_of_statusOf found
    have same := related.writable_iff (inStep.plain tc.tenantID)
      (fun tuple member => (welcome tuple member).plain) regrants
    by_cases fine : Writable (clock 0) (s.tuplesOf tc.tenantID) batch
    · obtain ⟨distinct, free⟩ := same.mp fine
      obtain ⟨after, ran, appended⟩ := writeTuplesTx_appends (clock 0) db named known distinct
        (fun tuple member => (welcome tuple member).storable) free
      have committed : Client.from (server codec (clock 0))
          (do writeTuplesTx codec tc.tenantID batch; commit) (.working db db) =
            (.ok (), .idle after) := by
        rw [Client.from_bind_ok _ _ ran]
        rfl
      rw [committed] at inOrder ⊢
      by_cases empty : batch = []
      · subst empty
        obtain rfl : db = after := by
          have left := congrArg Prod.snd ran
          simpa [writeTuplesTx, Session.working] using left
        exact ⟨.ok, inStep⟩
      · -- What is free in the database is not stored in memory either.
        have absent : ∀ tuple ∈ batch, ∀ t ∈ s.tuplesOf tc.tenantID,
            tupleIdentityKey t ≠ tupleIdentityKey tuple := by
          intro tuple member t among key
          have agrees := (key_eq_iff tc.tenantID (inStep.plain _ t among)
            (welcome tuple member).plain).mp key
          have held := (related.holds_iff tuple).mpr ⟨t, among, agrees⟩
          rw [free tuple member] at held
          cases held
        rw [writeTuplesLocked_absent fine.1 absent empty]
        exact ⟨.ok, inStep.appended welcome appended inOrder⟩
    · obtain ⟨data, broke⟩ := writeTuplesTx_held (clock 0) db named known
        (fun tuple member => (welcome tuple member).storable) (fun free => fine (same.mpr free))
      have ended : Client.from (server codec (clock 0))
          (do writeTuplesTx codec tc.tenantID batch; commit) (.working db db) =
            (.error (.postgres "25P02"), .broken db data) := Client.from_bind_error _ _ broke
      rw [ended] at inOrder ⊢
      obtain ⟨e, refused⟩ : ∃ e, (s.writeTuplesLocked tc.tenantID batch clock).1 = .error e := by
        cases outcome : (s.writeTuplesLocked tc.tenantID batch clock).1 with
        | ok _ => exact absurd (writable_of_ok outcome) fine
        | error e => exact ⟨e, rfl⟩
      rw [Api.writeTuplesLocked_error refused]
      exact ⟨.duplicate, inStep.of_undone inOrder⟩

/-! ### Deleting -/

/-- Taking out the only element that passes a test is leaving out all that pass it. -/
theorem eraseP_eq_filter {α : Type} {test : α → Bool} {xs : List α}
    (only : xs.Pairwise fun a b => test a = true → test b = false) :
    xs.eraseP test = xs.filter (!test ·) := by
  -- The induction is on the list; behind the element that passes, no other does.
  induction xs with
  | nil => rfl
  | cons first rest ih =>
    obtain ⟨apart, only⟩ := List.pairwise_cons.mp only
    cases found : test first with
    | true =>
      rw [List.eraseP_cons_of_pos found, List.filter_cons_of_neg (by simp [found])]
      refine (List.filter_eq_self.mpr fun other member => ?_).symm
      rw [apart other member found]
      rfl
    | false =>
      rw [List.eraseP_cons_of_neg (by simp [found]), List.filter_cons_of_pos (by simp [found]),
        ih only]

/-- No two tuples of a tenant have the same identity. -/
theorem Related.distinct (related : Related unmarshal tenantID db s) :
    (s.tuplesOf tenantID).Pairwise fun t u => identityOf tenantID t ≠ identityOf tenantID u := by
  -- The index says so of the rows that are not deleted.
  have rows : ((db.tuples.rows.filter (·.liveFor tenantID)).map TupleRow.identity).Nodup := by
    rw [List.Nodup, List.pairwise_map]
    refine (db.tuples.unique.filter _).imp_of_mem fun {r t} first second apart => ?_
    have live := (List.mem_filter.mp first).2
    have alive := (List.mem_filter.mp second).2
    simp only [TupleRow.liveFor, Bool.and_eq_true, decide_eq_true_eq] at live alive
    exact apart live.1 alive.1
  have tuples := related.identities.nodup_iff.mp rows
  rwa [List.Nodup, List.pairwise_map] at tuples

/-- The rows that are left of a tenant when the rows with an identity are marked as deleted. -/
theorem markDeleted_live (table : TupleTable J) (identity : Identity) (now : Time)
    (tenantID : String) :
    (table.markDeleted identity now).rows.filter (·.liveFor tenantID) =
      (table.rows.filter (·.liveFor tenantID)).filter (!·.holds identity) := by
  simp only [TupleTable.markDeleted]
  -- The induction is on the rows; one that is marked is not live any more.
  induction table.rows with
  | nil => rfl
  | cons row rest ih =>
    rw [List.map_cons, List.filter_cons, List.filter_cons, ih]
    cases held : row.holds identity with
    | true => cases row.liveFor tenantID <;> simp [held, TupleRow.liveFor]
    | false => cases live : row.liveFor tenantID <;> simp [held, live]

/-- A deletion takes the tuple out of both stores. -/
theorem Related.deleted (related : Related unmarshal tenantID db s) (tuple : RelationTuple V) :
    ∃ order, order.Perm ((s.tuplesOf tenantID).eraseP (sameIdentity · tuple)) ∧
      List.Forall₂ (TupleRow.Matches unmarshal)
        ((db.tuples.markDeleted (identityOf tenantID tuple) now).rows.filter (·.liveFor tenantID))
        order := by
  obtain ⟨order, permuted, matched⟩ := related.tuples
  have only : (s.tuplesOf tenantID).Pairwise fun t u =>
      sameIdentity t tuple = true → sameIdentity u tuple = false := by
    refine related.distinct.imp fun {t u} apart first => ?_
    rw [← Bool.not_eq_true]
    intro second
    exact apart ((identityOf_eq_iff.mpr first).trans (identityOf_eq_iff.mpr second).symm)
  have all_live : ∀ row ∈ db.tuples.rows.filter (·.liveFor tenantID),
      row.liveFor tenantID = true := fun row member => (List.mem_filter.mp member).2
  have both := List.forall₂_and_left _ _ |>.mpr ⟨all_live, matched⟩
  refine ⟨order.filter (!sameIdentity · tuple), ?_, ?_⟩
  · rw [eraseP_eq_filter only]
    exact permuted.filter _
  · rw [markDeleted_live]
    refine List.Forall₂.imp (fun _ _ pair => pair.2) (List.rel_filter ?_ both)
    rintro row t ⟨live, fields⟩
    -- A live row holds the identity when its tuple agrees with the one that is deleted.
    have identity := fields.identity live
    simp only [TupleRow.liveFor, Bool.and_eq_true, decide_eq_true_eq] at live
    simp only [Bool.not_eq_true', ← Bool.not_eq_true, TupleRow.holds, live.1, identity, decide_true,
      Bool.true_and, decide_eq_true_eq]
    exact not_congr identityOf_eq_iff

/-- The entry of a deletion fits the changelog when the identity does. -/
theorem deleteEntry_fits {tuple : RelationTuple V} (fits : (identityOf tenantID tuple).Fits) :
    EntryFits (deleteEntry tenantID tuple) where
  operation := show Fits 8 "DELETE" by decide
  objectType := fits.objectType
  objectID := fits.objectID
  relation := fits.relation
  subjectType := fits.subjectType
  subjectID := fits.subjectID
  subjectRelation := fits.subjectRelation
  actor := show Fits 256 "" by decide
  source := show Fits 32 "api" by decide

/-- The texts of an identity can be sent as arguments. -/
def Sendable (tuple : RelationTuple V) : Prop :=
  ∀ text ∈ [tuple.objectType, tuple.objectID, tuple.relation, tuple.subjectType, tuple.subjectID,
    tuple.subjectRelation], '\x00' ∉ text.toList

instance (tuple : RelationTuple V) : Decidable (Sendable tuple) :=
  inferInstanceAs (Decidable (∀ text ∈ [tuple.objectType, tuple.objectID, tuple.relation,
    tuple.subjectType, tuple.subjectID, tuple.subjectRelation], '\x00' ∉ text.toList))

/-- Such a deletion marks the rows that hold the identity, of which there may be none. -/
theorem exec_deleteTuple (codec : Codec V J) (now : Time) (clean : '\x00' ∉ tenantID.toList)
    {tuple : RelationTuple V} (sendable : Sendable tuple) (db : Database J) :
    Statement.exec codec now (.deleteTuple tenantID tuple) db =
      .ok (db.tuples.rows.countP (·.holds (identityOf tenantID tuple)),
        { db with tuples := db.tuples.markDeleted (identityOf tenantID tuple) now }) := by
  simp only [Sendable, List.forall_mem_cons, List.not_mem_nil, false_implies, implies_true,
    and_true] at sendable
  simp [Statement.exec, bindTexts, clean, sendable, bind, Except.bind, pure, Except.pure]

/-- The body of `DeleteTuple`, in its transaction. -/
def deleteTupleTx (codec : Codec V J) (tuple : RelationTuple V) (tenantID : String) :
    StoreM V Unit := do
  let tag ← Transaction.exec (Statement.deleteTuple tenantID tuple)
  let rowsAffected : Nat := tag
  if rowsAffected = 0 then throw .notFound
  appendChangelogTx codec tenantID (deleteEntry tenantID tuple)
  commit

/-- A deletion of nothing gives up, and leaves everything as it is. -/
theorem deleteTupleTx_missing (codec : Codec V J) (now : Time) (clean : '\x00' ∉ tenantID.toList)
    {tuple : RelationTuple V} (sendable : Sendable tuple)
    (missing : db.tuples.holds (identityOf tenantID tuple) = false) :
    ∃ data : Database J, data.sequence = db.sequence ∧
      Client.from (server codec now) (deleteTupleTx codec tuple tenantID) (.working db db) =
        (.error .notFound, .working db data) := by
  have none : db.tuples.rows.countP (·.holds (identityOf tenantID tuple)) = 0 := by
    rw [List.countP_eq_zero]
    exact fun row stored => List.any_eq_false.mp missing row stored
  have ran : (server codec now).exec (Statement.deleteTuple tenantID tuple) db = _ :=
    exec_deleteTuple codec now clean sendable db
  rw [none] at ran
  refine ⟨{ db with tuples := db.tuples.markDeleted (identityOf tenantID tuple) now }, rfl, ?_⟩
  unfold deleteTupleTx
  rw [Client.from_bind_ok _ _ (Client.from_exec_ok (server codec now) db db ran)]
  rfl

/-- A deletion that finds a row marks it, and logs that. -/
theorem deleteTupleTx_held (codec : Codec V J) (now : Time) (clean : '\x00' ∉ tenantID.toList)
    {tuple : RelationTuple V} (sendable : Sendable tuple)
    (known : db.references tenantID = .ok ())
    (held : db.tuples.holds (identityOf tenantID tuple) = true) :
    ∃ (row : ChangelogRow J) (data : Database J),
      Client.from (server codec now) (deleteTupleTx codec tuple tenantID) (.working db db) =
        (.ok (), .idle data) ∧ row.event = (.delete, identityOf tenantID tuple) ∧
      data.tenants = db.tenants ∧ data.changelog = db.changelog ++ [row] ∧
      data.tuples = db.tuples.markDeleted (identityOf tenantID tuple) now := by
  have some_there : db.tuples.rows.countP (·.holds (identityOf tenantID tuple)) ≠ 0 := by
    obtain ⟨row, stored, holds⟩ := List.any_eq_true.mp held
    exact (List.countP_pos_iff.mpr ⟨row, stored, holds⟩).ne'
  have ran : (server codec now).exec (Statement.deleteTuple tenantID tuple) db = _ :=
    exec_deleteTuple codec now clean sendable db
  -- The row that is found has texts that fit, and so has its entry.
  have fits := TupleTable.fits_of_holds held
  have named : Fits 128 tenantID := fits.tenantID
  obtain ⟨row, built, carries⟩ := ChangelogRow.build_of_fits codec now (db.sequence + 1) named
    (deleteEntry_fits fits) rfl
  have own : row.tenantID.text = tenantID := congrArg Identity.tenantID carries.identity
  let marked : Database J :=
    { db with tuples := db.tuples.markDeleted (identityOf tenantID tuple) now }
  have referenced : marked.references row.tenantID.text = .ok () := own ▸ known
  have append : Statement.exec codec now (.insertChangelog tenantID (deleteEntry tenantID tuple)
      (codec.marshal (deleteEntry tenantID tuple).metadata).toOption) marked =
      .ok ((1 : Nat), { marked with
        changelog := db.changelog ++ [row], sequence := db.sequence + 1 }) := by
    simp only [marked] at referenced
    simp only [Statement.exec, bind, Except.bind, marked, built, referenced, pure, Except.pure]
  refine ⟨row, { marked with changelog := db.changelog ++ [row], sequence := db.sequence + 1 }, ?_,
    ?_, rfl, rfl, rfl⟩
  · have logged : Client.from (server codec now)
        (appendChangelogTx codec tenantID (deleteEntry tenantID tuple)) (.working db marked) =
          (.ok (), .working db { marked with
            changelog := db.changelog ++ [row], sequence := db.sequence + 1 }) := by
      unfold appendChangelogTx
      exact Client.from_bind_ok _ _ (Client.from_exec_ok (server codec now) db marked append)
    unfold deleteTupleTx
    rw [Client.from_bind_ok _ _ (Client.from_exec_ok (server codec now) db db ran)]
    dsimp only
    rw [if_neg some_there]
    rw [Client.from_bind_ok _ _ logged]
    rfl
  · simp only [ChangelogRow.event, carries.operation, carries.identity]
    rfl

/-- A tuple that is deleted is logged in both stores, and is gone from both. -/
theorem InStep.removed (inStep : InStep config unmarshal db s) {tuple t : RelationTuple V}
    (found : (s.tuplesOf tenantID).find? (sameIdentity · tuple) = some t) {row : ChangelogRow J}
    {data : Database J} (event : row.event = (.delete, identityOf tenantID tuple))
    (tenants : data.tenants = db.tenants) (logged : data.changelog = db.changelog ++ [row])
    (marked : data.tuples = db.tuples.markDeleted (identityOf tenantID tuple) now)
    (inOrder : data.InOrder) (timestamp : Time) :
    InStep config unmarshal data ({ s with
        tuples := s.tuples.insert tenantID ((s.tuplesOf tenantID).eraseP (sameIdentity · tuple))
        }.appendTupleChangelogUnsafe tenantID .delete t "api" timestamp) := by
  have own : row.tenantID.text = tenantID := congrArg (fun event => event.2.tenantID) event
  have agrees : identityOf tenantID t = identityOf tenantID tuple := by
    have same : sameIdentity t tuple = true := by simpa using List.find?_some found
    exact identityOf_eq_iff.mpr same
  refine inStep.of_change tenantID tenants inOrder ?_ ?_ ?_ ?_ ?_ ?_ ?_ ?_
  · intro other apart
    rw [marked, markDeleted_live]
    -- A row of another tenant holds none of this one's identities.
    refine List.filter_eq_self.mpr fun kept member => ?_
    have live := (List.mem_filter.mp member).2
    rw [Bool.not_eq_true', ← Bool.not_eq_true]
    intro held
    have mine := TupleRow.liveFor_of_holds held
    simp only [TupleRow.liveFor, Bool.and_eq_true, decide_eq_true_eq] at live mine
    exact apart (live.2.symm.trans mine.2)
  · intro other apart
    have none : ¬ row.tenantID.text = other := fun same => apart (same.symm.trans own)
    simp [Database.events, logged, none]
  · rfl
  · intro other apart
    rw [appendTupleChangelogUnsafe_foreign apart]
    simp [Store.slice, AList.lookup_insert_ne apart]
  · simp [Store.appendTupleChangelogUnsafe]
  · have bucket : (Store.appendTupleChangelogUnsafe { s with
        tuples := s.tuples.insert tenantID ((s.tuplesOf tenantID).eraseP (sameIdentity · tuple)) }
          tenantID .delete t "api" timestamp).tuplesOf tenantID =
        (s.tuplesOf tenantID).eraseP (sameIdentity · tuple) := by
      simp [Store.appendTupleChangelogUnsafe, Store.tuplesOf]
    rw [bucket, marked]
    exact (inStep.related tenantID).deleted tuple
  · intro u among
    refine inStep.plain tenantID u (List.mem_of_mem_eraseP (p := (sameIdentity · tuple)) ?_)
    simpa [Store.appendTupleChangelogUnsafe, Store.tuplesOf] using among
  · have before := inStep.events tenantID
    simp only [Database.events, eventsIn] at before ⊢
    simp [logged, own, before, event, agrees, Store.appendTupleChangelogUnsafe, Store.changelogOf]

/-- A tuple is deleted from both stores, or found in none. -/
theorem InStep.deleted (inStep : InStep config unmarshal db s) {tc : TenantContext V}
    (clean : '\x00' ∉ tc.tenantID.toList) {tuple : RelationTuple V} (sendable : Sendable tuple) :
    SameOutcome (call codec (clock 0) db (deleteTuple codec (some tc) tuple)).1
        (s.deleteTuple (some tc) tuple clock).1 ∧
      InStep config unmarshal (call codec (clock 0) db (deleteTuple codec (some tc) tuple)).2
        (s.deleteTuple (some tc) tuple clock).2 := by
  have related := inStep.related tc.tenantID
  have guarded : call codec (clock 0) db (deleteTuple codec (some tc) tuple) = _ :=
    call_guarded (deleteTupleTx codec tuple) related codec (clock 0) clean
      (inStep.declared tc.tenantID)
  have inside : SendsInside tc.tenantID (deleteTupleTx codec tuple tc.tenantID) :=
    deleteTupleTx_sends codec _ tuple
  have inOrder := inOrder_of_inside codec (clock 0) inside inStep.inOrder
  rw [guarded]
  simp only [Store.deleteTuple, Store.writing, tenantIDFromCtx]
  cases checked : s.checkTenantWritable tc.tenantID with
  | error e => exact ⟨.error e, inStep⟩
  | ok _ =>
    dsimp only
    -- The tenant has a row, which the changelog may refer to.
    obtain ⟨t, stored⟩ := Api.stored_of_writable checked
    have status : db.statusOf tc.tenantID = some t.status := by
      rw [related.status, Store.statusOf, stored]
      rfl
    have known := (known_of_statusOf status).2
    have holds := related.holds_iff tuple
    cases found : (s.tuplesOf tc.tenantID).find? (sameIdentity · tuple) with
    | none =>
      have missing : db.tuples.holds (identityOf tc.tenantID tuple) = false := by
        rw [← Bool.not_eq_true, holds]
        rintro ⟨u, among, same⟩
        exact List.find?_eq_none.mp found u among (identityOf_eq_iff.mp same)
      obtain ⟨data, same, ran⟩ := deleteTupleTx_missing codec (clock 0) clean sendable missing
      rw [ran] at inOrder ⊢
      exact ⟨.error .notFound, inStep.of_undone inOrder⟩
    | some u =>
      have held : db.tuples.holds (identityOf tc.tenantID tuple) = true := by
        have agrees : sameIdentity u tuple = true := by simpa using List.find?_some found
        exact holds.mpr ⟨u, List.mem_of_find?_eq_some found, identityOf_eq_iff.mpr agrees⟩
      obtain ⟨row, data, ran, event, tenants, logged, marked⟩ :=
        deleteTupleTx_held codec (clock 0) clean sendable known held
      rw [ran] at inOrder ⊢
      exact ⟨.ok, inStep.removed found event tenants logged marked inOrder (clock 0)⟩

/-! ### Tenants -/

/-- A configuration is marshalled to a text that PostgreSQL accepts and that is read again. -/
def ConfigCodec.Writes (config : ConfigCodec V) (codec : Codec V J) (settings : TenantConfig V) :
    Prop :=
  ∃ text, config.marshal settings = .ok text ∧ (∃ json, codec.jsonb text = .ok json) ∧
    ∃ resolved, config.unmarshal text = .ok resolved

/-- The configuration of a new tenant can be written, and so can each one that was read. -/
structure ConfigCodec.Reliable (config : ConfigCodec V) (codec : Codec V J) : Prop where
  new : config.Writes codec defaultTenantConfig
  again : ∀ {text settings}, config.unmarshal text = .ok settings → config.Writes codec settings

/-- A change of tenant records leaves the stores alike, if it does so for the statuses. -/
theorem InStep.of_records (inStep : InStep config unmarshal db s) {tenants : List TenantRow}
    {after : Memory.Store V}
    (status : ∀ tenantID, ({ db with tenants } : Database J).statusOf tenantID =
      after.statusOf tenantID)
    (legible : ∀ row ∈ tenants, row.Legible config)
    (declared : ∀ tenantID found, after.statusOf tenantID = some found → found.Declared)
    (own : ∀ tenantID t, after.tenants.lookup tenantID = some t → t.id = tenantID)
    (tuples : ∀ tenantID, after.tuplesOf tenantID = s.tuplesOf tenantID)
    (changelog : ∀ tenantID, after.changelogOf tenantID = s.changelogOf tenantID)
    (opened : ∀ tenantID, after.tuples.lookup tenantID = none → s.tuples.lookup tenantID = none) :
    InStep config unmarshal { db with tenants } after := by
  refine ⟨fun tenantID => ⟨status tenantID, ?_⟩, fun tenantID => ?_,
    ⟨inStep.inOrder.numbered, inStep.inOrder.ordered⟩, legible, declared, own,
    fun tenantID t among => ?_, fun tenantID missing => ?_⟩
  · rw [tuples]
    exact (inStep.related tenantID).tuples
  · have same := inStep.events tenantID
    simp only [eventsIn, changelog] at same ⊢
    exact same
  · rw [tuples] at among
    exact inStep.plain tenantID t among
  · rw [changelog]
    exact inStep.opened tenantID (opened tenantID missing)

/-- The status of a tenant after the columns of the rows with an ID were updated. -/
theorem statusOf_updated (db : Database J) (columns : TenantRow) (updated tenantID : String) :
    ({ db with
        tenants := db.tenants.map fun row =>
          if row.id.text = updated then row.update columns else row } : Database J).statusOf tenantID =
      if tenantID = updated then (db.statusOf tenantID).map fun _ => columns.status
      else db.statusOf tenantID := by
  -- An update sets neither the ID nor `deleted_at`, so the same row is found.
  have found : ((fun row : TenantRow =>
      decide (row.id.text = tenantID) && decide (row.deletedAt = none)) ∘ fun row =>
        if row.id.text = updated then row.update columns else row) =
          fun row => decide (row.id.text = tenantID) && decide (row.deletedAt = none) := by
    funext row
    simp only [Function.comp]
    split <;> rfl
  simp only [Database.statusOf, List.find?_map, found]
  cases old : db.tenants.find? fun row =>
      decide (row.id.text = tenantID) && decide (row.deletedAt = none) with
  | none => simp
  | some row =>
    have named := List.find?_some old
    simp only [Bool.and_eq_true, decide_eq_true_eq] at named
    by_cases same : tenantID = updated
    · simp [named.1, same, TenantRow.update]
    · simp [named.1, same]

/-- The record that is read of a row. -/
def TenantRow.record (row : TenantRow) (resolved : TenantConfig V) : Tenant V where
  id := row.id.text
  displayName := row.displayName.text
  parentTenantID := Varchar.coalesce row.parentTenantID
  status := row.status
  schemaMode := row.schemaMode
  sharedSchemaRef := Varchar.coalesce row.sharedSchemaRef
  config := resolved
  createdAt := row.createdAt
  updatedAt := row.updatedAt

/-- A tenant that both stores have is read of its row. -/
theorem getTenant_found (codec : Codec V J) (now : Time) (clean : '\x00' ∉ tenantID.toList)
    {row : TenantRow} (found : db.tenantRow tenantID = some row) {resolved : TenantConfig V}
    (read : config.unmarshal row.config = .ok resolved) :
    Client.from (server codec now) (getTenant config tenantID) (.idle db) =
      (.ok (row.record resolved), .idle db) := by
  have query : (server codec now).exec (Statement.selectTenant tenantID)
      (Session.idle db).committed = .ok (some row, db) := by
    show Statement.exec codec now (.selectTenant tenantID) db = _
    simp [Statement.exec, bindTexts, clean, found, bind, Except.bind, pure, Except.pure]
  have answered := Client.from_auto (server codec now) (.idle db) query
  have adapted : Client.from (server codec now)
      ((auto (Statement.selectTenant tenantID)).adapt Err.getTenant) (.idle db) =
        (.ok (some row), .idle db) := by
    rw [Client.from_adapt, answered]
    rfl
  unfold getTenant
  rw [Client.from_bind_ok _ _ adapted]
  simp only [read]
  rfl

/-- A tenant that no store has is not found. -/
theorem getTenant_missing (codec : Codec V J) (now : Time) (clean : '\x00' ∉ tenantID.toList)
    (missing : db.tenantRow tenantID = none) :
    Client.from (server codec now) (getTenant config tenantID) (.idle db) =
      (.error .tenantNotFound, .idle db) := by
  have query : (server codec now).exec (Statement.selectTenant tenantID)
      (Session.idle db).committed = .ok ((none : Option TenantRow), db) := by
    show Statement.exec codec now (.selectTenant tenantID) db = _
    simp [Statement.exec, bindTexts, clean, missing, bind, Except.bind, pure, Except.pure]
  have answered := Client.from_auto (server codec now) (.idle db) query
  have adapted : Client.from (server codec now)
      ((auto (Statement.selectTenant tenantID)).adapt Err.getTenant) (.idle db) =
        (.ok (none : Option TenantRow), .idle db) := by
    rw [Client.from_adapt, answered]
    rfl
  unfold getTenant
  rw [Client.from_bind_ok _ _ adapted]
  rfl

/-- A legible row can be written again under another status. -/
theorem TenantRow.Legible.rebuilt {row : TenantRow} (legible : row.Legible config)
    (reliable : config.Reliable codec) (now : Time) {status : TenantStatus}
    (declared : status.Declared) {resolved : TenantConfig V}
    (unmarshalled : config.unmarshal row.config = .ok resolved) {t : Tenant V}
    (read : row.record resolved = t) :
    ∃ configJSON columns, config.marshal t.config = .ok configJSON ∧
      TenantRow.build codec { t with status, id := "", parentTenantID := "" } configJSON now =
        .ok columns ∧ columns.status = status ∧
      ∀ other : TenantRow, other.deletedAt = none → (other.update columns).Legible config := by
  subst read
  obtain ⟨configJSON, marshalled, ⟨json, accepted⟩, again⟩ := reliable.again unmarshalled
  -- Every text comes from a column of the same width.
  obtain ⟨displayName, hdn, -⟩ := Varchar.assign_of_fits row.displayName.fits
  obtain ⟨reference, hr, -⟩ := Varchar.assignNullable_of_fits (Varchar.fits_coalesce row.sharedSchemaRef)
  obtain ⟨noID, hid, -⟩ := Varchar.assign_of_fits (show Fits 128 "" by decide)
  have hp : Varchar.assignNullable 128 "" = .ok none := rfl
  have built : ∃ columns, TenantRow.build codec
      { row.record resolved with status, id := "", parentTenantID := "" } configJSON now =
        .ok columns :=
    ⟨_, by simp only [TenantRow.build, TenantRow.record, accepted, hdn, hr, hid, hp,
      legible.schemaMode, assignStatus_declared declared, Except.mapError, bind, Except.bind, pure,
      Except.pure]; rfl⟩
  obtain ⟨columns, built⟩ := built
  have assigned := TenantRow.built built
  have mode := assigned.schemaMode
  simp only [TenantRow.record, legible.schemaMode, Except.ok.injEq] at mode
  refine ⟨configJSON, columns, marshalled, built, ?_, fun other kept => ⟨kept, ?_, ?_⟩⟩
  · have set := assigned.status
    simp only [assignStatus_declared declared, Except.ok.injEq] at set
    exact set.symm
  · simp only [TenantRow.update, ← mode]
    exact legible.schemaMode
  · simp only [TenantRow.update, assigned.config]
    exact again

/-- A tenant that both stores have is updated to a status, in its row and in its record. -/
theorem updateTenant_overwrites (codec : Codec V J) (reliable : config.Reliable codec) (now : Time)
    {row : TenantRow} (legible : row.Legible config) (stored : row ∈ db.tenants) {status : TenantStatus}
    (declared : status.Declared) {resolved : TenantConfig V}
    (unmarshalled : config.unmarshal row.config = .ok resolved) {t : Tenant V}
    (read : row.record resolved = t) :
    ∃ columns : TenantRow, columns.status = status ∧
      (∀ other : TenantRow, other.deletedAt = none → (other.update columns).Legible config) ∧
      Client.from (server codec now) (updateTenant config { t with status }) (.idle db) =
          (.ok (), .idle { db with
            tenants := db.tenants.map fun other =>
              if other.id.text = row.id.text then other.update columns else other }) := by
  obtain ⟨configJSON, columns, marshalled, built, set, legible⟩ :=
    legible.rebuilt reliable now declared unmarshalled read
  have own : t.id = row.id.text := read ▸ rfl
  have affected : db.tenants.countP (fun other => decide (other.id.text = row.id.text)) ≠ 0 :=
    (List.countP_pos_iff.mpr ⟨row, stored, decide_eq_true rfl⟩).ne'
  have sent : bindTexts [row.id.text] = .ok () := by simp [bindTexts, row.id.fits.2]
  have executed : (server codec now).exec (Statement.updateTenant { t with status } configJSON)
      (Session.idle db).committed =
        .ok (db.tenants.countP (fun other => decide (other.id.text = row.id.text)), { db with
          tenants := db.tenants.map fun other =>
            if other.id.text = row.id.text then other.update columns else other }) := by
    show Statement.exec codec now (.updateTenant _ configJSON) db = _
    simp only [Statement.exec, own, sent, built, bind, Except.bind, pure, Except.pure]
  refine ⟨columns, set, legible, ?_⟩
  unfold updateTenant
  rw [Client.from_bind, Client.from_outcome, marshalled]
  simp only [Except.mapError]
  rw [Client.from_bind_ok _ _ (Client.from_auto (server codec now) (.idle db) executed)]
  rw [if_neg affected]
  rfl

/-- A lifecycle call moves a tenant in both stores, or is refused by both. -/
theorem InStep.moved (inStep : InStep config unmarshal db s) (codec : Codec V J)
    (reliable : config.Reliable codec) (clean : '\x00' ∉ tenantID.toList)
    (now : Time) (clock : Clock) (check : TenantStatus → Except Err Unit) {status : TenantStatus}
    (declared : status.Declared) :
    SameOutcome
        (call codec now db (Manager.transition (tupleStore config) check status tenantID)).1
        ((Manager.transition (Memory.tupleStore clock) check status tenantID).run.run s).1 ∧
      InStep config unmarshal
        (call codec now db (Manager.transition (tupleStore config) check status tenantID)).2
        ((Manager.transition (Memory.tupleStore clock) check status tenantID).run.run s).2 := by
  have same := (inStep.related tenantID).status
  rw [transition_run]
  unfold call Manager.transition
  cases stored : s.tenants.lookup tenantID with
  | none =>
    have missing : db.tenantRow tenantID = none := by
      simp only [Database.statusOf, Store.statusOf, stored, Option.map_none,
        Option.map_eq_none_iff] at same
      exact same
    have read : Client.from (server codec now) ((tupleStore config).getTenant tenantID) (.idle db) =
        _ := getTenant_missing codec now clean missing
    rw [Client.from_bind_error _ _ read]
    simp only [Store.getTenant, stored]
    exact ⟨.error .tenantNotFound, inStep⟩
  | some t =>
    obtain ⟨row, found, is⟩ : ∃ row, db.tenantRow tenantID = some row ∧ row.status = t.status := by
      simp only [Database.statusOf, Store.statusOf, stored, Option.map_some,
        Option.map_eq_some_iff] at same
      exact same
    have member := List.mem_of_find?_eq_some found
    have named : row.id.text = tenantID := by
      have selected := List.find?_some found
      simp only [Bool.and_eq_true, decide_eq_true_eq] at selected
      exact selected.1
    have legible := inStep.legible row member
    obtain ⟨resolved, unmarshalled⟩ := legible.config
    have read : Client.from (server codec now) ((tupleStore config).getTenant tenantID) (.idle db) =
        _ := getTenant_found codec now clean found unmarshalled
    have recorded : (row.record resolved : Tenant V).status = t.status := is
    generalize as_read : row.record resolved = u at read recorded
    rw [Client.from_bind_ok _ _ read, Client.from_bind, Client.from_outcome, recorded]
    simp only [Store.getTenant, stored]
    cases check t.status with
    | error e => exact ⟨.error e, inStep⟩
    | ok _ =>
      obtain ⟨columns, set, kept, ran⟩ :=
        updateTenant_overwrites codec reliable now legible member declared unmarshalled as_read
      have updated : Client.from (server codec now)
          ((tupleStore config).updateTenant { u with status }) (.idle db) = _ := ran
      have own := inStep.own tenantID t stored
      have found : s.tenants.lookup ({ t with status } : Tenant V).id = some t := own.symm ▸ stored
      simp only [updated]
      rw [Api.updateTenant_found found]
      simp only [own]
      refine ⟨.ok, inStep.of_records ?_ ?_ ?_ ?_ (fun _ => rfl) (fun _ => rfl) (fun _ => id)⟩
      · intro other
        rw [statusOf_updated, named, set]
        by_cases same : other = tenantID
        · subst same
          simp [Store.statusOf, (inStep.related other).status, stored]
        · rw [if_neg same, (inStep.related other).status]
          simp only [Store.statusOf, AList.lookup_insert_ne same]
      · intro changed among
        obtain ⟨other, old, rfl⟩ := List.mem_map.mp among
        split
        · exact kept other (inStep.legible other old).kept
        · exact inStep.legible other old
      · intro other found held
        by_cases same : other = tenantID
        · subst same
          simp only [Store.statusOf, AList.lookup_insert, Option.map_some, Option.some.injEq] at held
          exact held ▸ declared
        · simp only [Store.statusOf, AList.lookup_insert_ne same] at held
          exact inStep.declared other found held
      · intro other u held
        by_cases same : other = tenantID
        · subst same
          obtain rfl := Option.some.inj ((AList.lookup_insert _).symm.trans held)
          rfl
        · rw [AList.lookup_insert_ne same] at held
          exact inStep.own other u held

/-- A row of a database without soft-deleted tenants has an ID exactly when the ID has a status. -/
theorem InStep.named_iff (inStep : InStep config unmarshal db s) (id : String) :
    db.tenants.any (·.id.text = id) = true ↔ ∃ t, s.tenants.lookup id = some t := by
  have status := (inStep.related id).status
  have isSome : (db.statusOf id).isSome = true ↔ ∃ t, s.tenants.lookup id = some t := by
    rw [status, Store.statusOf, Option.isSome_map, Option.isSome_iff_exists]
  rw [← isSome, Database.statusOf, Option.isSome_map, List.find?_isSome, List.any_eq_true]
  -- The clause on `deleted_at` holds of every row.
  refine exists_congr fun row => and_congr_right fun stored => ?_
  simp [(inStep.legible row stored).kept]

/-- What a tenant that is created needs in order to be stored. -/
structure Creatable (displayName : String) (mode : SchemaMode) : Prop where
  displayName : Fits 256 displayName
  schemaMode : assignSchemaMode mode = .ok mode

/-- The row of a new tenant can be built, is pending, and is legible. -/
theorem createTenant_built (codec : Codec V J) (reliable : config.Reliable codec) (now : Time)
    {id displayName : String} (named : Fits 128 id) {mode : SchemaMode}
    (creatable : Creatable displayName mode) :
    ∃ configJSON row, config.marshal (defaultTenantConfig : TenantConfig V) = .ok configJSON ∧
      TenantRow.build codec ({
        id
        displayName := if displayName = "" then id else displayName
        status := .pending
        schemaMode := mode
        config := defaultTenantConfig
        createdAt := now } : Tenant V) configJSON now = .ok row ∧
      row.id.text = id ∧ row.status = .pending ∧ row.parentTenantID = none ∧
      row.Legible config := by
  obtain ⟨configJSON, marshalled, ⟨json, accepted⟩, again⟩ := reliable.new
  -- Without a name of its own the tenant is named by its ID.
  have shown : Fits 256 (if displayName = "" then id else displayName) := by
    split
    · exact ⟨named.1.trans (by decide), named.2⟩
    · exact creatable.displayName
  obtain ⟨ownID, hid, same⟩ := Varchar.assign_of_fits named
  obtain ⟨title, hdn, -⟩ := Varchar.assign_of_fits shown
  have empty : Varchar.assignNullable 128 "" = .ok none := rfl
  refine ⟨configJSON, _, marshalled, by
    simp only [TenantRow.build, accepted, hid, hdn, empty, creatable.schemaMode, assignStatus,
      Except.mapError, bind, Except.bind, pure, Except.pure]; rfl, same, rfl, rfl, rfl, ?_, again⟩
  exact creatable.schemaMode

/-- A creation in memory validates the ID and stores the record. -/
theorem edit_create (s : Memory.Store V) (clock : Clock) (id displayName : String)
    (mode : SchemaMode) :
    s.edit clock (.create id displayName mode) =
      match validateTenantID id with
      | .error e => (.error e, s)
      | .ok () =>
        let created := s.createTenant {
          id
          displayName := if displayName = "" then id else displayName
          status := .pending
          schemaMode := mode
          config := defaultTenantConfig
          createdAt := clock 0 } fun n => clock (n + 1)
        (created.1.mapError .createTenant, created.2) := by
  have validated : (ExceptT.mk (pure (validateTenantID id)) :
      ExceptT Err (StateM (Memory.Store V)) Unit).run.run s = (validateTenantID id, s) := rfl
  simp only [Store.edit, Manager.create]
  rw [ExceptT.run_state_bind, validated]
  cases validateTenantID id with
  | error e => rfl
  | ok valid =>
    have adapted : ∀ clock tenant,
        (((Memory.tupleStore clock).createTenant tenant).adapt Err.createTenant :
          ExceptT Err (StateM (Memory.Store V)) Unit).run.run s =
            ((s.createTenant tenant clock).1.mapError .createTenant,
              (s.createTenant tenant clock).2) := fun _ _ => rfl
    simp only
    rw [ExceptT.run_state_bind, adapted]
    -- Whatever the store returns is returned, an error in its wrapping.
    generalize Store.createTenant s _ (fun n => clock (n + 1)) = result
    obtain ⟨outcome, after⟩ := result
    cases outcome <;> rfl

/-- A new tenant is inserted, unless there is a row with its ID. -/
theorem createTenant_from (codec : Codec V J) (now : Time) {tenant : Tenant V} {configJSON : String}
    (marshalled : config.marshal tenant.config = .ok configJSON) {row : TenantRow}
    (orphan : row.parentTenantID = none)
    (built : TenantRow.build codec tenant configJSON now = .ok row) :
    Client.from (server codec now) (createTenant config tenant now) (.idle db) =
      if db.tenants.any (·.id.text = row.id.text) then
        (.error (.createTenant (.postgres "23505")), .idle db)
      else (.ok (), .idle { db with tenants := db.tenants ++ [row] }) := by
  unfold createTenant
  rw [Client.from_bind, Client.from_outcome, marshalled]
  simp only [Except.mapError]
  cases taken : db.tenants.any (·.id.text = row.id.text) with
  | true =>
    have executed : (server codec now).exec (Statement.insertTenant tenant configJSON now) db =
        .error (.postgres "23505") := by
      show Statement.exec codec now (.insertTenant tenant configJSON now) db = _
      simp only [Statement.exec, built, taken, bind, Except.bind, if_true]
      rfl
    have adapted : Client.from (server codec now)
        ((auto (Statement.insertTenant tenant configJSON now)).adapt Err.createTenant) (.idle db) =
          (.error (.createTenant (.postgres "23505")), .idle db) := by
      rw [Client.from_adapt]
      have sent : Client.from (server codec now) (auto (Statement.insertTenant tenant configJSON now))
          (.idle db) = (.error (.postgres "23505"), .idle db) := by
        show (server codec now).execAuto (.idle db) _ = _
        simp only [Server.execAuto, Session.idle, executed]
      rw [sent]
      rfl
    rw [Client.from_bind_error _ _ adapted]
    rfl
  | false =>
    have executed : (server codec now).exec (Statement.insertTenant tenant configJSON now)
        (Session.idle db).committed = .ok ((1 : Nat), { db with tenants := db.tenants ++ [row] }) := by
      show Statement.exec codec now (.insertTenant tenant configJSON now) db = _
      simp only [Statement.exec, built, taken, orphan, bind, Except.bind, Bool.false_eq_true,
        if_false]
      rfl
    have adapted : Client.from (server codec now)
        ((auto (Statement.insertTenant tenant configJSON now)).adapt Err.createTenant) (.idle db) =
          (.ok (1 : Nat), .idle { db with tenants := db.tenants ++ [row] }) := by
      rw [Client.from_adapt, Client.from_auto (server codec now) (.idle db) executed]
      rfl
    rw [Client.from_bind_ok _ _ adapted]
    rfl

/-- A creation on Postgres validates the ID and inserts the row, unless there is one. -/
theorem editing_create (codec : Codec V J) (now : Time) {id displayName configJSON : String}
    {mode : SchemaMode} (valid : validateTenantID id = .ok ())
    (marshalled : config.marshal (defaultTenantConfig : TenantConfig V) = .ok configJSON)
    {row : TenantRow} (own : row.id.text = id) (orphan : row.parentTenantID = none)
    (built : TenantRow.build codec ({
      id
      displayName := if displayName = "" then id else displayName
      status := .pending
      schemaMode := mode
      config := defaultTenantConfig
      createdAt := now } : Tenant V) configJSON now = .ok row) :
    call codec now db (editing codec config now (.create id displayName mode)) =
      if db.tenants.any (·.id.text = id) then
        (.error (.createTenant (.createTenant (.postgres "23505"))), db)
      else (.ok (), { db with tenants := db.tenants ++ [row] }) := by
  have validated : Client.from (server codec now)
      (ExceptT.mk (pure (validateTenantID id)) : StoreM V Unit) (.idle db) = (.ok (), .idle db) := by
    rw [valid]
    rfl
  have inserted : Client.from (server codec now) _ (.idle db) = _ :=
    createTenant_from codec now marshalled orphan built
  simp only [call, editing, Manager.create, tupleStore]
  rw [Client.from_bind, Client.from_bind_ok _ _ validated, Client.from_bind, Client.from_adapt,
    inserted, own]
  -- What the store returns is wrapped once more by the manager.
  cases db.tenants.any (·.id.text = id) <;> rfl

/-- Opening the buckets of a tenant changes none that has something in it. -/
theorem initTenant_buckets (s : Memory.Store V) (id : String)
    (opened : s.tuples.lookup id = none → s.changelogOf id = []) (tenantID : String) :
    (s.initTenant id).tuplesOf tenantID = s.tuplesOf tenantID ∧
      (s.initTenant id).changelogOf tenantID = s.changelogOf tenantID ∧
      ((s.initTenant id).tuples.lookup tenantID = none → s.tuples.lookup tenantID = none) := by
  unfold Store.initTenant
  split
  · exact ⟨rfl, rfl, fun missing => missing⟩
  · rename_i missing
    by_cases same : tenantID = id
    · -- A bucket that is missing reads as an empty one.
      subst same
      have log := opened missing
      refine ⟨by simp [Store.tuplesOf, missing], ?_, fun _ => missing⟩
      rw [log]
      simp [Store.changelogOf]
    · simp only [Store.tuplesOf, Store.changelogOf, AList.lookup_insert_ne same]
      exact ⟨trivial, trivial, fun missing => missing⟩

/-- A tenant that no store has is added to both. -/
theorem InStep.added (inStep : InStep config unmarshal db s) {id : String}
    (missing : s.tenants.lookup id = none) {row : TenantRow} (own : row.id.text = id)
    (legible : row.Legible config) {t : Tenant V} (named : t.id = id) (status : row.status = t.status)
    (declared : t.status.Declared) :
    InStep config unmarshal { db with tenants := db.tenants ++ [row] }
      ({ s with tenants := s.tenants.insert id t }.initTenant id) := by
  have buckets := initTenant_buckets { s with tenants := s.tenants.insert id t } id
    (inStep.opened id)
  have absent : ¬ db.tenants.any (·.id.text = id) = true := by
    rw [inStep.named_iff, missing]
    simp
  have kept : ∀ other, other ≠ id →
      ({ s with tenants := s.tenants.insert id t }.initTenant id).statusOf other =
        s.statusOf other := by
    intro other apart
    simp only [Store.statusOf, initTenant_tenants, AList.lookup_insert_ne apart]
  have new : ({ s with tenants := s.tenants.insert id t }.initTenant id).statusOf id =
      some t.status := by
    simp [Store.statusOf, initTenant_tenants]
  refine inStep.of_records ?_ ?_ ?_ ?_ (fun other => (buckets other).1)
    (fun other => (buckets other).2.1) fun other => (buckets other).2.2
  · intro other
    by_cases same : other = id
    · -- No row before the new one has its ID.
      subst same
      have first : db.tenants.find? (fun old =>
          decide (old.id.text = other) && decide (old.deletedAt = none)) = none := by
        refine List.find?_eq_none.mpr fun old member => ?_
        have apart := List.any_eq_false.mp (Bool.eq_false_iff.mpr absent) old member
        simp only [decide_eq_true_eq] at apart
        simp [apart]
      rw [new, ← status]
      simp [Database.statusOf, List.find?_append, first, own, legible.kept]
    · have apart : ¬ row.id.text = other := fun named => same (named.symm.trans own)
      rw [kept other same, ← (inStep.related other).status]
      simp [Database.statusOf, List.find?_append, apart]
  · intro changed among
    rcases List.mem_append.mp among with old | added
    · exact inStep.legible changed old
    · obtain rfl := List.mem_singleton.mp added
      exact legible
  · intro other found held
    by_cases same : other = id
    · rw [same, new] at held
      exact Option.some.inj held ▸ declared
    · rw [kept other same] at held
      exact inStep.declared other found held
  · intro other u held
    rw [initTenant_tenants] at held
    by_cases same : other = id
    · subst same
      obtain rfl := Option.some.inj ((AList.lookup_insert _).symm.trans held)
      exact named
    · rw [AList.lookup_insert_ne same] at held
      exact inStep.own other u held

/-- A tenant is created in both stores, or in none. -/
theorem InStep.created (inStep : InStep config unmarshal db s) (codec : Codec V J)
    (reliable : config.Reliable codec) (id : String) {displayName : String} {mode : SchemaMode}
    (creatable : Creatable displayName mode) :
    SameOutcome (call codec now db (editing codec config now (.create id displayName mode))).1
        (s.edit clock (.create id displayName mode)).1 ∧
      InStep config unmarshal
        (call codec now db (editing codec config now (.create id displayName mode))).2
        (s.edit clock (.create id displayName mode)).2 := by
  rw [edit_create]
  cases valid : validateTenantID id with
  | error e =>
    have refused : call codec now db (editing codec config now (.create id displayName mode)) =
        (.error e, db) := by
      have validated : Client.from (server codec now)
          (ExceptT.mk (pure (validateTenantID id)) : StoreM V Unit) (.idle db) =
            (.error e, .idle db) := by
        rw [valid]
        rfl
      simp only [call, editing, Manager.create]
      rw [Client.from_bind_error _ _ (Client.from_bind_error _ _ validated)]
      rfl
    rw [refused]
    exact ⟨.error e, inStep⟩
  | ok _ =>
    have named : Fits 128 id := by
      refine fits_tenantID ?_
      unfold validateTenantID at valid
      split at valid
      · assumption
      · cases valid
    obtain ⟨configJSON, row, marshalled, built, own, pending, orphan, legible⟩ :=
      createTenant_built codec reliable now named creatable
    have there := inStep.named_iff id
    rw [editing_create codec now valid marshalled own orphan built]
    dsimp only [Store.createTenant]
    cases stored : s.tenants.lookup id with
    | some t =>
      rw [if_pos (there.mpr ⟨t, stored⟩)]
      exact ⟨.tenantExists id, inStep⟩
    | none =>
      rw [if_neg (by rw [there, stored]; simp)]
      exact ⟨.ok, inStep.added stored own legible rfl pending trivial⟩

/-! ### Runs -/

/-- What a call needs for both stores to treat it alike, given what is stored. -/
def Regular (codec : Codec V J) (unmarshal : J → Except String (AnyMap V)) (s : Memory.Store V)
    (now : Time) : Edit V → Prop
  | .create _ displayName mode => Creatable displayName mode
  | .activate tenantID | .suspend tenantID | .delete tenantID => '\x00' ∉ tenantID.toList
  | .writeTuple ctx tuple => ∀ tc ∈ ctx, '\x00' ∉ tc.tenantID.toList ∧
      Welcome codec unmarshal tuple ∧ NoRegrant now (s.tuplesOf tc.tenantID) [tuple]
  | .writeTuples ctx tuples => ∀ tc ∈ ctx, '\x00' ∉ tc.tenantID.toList ∧
      (∀ tuple ∈ tuples, Welcome codec unmarshal tuple) ∧
        NoRegrant now (s.tuplesOf tc.tenantID) tuples
  | .deleteTuple ctx tuple => ∀ tc ∈ ctx, '\x00' ∉ tc.tenantID.toList ∧ Sendable tuple

/-- A regular call is answered alike, and leaves the stores in step. -/
theorem InStep.step (inStep : InStep config unmarshal db s) (reliable : config.Reliable codec)
    {edit : Edit V} (regular : Regular codec unmarshal s (clock 0) edit) :
    SameOutcome ((editor codec config).step db (clock, edit)).1 (Memory.editor.step s (clock, edit)).1 ∧
      InStep config unmarshal ((editor codec config).step db (clock, edit)).2
        (Memory.editor.step s (clock, edit)).2 := by
  cases edit with
  | create id displayName mode => exact inStep.created codec reliable id regular
  | activate tenantID =>
    exact inStep.moved codec reliable regular (clock 0) clock
      (fun status => if status = .deleted then .error .tenantDeleted else .ok ())
      (show TenantStatus.Declared .active from trivial)
  | suspend tenantID =>
    exact inStep.moved codec reliable regular (clock 0) clock
      (fun status => if status ≠ .active then .error (.invalidStateTransition status) else .ok ())
      (show TenantStatus.Declared .suspended from trivial)
  | delete tenantID =>
    exact inStep.moved codec reliable regular (clock 0) clock
      (fun status => if status = .deleted then .error .tenantDeleted else .ok ())
      (show TenantStatus.Declared .deleted from trivial)
  | writeTuple ctx tuple =>
    cases ctx with
    -- Without a tenant nothing is sent.
    | none => exact ⟨.error _, inStep⟩
    | some tc =>
      obtain ⟨clean, welcome, regrants⟩ := regular tc rfl
      have wrote : SameOutcome _ (s.writeTuples (some tc) [tuple] clock).1 ∧ _ :=
        inStep.wrote clean (List.forall_mem_singleton.mpr welcome) regrants
      rw [← writeTuple_eq] at wrote
      exact wrote
  | writeTuples ctx tuples =>
    cases ctx with
    | none => exact ⟨.error _, inStep⟩
    | some tc =>
      obtain ⟨clean, welcome, regrants⟩ := regular tc rfl
      exact inStep.wrote clean welcome regrants
  | deleteTuple ctx tuple =>
    cases ctx with
    | none => exact ⟨.error _, inStep⟩
    | some tc =>
      obtain ⟨clean, sendable⟩ := regular tc rfl
      exact inStep.deleted clean sendable

/-- The changelog of a tenant reads alike, from the first entry on. -/
theorem InStep.changelog (inStep : InStep config unmarshal db s) (tenantID : String) :
    (db.changelogAfter tenantID 0).map ChangelogRow.event = eventsIn s tenantID := by
  rw [← inStep.events, Database.changelogAfter, Database.events]
  -- Every number is above zero, and the rows are in order before they are sorted.
  have all : db.changelog.filter (fun row =>
      decide (row.tenantID.text = tenantID) && decide (row.sequence > 0)) =
        db.changelog.filter fun row => decide (row.tenantID.text = tenantID) := by
    refine List.filter_congr fun row member => ?_
    simp [(inStep.inOrder.numbered row member).1]
  rw [all, List.Pairwise.insertionSort_eq]
  exact (inStep.inOrder.ordered.filter _).imp fun below => below.le

end ZanGuard.Postgres
