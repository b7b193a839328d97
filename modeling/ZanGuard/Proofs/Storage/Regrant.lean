import ZanGuard.Spec.Writes

/-! A Postgres write keeps duplicates and regrants apart exactly when it meets neither. -/

namespace ZanGuard.Postgres

open Transaction

variable {V J : Type} {codec : Codec V J} {now : Time} {tenantID : String}

/-! ### Columns -/

/-- A text that fits is stored as it is. -/
theorem Varchar.assign_of_fits {limit : Nat} {text : String} (fits : Fits limit text) :
    ∃ value, Varchar.assign limit text = .ok value ∧ value.text = text := by
  refine ⟨⟨text, fits⟩, ?_, rfl⟩
  simp only [Varchar.assign, dif_pos fits.2, dif_pos fits.1]

/-- A text that fits a nullable column reads back as it is, the empty one through NULL. -/
theorem Varchar.assignNullable_of_fits {limit : Nat} {text : String} (fits : Fits limit text) :
    ∃ value, Varchar.assignNullable limit text = .ok value ∧ Varchar.coalesce value = text := by
  -- The empty text becomes NULL and reads back as empty.
  unfold Varchar.assignNullable
  split
  · rename_i empty
    exact ⟨none, rfl, empty.symm⟩
  · obtain ⟨value, assigned, same⟩ := Varchar.assign_of_fits fits
    exact ⟨some value, by rw [assigned]; rfl, same⟩

/-- Whatever a nullable column reads as fits it. -/
theorem Varchar.fits_coalesce {limit : Nat} (value : Option (Varchar limit)) :
    Fits limit (Varchar.coalesce value) := by
  cases value with
  | none => exact ⟨Nat.zero_le _, List.not_mem_nil⟩
  | some v => exact v.fits

/-- A text that fits a column is what the column holds. -/
theorem Varchar.assigned_text {limit : Nat} {text : String} {value : Varchar limit}
    (fits : Fits limit text) (assigned : Varchar.assign limit text = .ok value) :
    value.text = text := by
  obtain ⟨_, same, kept⟩ := Varchar.assign_of_fits fits
  obtain rfl := Except.ok.inj (assigned.symm.trans same)
  exact kept

/-- A column holds the text that was assigned unless the text is too long, and was cut. -/
theorem Varchar.assigned_iff {limit : Nat} {text : String} {value : Varchar limit}
    (assigned : Varchar.assign limit text = .ok value) :
    value.text = text ↔ text.toList.length ≤ limit := by
  constructor
  · intro same
    exact same ▸ value.fits.1
  · intro short
    -- A text with a zero character would have been refused.
    have clean : '\x00' ∉ text.toList := by
      unfold Varchar.assign at assigned
      split at assigned
      · assumption
      · cases assigned
    exact Varchar.assigned_text ⟨short, clean⟩ assigned

/-- So does a column that may be NULL. -/
theorem Varchar.assignedNullable_iff {limit : Nat} {text : String} {value : Option (Varchar limit)}
    (assigned : Varchar.assignNullable limit text = .ok value) :
    Varchar.coalesce value = text ↔ text.toList.length ≤ limit := by
  unfold Varchar.assignNullable at assigned
  split at assigned
  · rename_i empty
    -- The empty text is stored as NULL, which reads as the empty text.
    obtain rfl := Except.ok.inj assigned
    subst empty
    exact iff_of_true rfl (Nat.zero_le _)
  · cases outcome : Varchar.assign limit text with
    | error e =>
      rw [outcome] at assigned
      cases assigned
    | ok stored =>
      rw [outcome] at assigned
      obtain rfl := Except.ok.inj assigned
      exact Varchar.assigned_iff outcome

/-- A computation whose errors all come from PostgreSQL. -/
def FromServer {α : Type} (outcome : Except Err α) : Prop :=
  ∀ e, outcome = .error e → ∃ code, e = .postgres code

namespace FromServer

variable {α β : Type}

theorem ok (value : α) : FromServer (.ok value) := by
  intro e failed
  cases failed

theorem error (code : String) : FromServer (.error (.postgres code) : Except Err α) := by
  intro e failed
  exact ⟨code, (Except.error.inj failed).symm⟩

theorem bind {first : Except Err α} {next : α → Except Err β} (head : FromServer first)
    (tail : ∀ value, FromServer (next value)) : FromServer (first >>= next) := by
  -- The first failure is the failure of the whole.
  intro e failed
  cases outcome : first with
  | error cause =>
    rw [outcome] at failed
    cases failed
    exact head _ outcome
  | ok value =>
    rw [outcome] at failed
    exact tail value e failed

end FromServer

theorem Varchar.assign_fromServer (limit : Nat) (text : String) :
    FromServer (Varchar.assign limit text) := by
  -- A text with a NUL is refused, and one that is too long unless only blanks are cut.
  unfold Varchar.assign
  split
  · split
    · exact .ok _
    · split
      · exact .ok _
      · exact .error _
  · exact .error _

theorem Varchar.assignNullable_fromServer (limit : Nat) (text : String) :
    FromServer (Varchar.assignNullable limit text) := by
  unfold Varchar.assignNullable
  split
  · exact .ok _
  · rw [map_eq_pure_bind]
    exact (Varchar.assign_fromServer limit text).bind fun _ => .ok _

theorem Codec.read_fromServer (codec : Codec V J) (text : String) :
    FromServer (codec.read text) := by
  unfold Codec.read
  cases codec.jsonb text with
  | error code => exact .error code
  | ok json => exact .ok json

theorem Database.references_fromServer (db : Database J) (tenantID : String) :
    FromServer (db.references tenantID) := by
  unfold Database.references
  split
  · exact .ok _
  · exact .error _

/-! ### Rows -/

/-- A storable tuple gives a row that carries it. -/
theorem TupleRow.build_of_storable (now : Time) {tuple : RelationTuple V} {attrsJSON : String}
    (named : Fits 128 tenantID) (storable : Storable codec tuple)
    (marshalled : marshalTupleAttributes codec tuple.attributes = .ok attrsJSON) :
    ∃ row, TupleRow.build codec now tenantID tuple attrsJSON = .ok row ∧
      row.Inserted codec now tenantID tuple := by
  -- Each column takes its text as it is, the nullable ones through NULL.
  obtain ⟨tenant, htenant, rfl⟩ := Varchar.assign_of_fits named
  obtain ⟨objectType, hot, ot⟩ := Varchar.assign_of_fits storable.objectType
  obtain ⟨objectID, hoi, oi⟩ := Varchar.assign_of_fits storable.objectID
  obtain ⟨relation, hr, r⟩ := Varchar.assign_of_fits storable.relation
  obtain ⟨subjectType, hst, st⟩ := Varchar.assign_of_fits storable.subjectType
  obtain ⟨subjectID, hsi, si⟩ := Varchar.assign_of_fits storable.subjectID
  obtain ⟨subjectRelation, hsr, sr⟩ := Varchar.assignNullable_of_fits storable.subjectRelation
  obtain ⟨subjectTenantID, hsti, sti⟩ := Varchar.assignNullable_of_fits storable.subjectTenantID
  obtain ⟨sourceSystem, hss, ss⟩ := Varchar.assignNullable_of_fits storable.sourceSystem
  obtain ⟨externalID, hei, ei⟩ := Varchar.assignNullable_of_fits storable.externalID
  obtain ⟨json, stored⟩ := storable.attributes
  -- The attributes are stored through the text that was marshalled.
  have read : codec.read attrsJSON = .ok json := by
    simpa only [storedAttributes, marshalled, bind, Except.bind] using stored
  refine ⟨_, by simp only [TupleRow.build, htenant, hot, hoi, hr, hst, hsi, hsr, hsti, hss, hei,
    read, bind, Except.bind, pure, Except.pure]; rfl, ?_, rfl⟩
  exact {
    identity := by simp only [TupleRow.identity, identityOf, ot, oi, r, st, si, sr]
    subjectTenantID := sti
    sourceSystem := ss
    externalID := ei
    attributes := stored
    expiresAt := rfl
    updatedAt := rfl
    deletedAt := rfl }

/-- A tuple that some row carries is storable. -/
theorem TupleRow.Carries.storable {row : TupleRow J} {tuple : RelationTuple V}
    (carries : row.Carries codec now tenantID tuple) : Storable codec tuple := by
  -- Every text of the tuple is read from a column, so it fits that column.
  have same := carries.identity
  simp only [TupleRow.identity, identityOf, Identity.mk.injEq] at same
  obtain ⟨-, ot, oi, r, st, si, sr⟩ := same
  exact {
    objectType := ot ▸ row.objectType.fits
    objectID := oi ▸ row.objectID.fits
    relation := r ▸ row.relation.fits
    subjectType := st ▸ row.subjectType.fits
    subjectID := si ▸ row.subjectID.fits
    subjectRelation := sr ▸ Varchar.fits_coalesce _
    subjectTenantID := carries.subjectTenantID ▸ Varchar.fits_coalesce _
    sourceSystem := carries.sourceSystem ▸ Varchar.fits_coalesce _
    externalID := carries.externalID ▸ Varchar.fits_coalesce _
    attributes := ⟨_, carries.attributes⟩ }

/-- An entry whose texts fit the columns of the changelog. -/
structure EntryFits (entry : ChangelogEntry V) : Prop where
  operation : Fits 8 (operationText entry.operation)
  objectType : Fits 128 entry.tuple.objectType
  objectID : Fits 256 entry.tuple.objectID
  relation : Fits 128 entry.tuple.relation
  subjectType : Fits 128 entry.tuple.subjectType
  subjectID : Fits 256 entry.tuple.subjectID
  subjectRelation : Fits 128 entry.tuple.subjectRelation
  actor : Fits 256 entry.actor
  source : Fits 32 entry.source

/-- A changelog row that has the texts of an entry. -/
structure ChangelogRow.Carries (tenantID : String) (row : ChangelogRow J)
    (entry : ChangelogEntry V) : Prop where
  identity : row.identity = identityOf tenantID entry.tuple
  operation : row.operation.text = operationText entry.operation
  actor : row.actor.text = entry.actor
  source : row.source.text = entry.source

/-- An entry without metadata that fits gives a row that carries it. -/
theorem ChangelogRow.build_of_fits (codec : Codec V J) (now : Time) (sequence : Nat)
    (named : Fits 128 tenantID) {entry : ChangelogEntry V} (fits : EntryFits entry)
    (bare : entry.metadata = none) :
    ∃ row, ChangelogRow.build codec now sequence tenantID entry
        (codec.marshal entry.metadata).toOption = .ok row ∧ row.Carries tenantID entry := by
  -- The row repeats the identity columns, with limits of the same size.
  obtain ⟨tenant, htenant, rfl⟩ := Varchar.assign_of_fits named
  obtain ⟨operation, hop, op⟩ := Varchar.assign_of_fits fits.operation
  obtain ⟨objectType, hot, ot⟩ := Varchar.assign_of_fits fits.objectType
  obtain ⟨objectID, hoi, oi⟩ := Varchar.assign_of_fits fits.objectID
  obtain ⟨relation, hr, r⟩ := Varchar.assign_of_fits fits.relation
  obtain ⟨subjectType, hst, st⟩ := Varchar.assign_of_fits fits.subjectType
  obtain ⟨subjectID, hsi, si⟩ := Varchar.assign_of_fits fits.subjectID
  obtain ⟨subjectRelation, hsr, sr⟩ := Varchar.assignNullable_of_fits fits.subjectRelation
  obtain ⟨actor, hac, ac⟩ := Varchar.assign_of_fits fits.actor
  obtain ⟨source, hso, so⟩ := Varchar.assign_of_fits fits.source
  -- There is no metadata, and a nil map is stored as JSON's null.
  obtain ⟨null, hnull⟩ := codec.jsonb_null
  have read : codec.read "null" = .ok null := by rw [Codec.read, hnull]; rfl
  have stored : (some "null").mapM codec.read = .ok (some null) := by
    rw [Option.mapM_some, read]
    rfl
  refine ⟨_, by simp only [ChangelogRow.build, bare, codec.marshal_nil, Except.toOption,
    stored, htenant, hot, hoi, hr, hst, hsi, hsr, hop, hac, hso, bind, Except.bind, pure,
    Except.pure]; rfl, ?_, op, ac, so⟩
  simp only [ChangelogRow.identity, identityOf, ot, oi, r, st, si, sr]

/-- The entry of a tuple fits when the identity of the tuple does. -/
theorem insertEntry_fits {tuple : RelationTuple V} (tenantID : String)
    (objectType : Fits 128 tuple.objectType) (objectID : Fits 256 tuple.objectID)
    (relation : Fits 128 tuple.relation) (subjectType : Fits 128 tuple.subjectType)
    (subjectID : Fits 256 tuple.subjectID) (subjectRelation : Fits 128 tuple.subjectRelation) :
    EntryFits (insertEntry tenantID tuple) where
  operation := show Fits 8 "INSERT" by decide
  objectType := objectType
  objectID := objectID
  relation := relation
  subjectType := subjectType
  subjectID := subjectID
  subjectRelation := subjectRelation
  actor := show Fits 256 "" by decide
  source := show Fits 32 "api" by decide

/-- The record of a storable tuple goes into the changelog. -/
theorem ChangelogRow.build_of_storable (now : Time) {tuple : RelationTuple V} (sequence : Nat)
    (named : Fits 128 tenantID) (storable : Storable codec tuple) :
    ∃ row, ChangelogRow.build codec now sequence tenantID (insertEntry tenantID tuple)
        (codec.marshal (insertEntry tenantID tuple).metadata).toOption = .ok row ∧
      row.Records tenantID tuple ∧ row.tenantID.text = tenantID := by
  have fits := insertEntry_fits tenantID storable.objectType storable.objectID storable.relation
    storable.subjectType storable.subjectID storable.subjectRelation
  obtain ⟨row, built, carries⟩ :=
    ChangelogRow.build_of_fits codec now sequence named fits rfl
  exact ⟨row, built, ⟨carries.operation, carries.identity⟩,
    congrArg Identity.tenantID carries.identity⟩

/-! ### Statements -/

/-- An insert fails with an error of the server only. -/
theorem exec_insertTuple_fromServer (tuple : RelationTuple V) (attrsJSON : String)
    (db : Database J) :
    FromServer (Statement.exec codec now (.insertTuple tenantID tuple attrsJSON) db) := by
  -- An insert builds the row, checks the unique index and then the foreign key.
  have build : FromServer (TupleRow.build codec now tenantID tuple attrsJSON) := by
    unfold TupleRow.build
    -- The columns are assigned one after another.
    repeat first
      | exact .ok _
      | refine (Varchar.assign_fromServer _ _).bind fun _ => ?_
      | refine (Varchar.assignNullable_fromServer _ _).bind fun _ => ?_
      | refine (codec.read_fromServer _).bind fun _ => ?_
  refine build.bind fun row => FromServer.bind ?_ fun table =>
    (db.references_fromServer _).bind fun _ => .ok _
  unfold TupleTable.insert
  split
  · exact .ok _
  · exact .error _

/-- A changelog insert fails with an error of the server only. -/
theorem exec_insertChangelog_fromServer (entry : ChangelogEntry V) (metaJSON : Option String)
    (db : Database J) :
    FromServer (Statement.exec codec now (.insertChangelog tenantID entry metaJSON) db) := by
  -- A record has no unique index to violate.
  have meta_ : FromServer (metaJSON.mapM codec.read) := by
    cases metaJSON with
    | none => exact .ok _
    | some text => exact (codec.read_fromServer text).bind fun _ => .ok _
  have build : FromServer
      (ChangelogRow.build codec now (db.sequence + 1) tenantID entry metaJSON) := by
    unfold ChangelogRow.build
    repeat first
      | exact .ok _
      | refine (Varchar.assign_fromServer _ _).bind fun _ => ?_
      | refine (Varchar.assignNullable_fromServer _ _).bind fun _ => ?_
      | refine meta_.bind fun _ => ?_
  exact build.bind fun row => (db.references_fromServer _).bind fun _ => .ok _

/-- An insert that succeeds adds one row that was free, and touches nothing else. -/
theorem exec_insertTuple_ok {tuple : RelationTuple V} {attrsJSON : String} {db after : Database J}
    {answer : Nat}
    (ran : Statement.exec codec now (.insertTuple tenantID tuple attrsJSON) db =
      .ok (answer, after)) :
    ∃ row, after.tuples.rows = db.tuples.rows ++ [row] := by
  -- The row was built, its identity was free and the tenant is known.
  simp only [Statement.exec, bind, Except.bind] at ran
  cases built : TupleRow.build codec now tenantID tuple attrsJSON with
  | error e =>
    rw [built] at ran
    cases ran
  | ok row =>
    simp only [built, TupleTable.insert] at ran
    split at ran
    · cases ran
    · rename_i table inserted
      split at inserted
      · obtain rfl := Except.ok.inj inserted
        split at ran
        · cases ran
        · obtain ⟨-, rfl⟩ := Prod.mk.inj (Except.ok.inj ran)
          exact ⟨row, rfl⟩
      · cases inserted

/-- An insert of a free storable tuple for a known tenant succeeds. -/
theorem exec_insertTuple_of_storable (now : Time) {tuple : RelationTuple V} {attrsJSON : String}
    {db : Database J} (named : Fits 128 tenantID) (known : db.references tenantID = .ok ())
    (storable : Storable codec tuple)
    (marshalled : marshalTupleAttributes codec tuple.attributes = .ok attrsJSON)
    (free : db.tuples.holds (identityOf tenantID tuple) = false) :
    ∃ row table, table.rows = db.tuples.rows ++ [row] ∧
      row.Inserted codec now tenantID tuple ∧
      Statement.exec codec now (.insertTuple tenantID tuple attrsJSON) db =
        .ok ((1 : Nat), { db with tuples := table }) := by
  -- The row has the identity of the tuple, which no row holds.
  obtain ⟨row, built, inserted⟩ := TupleRow.build_of_storable now named storable marshalled
  have open_ : db.tuples.holds row.identity = false := by
    rw [inserted.1.identity]
    exact free
  have own : row.tenantID.text = tenantID := congrArg Identity.tenantID inserted.1.identity
  refine ⟨row, ⟨_, TupleTable.unique_append open_⟩, rfl, inserted, ?_⟩
  simp only [Statement.exec, bind, Except.bind, built, TupleTable.insert, dif_pos open_, own,
    known, pure, Except.pure]

/-- The record of a storable tuple is added for a known tenant, and touches nothing else. -/
theorem exec_insertChangelog_of_storable (now : Time) {tuple : RelationTuple V} (db : Database J)
    (named : Fits 128 tenantID) (known : db.references tenantID = .ok ())
    (storable : Storable codec tuple) :
    ∃ record, record.Records tenantID tuple ∧
      Statement.exec codec now (.insertChangelog tenantID (insertEntry tenantID tuple)
          (codec.marshal (insertEntry tenantID tuple).metadata).toOption) db =
        .ok ((1 : Nat), { db with
          changelog := db.changelog ++ [record]
          sequence := db.sequence + 1 }) := by
  obtain ⟨record, built, records, own⟩ :=
    ChangelogRow.build_of_storable now (db.sequence + 1) named storable
  refine ⟨record, records, ?_⟩
  simp only [Statement.exec, bind, Except.bind, built, own, known, pure, Except.pure]

/-- A changelog insert that succeeds leaves the tuples alone. -/
theorem exec_insertChangelog_tuples {entry : ChangelogEntry V} {metaJSON : Option String}
    {db after : Database J} {answer : Nat}
    (ran : Statement.exec codec now (.insertChangelog tenantID entry metaJSON) db =
      .ok (answer, after)) :
    after.tuples = db.tuples := by
  simp only [Statement.exec, bind, Except.bind] at ran
  -- The statement fails, or writes to the changelog alone.
  split at ran
  · cases ran
  · split at ran
    · cases ran
    · obtain ⟨-, rfl⟩ := Prod.mk.inj (Except.ok.inj ran)
      rfl

/-! ### One tuple of a transaction -/

/-- Attributes that cannot be marshalled are not reported as a duplicate. -/
theorem marshalTupleAttributes_error {attrs : AnyMap V} {e : Err}
    (failed : marshalTupleAttributes codec attrs = .error e) : e ≠ .duplicateTuple := by
  -- A nil map is stored as an empty one and cannot fail.
  unfold marshalTupleAttributes at failed
  cases attrs with
  | none => cases failed
  | some map =>
    cases outcome : codec.marshal (some map) with
    | ok text => simp [outcome, Except.mapError] at failed
    | error cause =>
      simp only [outcome, Except.mapError, Except.error.injEq] at failed
      rw [← failed]
      exact Err.noConfusion

/-- In a broken transaction the refresh fails before it looks at any row. -/
theorem refreshExpiredTupleTx_broken (server : Server (Statement V) (Database J) Err Statement.Answer)
    (tenantID : String) (tuple : RelationTuple V) (attrsJSON : String) (committed db : Database J) :
    Client.from server (refreshExpiredTupleTx tenantID tuple attrsJSON) (.broken committed db) =
      (.error server.aborted, .broken committed db) := by
  unfold refreshExpiredTupleTx
  exact Client.from_bind_error _ _ (Client.from_exec_broken server committed db _)

/-- When the insert succeeds there is nothing to refresh. -/
theorem insertOrRefreshTx_ok {tuple : RelationTuple V} {attrsJSON : String}
    (committed : Database J) {db inserted : Database J} {answer : Nat}
    (marshalled : marshalTupleAttributes codec tuple.attributes = .ok attrsJSON)
    (insert : (server codec now).exec (.insertTuple tenantID tuple attrsJSON) db =
      .ok (answer, inserted)) :
    Client.from (server codec now) (insertOrRefreshTx codec tenantID tuple)
      (.working committed db) = (.ok (), .working committed inserted) := by
  unfold insertOrRefreshTx
  rw [Client.from_bind, Client.from_outcome, marshalled]
  exact Client.from_bind_ok _ _ (Client.from_tryExec_ok (server codec now) committed db insert)

/--
When the insert fails the tuple is given up.

The refresh is only ever sent in a broken transaction, so it never reports a duplicate.
-/
theorem insertOrRefreshTx_error {tuple : RelationTuple V} {attrsJSON : String} {e : Err}
    (committed : Database J) {db : Database J}
    (marshalled : marshalTupleAttributes codec tuple.attributes = .ok attrsJSON)
    (insert : (server codec now).exec (.insertTuple tenantID tuple attrsJSON) db = .error e) :
    ∃ cause after, Client.from (server codec now) (insertOrRefreshTx codec tenantID tuple)
      (.working committed db) = (.error cause, after) ∧ cause ≠ .duplicateTuple := by
  -- The failed insert has broken the transaction, whatever its code was.
  obtain ⟨code, rfl⟩ := exec_insertTuple_fromServer tuple attrsJSON db e insert
  unfold insertOrRefreshTx
  rw [Client.from_bind, Client.from_outcome, marshalled]
  simp only
  rw [Client.from_bind_ok _ _ (Client.from_tryExec_error (server codec now) committed db insert)]
  simp only
  split
  · rw [Client.from_bind_error _ _ (refreshExpiredTupleTx_broken _ _ _ _ committed db)]
    exact ⟨_, _, rfl, Err.noConfusion⟩
  · exact ⟨_, _, rfl, Err.noConfusion⟩

/-- When both statements of a tuple succeed, so does its write. -/
theorem writeTupleTx_ok {tuple : RelationTuple V} {attrsJSON : String}
    (committed : Database J) {db inserted logged : Database J} {answer again : Nat}
    (marshalled : marshalTupleAttributes codec tuple.attributes = .ok attrsJSON)
    (insert : (server codec now).exec (.insertTuple tenantID tuple attrsJSON) db =
      .ok (answer, inserted))
    (append : (server codec now).exec (.insertChangelog tenantID (insertEntry tenantID tuple)
      (codec.marshal (insertEntry tenantID tuple).metadata).toOption) inserted =
        .ok (again, logged)) :
    Client.from (server codec now) (writeTupleTx codec tenantID tuple) (.working committed db) =
      (.ok (), .working committed logged) := by
  unfold writeTupleTx
  rw [Client.from_bind_ok _ _ (insertOrRefreshTx_ok committed marshalled insert)]
  exact Client.from_bind_ok _ _ (Client.from_exec_ok (server codec now) committed inserted append)

/-- Writing a tuple gives up without reporting a duplicate, or adds one row. -/
theorem writeTupleTx_cases (codec : Codec V J) (now : Time) (tenantID : String)
    (tuple : RelationTuple V) (committed db : Database J) :
    (∃ e after, Client.from (server codec now) (writeTupleTx codec tenantID tuple)
        (.working committed db) = (.error e, after) ∧ e ≠ .duplicateTuple) ∨
      ∃ after row, Client.from (server codec now) (writeTupleTx codec tenantID tuple)
          (.working committed db) = (.ok (), .working committed after) ∧
        after.tuples.rows = db.tuples.rows ++ [row] := by
  -- Follow the tuple through marshalling, its insert and its record.
  cases marshalled : marshalTupleAttributes codec tuple.attributes with
  | error e =>
    refine .inl ⟨e, .working committed db, ?_, marshalTupleAttributes_error marshalled⟩
    unfold writeTupleTx insertOrRefreshTx
    rw [Client.from_bind, Client.from_bind, Client.from_outcome, marshalled]
  | ok attrsJSON =>
    cases insert : (server codec now).exec (.insertTuple tenantID tuple attrsJSON) db with
    | error e =>
      obtain ⟨cause, after, ran, other⟩ := insertOrRefreshTx_error committed marshalled insert
      exact .inl ⟨cause, after, Client.from_bind_error _ _ ran, other⟩
    | ok outcome =>
      obtain ⟨answer, inserted⟩ := outcome
      obtain ⟨row, added⟩ := exec_insertTuple_ok insert
      cases append : (server codec now).exec (.insertChangelog tenantID
          (insertEntry tenantID tuple)
          (codec.marshal (insertEntry tenantID tuple).metadata).toOption) inserted with
      | ok outcome =>
        obtain ⟨again, logged⟩ := outcome
        refine .inr ⟨logged, row, writeTupleTx_ok committed marshalled insert append, ?_⟩
        rw [exec_insertChangelog_tuples append]
        exact added
      | error e =>
        obtain ⟨code, rfl⟩ := exec_insertChangelog_fromServer _ _ inserted e append
        refine .inl ⟨.postgres code, .broken committed inserted, ?_, Err.noConfusion⟩
        unfold writeTupleTx
        rw [Client.from_bind_ok _ _ (insertOrRefreshTx_ok committed marshalled insert)]
        exact Client.from_bind_error _ _
          (Client.from_exec_error (server codec now) committed inserted append)

/-! ### A batch -/

/-- The tables after a batch that met nothing: one row and one record more for each tuple. -/
structure Appended (codec : Codec V J) (now : Time) (tenantID : String)
    (batch : List (RelationTuple V)) (before after : Database J) : Prop where
  tuples : ∃ inserted, after.tuples.rows = before.tuples.rows ++ inserted ∧
    List.Forall₂ (TupleRow.Inserted codec now tenantID) inserted batch
  changelog : ∃ logged, after.changelog = before.changelog ++ logged ∧
    List.Forall₂ (ChangelogRow.Records tenantID) logged batch
  tenants : after.tenants = before.tenants

/-- A free storable tuple is written. -/
theorem writeTupleTx_appends (now : Time) {tuple : RelationTuple V} (committed : Database J)
    {db : Database J} (named : Fits 128 tenantID) (known : db.references tenantID = .ok ())
    (storable : Storable codec tuple)
    (free : db.tuples.holds (identityOf tenantID tuple) = false) :
    ∃ after row record, Client.from (server codec now) (writeTupleTx codec tenantID tuple)
        (.working committed db) = (.ok (), .working committed after) ∧
      row.Inserted codec now tenantID tuple ∧ record.Records tenantID tuple ∧
      after.tuples.rows = db.tuples.rows ++ [row] ∧
      after.changelog = db.changelog ++ [record] ∧ after.tenants = db.tenants := by
  obtain ⟨attrsJSON, marshalled⟩ : ∃ text,
      marshalTupleAttributes codec tuple.attributes = .ok text := by
    obtain ⟨json, stored⟩ := storable.attributes
    cases outcome : marshalTupleAttributes codec tuple.attributes with
    | ok text => exact ⟨text, rfl⟩
    | error e => simp [storedAttributes, outcome, bind, Except.bind] at stored
  -- The insert adds its row, and then the changelog its record.
  obtain ⟨row, table, added, inserted, insert⟩ :=
    exec_insertTuple_of_storable now named known storable marshalled free
  obtain ⟨record, records, append⟩ := exec_insertChangelog_of_storable now
    { db with tuples := table } named known storable
  exact ⟨_, row, record, writeTupleTx_ok committed marshalled insert append, inserted, records,
    added, rfl, rfl⟩

/-- A batch of free storable tuples with distinct identities is written. -/
theorem writeTuplesTx_appends (now : Time) {batch : List (RelationTuple V)} (committed : Database J)
    {db : Database J} (named : Fits 128 tenantID) (known : db.references tenantID = .ok ())
    (distinct : batch.Pairwise fun t u => identityOf tenantID t ≠ identityOf tenantID u)
    (storable : ∀ tuple ∈ batch, Storable codec tuple)
    (free : ∀ tuple ∈ batch, db.tuples.holds (identityOf tenantID tuple) = false) :
    ∃ after, Client.from (server codec now) (writeTuplesTx codec tenantID batch)
        (.working committed db) = (.ok (), .working committed after) ∧
      Appended codec now tenantID batch db after := by
  -- The induction is on the batch; the database grows by the tuple written first.
  induction batch generalizing db with
  | nil => exact ⟨db, rfl, ⟨[], by simp, .nil⟩, ⟨[], by simp, .nil⟩, rfl⟩
  | cons tuple rest ih =>
    obtain ⟨apart, distinct⟩ := List.pairwise_cons.mp distinct
    obtain ⟨mid, row, record, first, inserted, records, added, recorded, kept⟩ :=
      writeTupleTx_appends now committed named known (storable tuple List.mem_cons_self)
        (free tuple List.mem_cons_self)
    have stillKnown : mid.references tenantID = .ok () := by
      unfold Database.references
      rw [kept]
      exact known
    -- A later tuple has another identity than the row just added.
    have stillFree : ∀ later ∈ rest, mid.tuples.holds (identityOf tenantID later) = false := by
      intro later member
      have before := free later (List.mem_cons_of_mem _ member)
      unfold TupleTable.holds at before ⊢
      rw [added, List.any_append, before, Bool.false_or, List.any_cons, List.any_nil, Bool.or_false]
      simp [TupleRow.holds, inserted.1.identity, apart later member]
    obtain ⟨after, ran, appended⟩ := ih stillKnown distinct
      (fun later member => storable later (List.mem_cons_of_mem _ member)) stillFree
    refine ⟨after, ?_, ?_, ?_, appended.tenants.trans kept⟩
    · unfold writeTuplesTx
      rw [Client.from_bind_ok _ _ first]
      exact ran
    · obtain ⟨more, grown, carry⟩ := appended.tuples
      exact ⟨row :: more, by rw [grown, added, List.append_assoc]; rfl, .cons inserted carry⟩
    · obtain ⟨more, grown, record_⟩ := appended.changelog
      exact ⟨record :: more, by rw [grown, recorded, List.append_assoc]; rfl, .cons records record_⟩

/-- A batch gives up without reporting a duplicate, or adds as many rows as it has tuples. -/
theorem writeTuplesTx_cases (codec : Codec V J) (now : Time) (tenantID : String)
    (batch : List (RelationTuple V)) (committed db : Database J) :
    (∃ e after, Client.from (server codec now) (writeTuplesTx codec tenantID batch)
        (.working committed db) = (.error e, after) ∧ e ≠ .duplicateTuple) ∨
      ∃ after rows, Client.from (server codec now) (writeTuplesTx codec tenantID batch)
          (.working committed db) = (.ok (), .working committed after) ∧
        after.tuples.rows = db.tuples.rows ++ rows ∧ rows.length = batch.length := by
  -- By induction on the batch; the first tuple that gives up ends the loop.
  induction batch generalizing db with
  | nil => exact .inr ⟨db, [], rfl, by simp, rfl⟩
  | cons tuple rest ih =>
    unfold writeTuplesTx
    rcases writeTupleTx_cases codec now tenantID tuple committed db with
      ⟨e, after, ran, other⟩ | ⟨mid, row, ran, added⟩
    · exact .inl ⟨e, after, Client.from_bind_error _ _ ran, other⟩
    · rw [Client.from_bind_ok _ _ ran]
      rcases ih mid with gaveUp | ⟨after, rows, ran, grown, same⟩
      · exact .inl gaveUp
      · refine .inr ⟨after, row :: rows, ran, ?_, by simp [same]⟩
        rw [grown, added, List.append_assoc]
        rfl

/-! ### The methods -/

/-- The name of a tenant that has a status fits its column, and both tables may refer to it. -/
theorem known_of_statusOf {db : Database J} {status : TenantStatus}
    (found : db.statusOf tenantID = some status) :
    Fits 128 tenantID ∧ db.references tenantID = .ok () := by
  -- The tenant row that has the status is the one both tables refer to.
  unfold Database.statusOf at found
  obtain ⟨row, located, -⟩ := Option.map_eq_some_iff.mp found
  have stored := List.mem_of_find?_eq_some located
  have named := List.find?_some located
  simp only [Bool.and_eq_true, decide_eq_true_eq] at named
  refine ⟨named.1 ▸ row.id.fits, if_pos ?_⟩
  exact List.any_eq_true.mpr ⟨row, stored, decide_eq_true named.1⟩

/-- The query for the status of a tenant finds it. -/
theorem exec_selectTenantStatus (codec : Codec V J) (now : Time) {db : Database J}
    {status : TenantStatus} (found : db.statusOf tenantID = some status) :
    Statement.exec codec now (.selectTenantStatus tenantID) db = .ok (some status, db) := by
  -- The name of a tenant with a status has no zero character, so the query is carried out.
  have clean : '\x00' ∉ tenantID.toList := (known_of_statusOf found).1.2
  simp [Statement.exec, bindTexts, clean, found, bind, Except.bind, pure, Except.pure]

/-- A status that is found is the answer, on any server, and the session is left alone. -/
theorem tenantStatus_from {server : Server (Statement V) (Database J) Err Statement.Answer}
    {session : Session (Database J)} {status : TenantStatus}
    (query : server.exec (.selectTenantStatus tenantID) session.committed =
      .ok (some status, session.committed)) :
    Client.from server (tenantStatus tenantID) session = (.ok status, session) := by
  unfold tenantStatus
  exact Client.from_bind_ok _ _ (Client.from_auto server session query)

/-- So an active tenant passes the writability test. -/
theorem ensureTenantWritable_from
    {server : Server (Statement V) (Database J) Err Statement.Answer} {session : Session (Database J)}
    (query : server.exec (.selectTenantStatus tenantID) session.committed =
      .ok (some TenantStatus.active, session.committed)) :
    Client.from server (ensureTenantWritable tenantID) session = (.ok (), session) := by
  unfold ensureTenantWritable
  rw [Client.from_bind_ok _ _ (tenantStatus_from query)]
  rfl

/-- This is how the server of one client answers. -/
theorem ensureTenantWritable_active {db : Database J}
    (active : db.statusOf tenantID = some .active) :
    Client.from (server codec now) (ensureTenantWritable tenantID) (.idle db) =
      (.ok (), .idle db) :=
  ensureTenantWritable_from (exec_selectTenantStatus codec now active)

/-- For an active tenant a batch write comes down to its transaction. -/
theorem writeTuples_active {tc : TenantContext V} {db : Database J}
    (active : db.statusOf tc.tenantID = some .active) (batch : List (RelationTuple V)) :
    Client.from (server codec now) (writeTuples codec (some tc) batch) (.idle db) =
      Client.from (server codec now)
        (withTransaction (writeTuplesTx codec tc.tenantID batch >>= fun _ => commit))
        (.idle db) := by
  unfold writeTuples
  have named : Client.from (server codec now)
      (ExceptT.mk (pure (tenantIDFromCtx (some tc))) : StoreM V String) (.idle db) =
        (.ok tc.tenantID, .idle db) := rfl
  rw [Client.from_bind_ok _ _ named, Client.from_bind_ok _ _ (ensureTenantWritable_active active)]

/-- A loop that gets through is committed. -/
theorem call_writeTuples_ok {tc : TenantContext V} {db after : Database J}
    (active : db.statusOf tc.tenantID = some .active) {batch : List (RelationTuple V)}
    (loop : Client.from (server codec now) (writeTuplesTx codec tc.tenantID batch)
      (.working db db) = (.ok (), .working db after)) :
    call codec now db (writeTuples codec (some tc) batch) = (.ok (), after) := by
  -- Committing makes the working tables the stored ones.
  unfold call
  rw [writeTuples_active active, Client.from_withTransaction, Client.from_bind_ok _ _ loop,
    Client.from_commit]
  rfl

/-- A loop that gives up gives the method its error. -/
theorem call_writeTuples_error {tc : TenantContext V} {db : Database J}
    (active : db.statusOf tc.tenantID = some .active) {batch : List (RelationTuple V)} {e : Err}
    {after : Session (Database J)}
    (loop : Client.from (server codec now) (writeTuplesTx codec tc.tenantID batch)
      (.working db db) = (.error e, after)) :
    (call codec now db (writeTuples codec (some tc) batch)).1 = .error e := by
  -- The rollback runs after the error, and cannot change it.
  unfold call
  rw [writeTuples_active active, Client.from_withTransaction, Client.from_bind_error _ _ loop]

/-- A write of one tuple is a batch of one. -/
theorem writeTuple_eq (codec : Codec V J) (ctx : Context V) (tuple : RelationTuple V) :
    writeTuple codec ctx tuple = writeTuples codec ctx [tuple] := by
  simp [writeTuple, writeTuples, writeTuplesTx]

/-- Rows that hold no identity of a batch are kept as they are. -/
theorem kept_self {rows : List (TupleRow J)} {batch : List (RelationTuple V)}
    (free : ∀ row ∈ rows, ∀ tuple ∈ batch, row.holds (identityOf tenantID tuple) = false) :
    List.Forall₂ (TupleRow.Kept codec now tenantID batch) rows rows := by
  refine List.forall₂_same.mpr ?_
  exact fun row member => .inr ⟨free row member, rfl⟩

/-- A batch write classifies its tuples as it should if each is storable and has a free identity. -/
theorem classifies_of_free {tc : TenantContext V} {db : Database J}
    {batch : List (RelationTuple V)} (active : db.statusOf tc.tenantID = some .active)
    (distinct : batch.Pairwise fun t u => identityOf tc.tenantID t ≠ identityOf tc.tenantID u)
    (fine : ∀ tuple ∈ batch, Storable codec tuple ∧
      db.tuples.holds (identityOf tc.tenantID tuple) = false) :
    Classifies codec now tc.tenantID batch db
      (call codec now db (writeTuples codec (some tc) batch)) := by
  obtain ⟨named, known⟩ := known_of_statusOf active
  obtain ⟨after, loop, appended⟩ := writeTuplesTx_appends now db named known distinct
    (fun tuple member => (fine tuple member).1) (fun tuple member => (fine tuple member).2)
  rw [call_writeTuples_ok active loop]
  -- No row holds an identity of the batch, let alone a live one.
  have free : ∀ row ∈ db.tuples.rows, ∀ tuple ∈ batch,
      row.holds (identityOf tc.tenantID tuple) = false := by
    intro row stored tuple member
    have none := (fine tuple member).2
    simp only [TupleTable.holds, List.any_eq_false, Bool.not_eq_true] at none
    exact none row stored
  refine ⟨?_, fun _ => ⟨rfl, ?_, appended.changelog, appended.tenants⟩⟩
  · rintro ⟨tuple, member, row, stored, held, -⟩
    rw [free row stored tuple member] at held
    cases held
  · obtain ⟨inserted, grown, carry⟩ := appended.tuples
    refine ⟨db.tuples.rows, inserted, grown, kept_self free, ?_⟩
    rw [List.filter_eq_self.mpr fun tuple member => by rw [(fine tuple member).2]; rfl]
    exact carry

/-- A batch write that classifies its tuples as it should met only storable ones that are free. -/
theorem free_of_classifies {tc : TenantContext V} {db : Database J}
    {batch : List (RelationTuple V)} (active : db.statusOf tc.tenantID = some .active)
    (classifies : Classifies codec now tc.tenantID batch db
      (call codec now db (writeTuples codec (some tc) batch))) :
    ∀ tuple ∈ batch, Storable codec tuple ∧
      db.tuples.holds (identityOf tc.tenantID tuple) = false := by
  rcases writeTuplesTx_cases codec now tc.tenantID batch db db with
    ⟨e, after, loop, other⟩ | ⟨after, rows, loop, grown, same⟩
  · -- A write that gave up neither succeeded nor reported a duplicate.
    have failed := call_writeTuples_error active loop
    by_cases live : db.HasLive now tc.tenantID batch
    · have reported := (classifies.duplicate live).1
      rw [failed] at reported
      exact absurd (Except.error.inj reported) other
    · have returned := (classifies.succeeds live).1
      rw [failed] at returned
      cases returned
  · rw [call_writeTuples_ok active loop] at classifies
    by_cases live : db.HasLive now tc.tenantID batch
    · cases (classifies.duplicate live).1
    · obtain ⟨kept, inserted, split, keeps, carry⟩ := (classifies.succeeds live).2.tuples
      -- The rows added are as many as the tuples, so every tuple was new.
      have parts : db.tuples.rows ++ rows = kept ++ inserted := grown.symm.trans split
      obtain ⟨-, added⟩ := List.append_inj parts keeps.length_eq
      have all : batch.filter (fun tuple =>
          !db.tuples.holds (identityOf tc.tenantID tuple)) = batch := by
        refine List.filter_sublist.eq_of_length ?_
        rw [← carry.length_eq, ← added]
        exact same
      rw [all] at carry
      intro tuple member
      have free := List.filter_eq_self.mp all tuple member
      obtain ⟨place, bound, rfl⟩ := List.getElem_of_mem member
      have new := (List.forall₂_iff_get.mp carry).2 place (carry.length_eq ▸ bound) bound
      exact ⟨new.1.storable, by simpa using free⟩

/-- A write keeps duplicates and regrants apart exactly when it meets neither. -/
theorem write_classifies_iff (codec : Codec V J) (now : Time) (db : Database J)
    (tc : TenantContext V) (active : db.statusOf tc.tenantID = some .active) :
    (∀ batch : List (RelationTuple V),
      batch.Pairwise (fun t u => identityOf tc.tenantID t ≠ identityOf tc.tenantID u) →
      (Classifies codec now tc.tenantID batch db
          (call codec now db (writeTuples codec (some tc) batch)) ↔
        ∀ tuple ∈ batch, Storable codec tuple ∧
          db.tuples.holds (identityOf tc.tenantID tuple) = false)) ∧
    ∀ tuple : RelationTuple V,
      Classifies codec now tc.tenantID [tuple] db
          (call codec now db (writeTuple codec (some tc) tuple)) ↔
        Storable codec tuple ∧ db.tuples.holds (identityOf tc.tenantID tuple) = false := by
  -- A single write is a batch of one, whose identities are distinct for free.
  have batches : ∀ batch : List (RelationTuple V),
      batch.Pairwise (fun t u => identityOf tc.tenantID t ≠ identityOf tc.tenantID u) →
      (Classifies codec now tc.tenantID batch db
          (call codec now db (writeTuples codec (some tc) batch)) ↔
        ∀ tuple ∈ batch, Storable codec tuple ∧
          db.tuples.holds (identityOf tc.tenantID tuple) = false) := by
    intro batch distinct
    exact ⟨free_of_classifies active, classifies_of_free active distinct⟩
  refine ⟨batches, ?_⟩
  intro tuple
  rw [writeTuple_eq, batches [tuple] (List.pairwise_singleton _ _)]
  simp

/-- A codec for attribute maps without entries, which are all there are without values. -/
def emptyCodec : Codec Empty String where
  marshal attrs := .ok (if attrs = none then "null" else "\x7b\x7d")
  jsonb text := .ok text
  marshal_nil := rfl
  jsonb_null := ⟨"null", rfl⟩

/-- A tuple that makes a user the viewer of a document. -/
def viewerOf (objectID : String) : RelationTuple Empty :=
  { objectType := "doc", objectID, relation := "viewer", subjectType := "user", subjectID := "u" }

/-- The active tenant, and its context. -/
def acmeContext : TenantContext Empty :=
  { tenantID := "acme", tenant := { id := "acme", status := .active, schemaMode := .own } }

/-- The texts of the examples fit the columns. -/
theorem fits_acme : Fits 128 "acme" := by decide

theorem fits_doc : Fits 128 "doc" := by decide

theorem fits_one : Fits 256 "1" := by decide

theorem fits_viewer : Fits 128 "viewer" := by decide

theorem fits_user : Fits 128 "user" := by decide

/-- A row that makes the user a viewer until an instant. -/
def viewerRow (objectID : Varchar 256) (expiresAt : Option Time) : TupleRow String where
  tenantID := ⟨"acme", fits_acme⟩
  objectType := ⟨"doc", fits_doc⟩
  objectID := objectID
  relation := ⟨"viewer", fits_viewer⟩
  subjectType := ⟨"user", fits_user⟩
  subjectID := ⟨"u", by decide⟩
  subjectRelation := none
  subjectTenantID := none
  sourceSystem := none
  externalID := none
  attributes := "\x7b\x7d"
  expiresAt := expiresAt
  createdAt := 1
  updatedAt := 1
  deletedAt := none

/-- A database in which one grant has expired and another has not. -/
def twoGrants : Database String where
  tenants := [{ id := ⟨"acme", fits_acme⟩, status := .active, deletedAt := none }]
  tuples := {
    rows := [viewerRow ⟨"1", fits_one⟩ (some 5), viewerRow ⟨"2", by decide⟩ none]
    unique := by decide }
  changelog := []
  sequence := 0

/-- A grant that is new goes in. -/
theorem write_classifies_iff_newGrant :
    Classifies emptyCodec 9 "acme" [viewerOf "3", viewerOf "4"] twoGrants
      (call emptyCodec 9 twoGrants
        (writeTuples emptyCodec (some acmeContext) [viewerOf "3", viewerOf "4"])) := by
  refine ((write_classifies_iff emptyCodec 9 twoGrants acmeContext rfl).1
    [viewerOf "3", viewerOf "4"] (by decide)).mpr ?_
  have short : ∀ limit, Fits limit "" := fun _ => ⟨Nat.zero_le _, List.not_mem_nil⟩
  have storable : ∀ id, Fits 256 id → Storable emptyCodec (viewerOf id) := by
    intro id fits
    exact ⟨show Fits 128 "doc" by decide, fits, show Fits 128 "viewer" by decide,
      show Fits 128 "user" by decide, show Fits 256 "u" by decide, short _, short _, short _,
      short _, _, rfl⟩
  -- The texts of both tuples are short and their identities are not stored.
  intro tuple member
  rcases List.mem_cons.mp member with rfl | member
  · exact ⟨storable "3" (by decide), by decide⟩
  · obtain rfl := List.mem_singleton.mp member
    exact ⟨storable "4" (by decide), by decide⟩

/-- An expired grant cannot be given again, and a live one is not reported as a duplicate. -/
theorem regrant_fails :
    (call emptyCodec 9 twoGrants (writeTuple emptyCodec (some acmeContext) (viewerOf "1"))).1 =
        .error (.postgres "25P02") ∧
      (call emptyCodec 9 twoGrants (writeTuple emptyCodec (some acmeContext) (viewerOf "2"))).1 =
        .error (.postgres "25P02") ∧
      ¬ Classifies emptyCodec 9 "acme" [viewerOf "1"] twoGrants
        (call emptyCodec 9 twoGrants (writeTuple emptyCodec (some acmeContext) (viewerOf "1"))) ∧
      ¬ Classifies emptyCodec 9 "acme" [viewerOf "2"] twoGrants
        (call emptyCodec 9 twoGrants (writeTuple emptyCodec (some acmeContext) (viewerOf "2"))) := by
  have first : (call emptyCodec 9 twoGrants
      (writeTuple emptyCodec (some acmeContext) (viewerOf "1"))).1 = .error (.postgres "25P02") :=
    rfl
  have second : (call emptyCodec 9 twoGrants
      (writeTuple emptyCodec (some acmeContext) (viewerOf "2"))).1 = .error (.postgres "25P02") :=
    rfl
  refine ⟨first, second, ?_, ?_⟩
  · intro classifies
    -- No live tuple stands in the way, and yet the write fails.
    have expired : ¬ twoGrants.HasLive 9 "acme" [viewerOf "1"] := by
      unfold Database.HasLive
      decide
    cases first.symm.trans (classifies.succeeds expired).1
  · intro classifies
    -- Here one does, but the error is not the one that says so.
    have live : twoGrants.HasLive 9 "acme" [viewerOf "2"] := by
      unfold Database.HasLive
      decide
    cases second.symm.trans (classifies.duplicate live).1

end ZanGuard.Postgres
