import Mathlib.Data.List.MinMax
import Mathlib.Order.Nat
import ZanGuard.Lib.Fallible
import ZanGuard.Proofs.Storage.Batch
import ZanGuard.Proofs.Storage.Cluster
import ZanGuard.Proofs.Storage.Numbered
import ZanGuard.Proofs.Storage.Regrant
import ZanGuard.Proofs.Storage.Tail
import ZanGuard.Storage.PostgresReads

/-! Changelog entries: when one that is written reads back as it was. -/

namespace ZanGuard

open Memory Postgres Transaction

variable {V J : Type}

/-! ### Entries that read back -/

/-- A tuple with the same identity, expiry and attributes. -/
structure RelationTuple.SameGrant (t found : RelationTuple V) : Prop where
  objectType : found.objectType = t.objectType
  objectID : found.objectID = t.objectID
  relation : found.relation = t.relation
  subjectType : found.subjectType = t.subjectType
  subjectID : found.subjectID = t.subjectID
  subjectRelation : found.subjectRelation = t.subjectRelation
  expiresAt : found.expiresAt = t.expiresAt
  attributes : found.attributes = t.attributes

/-- An entry that says the same; operations are compared as the texts they are. -/
structure ChangelogEntry.SameEntry (e found : ChangelogEntry V) : Prop where
  operation : operationText found.operation = operationText e.operation
  actor : found.actor = e.actor
  source : found.source = e.source
  metadata : found.metadata = e.metadata
  tuple : e.tuple.SameGrant found.tuple

/-- An entry that says that a tuple was written. -/
def RelationTuple.InsertedAs (t : RelationTuple V) (found : ChangelogEntry V) : Prop :=
  found.operation = .insert ∧ t.SameGrant found.tuple

/-- A call succeeded, and reading on from where the log ended before shows an entry it added. -/
def ReadsBack (latest : Except Err UInt64) (outcome : Except Err Unit)
    (read : UInt64 → Except Err (List (ChangelogEntry V))) (right : ChangelogEntry V → Prop) :
    Prop :=
  ∃ since page, latest = .ok since ∧ outcome = .ok () ∧ read since = .ok page ∧
    ∃ found ∈ page, right found

/-- What was written in memory reads back. -/
def Memory.Store.ReadsBack (s : Memory.Store V) (tc : TenantContext V)
    (written : Except Err Unit × Memory.Store V) (limit : Int)
    (right : ChangelogEntry V → Prop) : Prop :=
  ZanGuard.ReadsBack (s.latestSequence (some tc)) written.1
    (fun since => written.2.readChangelog (some tc) since limit) right

/-- What was written to a database reads back. -/
def Postgres.Database.ReadsBack (db : Database J) (codec : Codec V J) (later : Time)
    (tc : TenantContext V) (written : Except Err Unit × Database J) (limit : Int)
    (right : ChangelogEntry V → Prop) : Prop :=
  ZanGuard.ReadsBack (db.latestSequence (some tc)) written.1
    (fun since => (callAlone codec later written.2 (readChangelog (some tc) since limit)).1) right

/-! ### In memory -/

section InMemory

variable {s after : Memory.Store V} {tc : TenantContext V} {limit : Int}

/-- The number after a number is greater, unless it is the greatest one. -/
theorem lt_succ_iff (n : UInt64) : n < n + 1 ↔ n.toNat + 1 < 2 ^ 64 := by
  rw [UInt64.lt_iff_toNat_lt, UInt64.toNat_add]
  have bounded := n.toNat_lt
  have one : (1 : UInt64).toNat = 1 := rfl
  omega

/-- Reads of an active tenant pass their guard. -/
theorem reading_active {tenant : Tenant V} (stored : s.tenants.lookup tc.tenantID = some tenant)
    (active : tenant.status = .active) {α : Type} (body : String → Except Err α) :
    s.reading (some tc) body = body tc.tenantID := by
  simp [Store.reading, tenantIDFromCtx, Store.checkTenantReadable, stored, active, bind, Except.bind]

/-- An entry with the next number is on the page after the numbers before it. -/
theorem mem_newer {e : ChangelogEntry V} (number : e.sequence = s.seqOf tc.tenantID + 1)
    (room : (s.seqOf tc.tenantID).toNat + 1 < 2 ^ 64)
    (whole : limit ≤ 0 ∨ s.Numbered tc.tenantID) :
    e ∈ (let newer := (s.changelogOf tc.tenantID ++ [e]).filter fun e =>
           decide (e.sequence > s.seqOf tc.tenantID)
         if limit > 0 then newer.take limit.toNat else newer) := by
  have new : decide (e.sequence > s.seqOf tc.tenantID) = true :=
    decide_eq_true (number ▸ (lt_succ_iff _).mpr room)
  dsimp only
  split
  · -- A page with a limit has room for one entry, and there are no others.
    rename_i positive
    have numbered := whole.resolve_left (not_le.mpr positive)
    have old := numbered.newer (s.seqOf tc.tenantID)
    rw [numbered.counter, List.drop_length] at old
    have first : limit.toNat = limit.toNat - 1 + 1 := by omega
    rw [List.filter_append, old, first]
    simp [new]
  · exact List.mem_filter.mpr ⟨by simp, new⟩

/-- An entry added at the end reads back where the counter has room. -/
theorem readsBack_memory {tenant : Tenant V} (stored : s.tenants.lookup tc.tenantID = some tenant)
    (active : tenant.status = .active) {written : Except Err Unit × Memory.Store V}
    {e : ChangelogEntry V} (done : written.1 = .ok ()) (kept : written.2.tenants = s.tenants)
    (log : written.2.changelogOf tc.tenantID = s.changelogOf tc.tenantID ++ [e])
    (number : e.sequence = s.seqOf tc.tenantID + 1)
    (whole : limit ≤ 0 ∨ s.Numbered tc.tenantID) {right : ChangelogEntry V → Prop}
    (holds : right e) :
    s.ReadsBack tc written limit right ↔ (s.seqOf tc.tenantID).toNat + 1 < 2 ^ 64 := by
  have storedAfter : written.2.tenants.lookup tc.tenantID = some tenant := by rw [kept, stored]
  simp only [Memory.Store.ReadsBack, ZanGuard.ReadsBack, Store.latestSequence, Store.readChangelog,
    reading_active stored active, reading_active storedAfter active, log, Except.ok.injEq, done]
  constructor
  · rintro ⟨_, _, rfl, -, rfl, found, listed, -⟩
    -- Nothing comes after the greatest number there is.
    have member : found ∈ (s.changelogOf tc.tenantID ++ [e]).filter fun e =>
        decide (e.sequence > s.seqOf tc.tenantID) := by
      split at listed
      · exact List.mem_of_mem_take listed
      · exact listed
    have newer : found.sequence > s.seqOf tc.tenantID := by
      simpa using (List.mem_filter.mp member).2
    have above := UInt64.lt_iff_toNat_lt.mp newer
    have bounded := found.sequence.toNat_lt
    omega
  · intro room
    exact ⟨_, _, rfl, trivial, rfl, e, mem_newer number room whole, holds⟩

/-- The entry of a caller reads back from memory where the counter has room. -/
theorem appendChangelog_readsBack {tenant : Tenant V}
    (stored : s.tenants.lookup tc.tenantID = some tenant) (active : tenant.status = .active)
    (entry : ChangelogEntry V) (clock : Clock) (whole : limit ≤ 0 ∨ s.Numbered tc.tenantID) :
    s.ReadsBack tc (s.appendChangelog (some tc) entry clock) limit entry.SameEntry ↔
      (s.seqOf tc.tenantID).toNat + 1 < 2 ^ 64 := by
  rw [Store.appendChangelog, Store.writing_active stored active]
  let added := { entry with
    tenantID := tc.tenantID
    sequence := s.seqOf tc.tenantID + 1
    timestamp := if isZeroTime entry.timestamp then clock 0 else entry.timestamp }
  have same : entry.SameEntry added :=
    ⟨rfl, rfl, rfl, rfl, rfl, rfl, rfl, rfl, rfl, rfl, rfl, rfl⟩
  -- The caller's tenant, number and zero time are replaced, and nothing else.
  refine readsBack_memory stored active ?_ ?_ ?_ rfl whole same
  · rfl
  · rfl
  · simp [Store.changelogOf, added]

/-- A tuple that is written alone is logged as it was staged. -/
theorem writeTuplesLocked_logged {tenantID : String} {t : RelationTuple V} {clock : Clock}
    (done : (s.writeTuplesLocked tenantID [t] clock).1 = .ok ()) :
    ∃ tuples, (s.writeTuplesLocked tenantID [t] clock).2 =
      { s with tuples }.appendTupleChangelogUnsafe tenantID .insert
        (stageTuple tenantID (clock 0) t) "api" (clock 1) := by
  unfold Store.writeTuplesLocked at done ⊢
  simp only [List.isEmpty_cons, Bool.false_eq_true, if_false] at done ⊢
  cases made : stageTuples tenantID (clock 0)
      (TupleIndex.build (clock 0) { existingKeys := [], expiredIndexes := ∅ } 0
        (s.tuplesOf tenantID)).existingKeys [] [t] with
  | error e =>
    rw [made] at done
    cases done
  | ok staged =>
    -- What was staged is the one tuple.
    simp only [stageTuples] at made
    split at made
    · cases made
    · obtain rfl := Except.ok.inj made
      exact ⟨_, rfl⟩

/-- So does that of a tuple, if it was written. -/
theorem writeTuple_readsBack {tenant : Tenant V}
    (stored : s.tenants.lookup tc.tenantID = some tenant) (active : tenant.status = .active)
    (t : RelationTuple V) (clock : Clock) (whole : limit ≤ 0 ∨ s.Numbered tc.tenantID)
    (done : (s.writeTuple (some tc) t clock).1 = .ok ()) :
    s.ReadsBack tc (s.writeTuple (some tc) t clock) limit t.InsertedAs ↔
      (s.seqOf tc.tenantID).toNat + 1 < 2 ^ 64 := by
  rw [Store.writeTuple, Store.writing_active stored active] at done ⊢
  -- The entry is made of the tuple as it was staged, with the tenant and the times set.
  obtain ⟨tuples, logged⟩ := writeTuplesLocked_logged done
  let added : ChangelogEntry V := {
    sequence := s.seqOf tc.tenantID + 1
    tenantID := tc.tenantID
    operation := .insert
    tuple := stageTuple tc.tenantID (clock 0) t
    timestamp := clock 1
    source := "api" }
  have same : t.InsertedAs added := ⟨rfl, rfl, rfl, rfl, rfl, rfl, rfl, rfl, rfl⟩
  refine readsBack_memory stored active done ?_ ?_ rfl whole same
  · rw [logged]
    rfl
  · rw [logged]
    simp [Store.changelogOf, Store.appendTupleChangelogUnsafe, Store.seqOf, added]

end InMemory

/-! ### In a database -/

section InDatabase

/-- An operation is stored as its text. -/
theorem operationText_operationOf (text : String) : operationText (operationOf text) = text := by
  unfold operationOf
  -- One of the three names, or any other text, which is kept as it is.
  split
  · rename_i same
    exact same.symm
  · split
    · rename_i same
      exact same.symm
    · split
      · rename_i same
        exact same.symm
      · rfl

/-- A tuple whose identity fits the columns of the changelog, which has none for more than that. -/
structure RelationTuple.Recordable (t : RelationTuple V) : Prop where
  objectType : Fits 128 t.objectType
  objectID : Fits 256 t.objectID
  relation : Fits 128 t.relation
  subjectType : Fits 128 t.subjectType
  subjectID : Fits 256 t.subjectID
  subjectRelation : Fits 128 t.subjectRelation
  expiresAt : t.expiresAt = none
  attributes : t.attributes = none

/-- An entry that fits them, without metadata. -/
structure ChangelogEntry.Recordable (e : ChangelogEntry V) : Prop where
  operation : Fits 8 (operationText e.operation)
  actor : Fits 256 e.actor
  source : Fits 32 e.source
  metadata : e.metadata = none
  tuple : e.tuple.Recordable

variable {codec : Codec V J} {now : Time} {tenantID : String}

/-- A row that reads as a tuple shows that the tuple fits. -/
theorem recordable_of_row {row : ChangelogRow J} {t : RelationTuple V}
    (same : t.SameGrant (row.scan (V := V)).tuple) : t.Recordable where
  objectType := same.objectType ▸ row.objectType.fits
  objectID := same.objectID ▸ row.objectID.fits
  relation := same.relation ▸ row.relation.fits
  subjectType := same.subjectType ▸ row.subjectType.fits
  subjectID := same.subjectID ▸ row.subjectID.fits
  subjectRelation := same.subjectRelation ▸ Varchar.fits_coalesce _
  expiresAt := same.expiresAt.symm
  attributes := same.attributes.symm

/-- A row that reads as an entry shows that the entry fits. -/
theorem recordable_of_scan {row : ChangelogRow J} {e : ChangelogEntry V}
    (same : e.SameEntry row.scan) : e.Recordable where
  operation := by
    -- The text of an operation is the one that was read from the column.
    have text := same.operation
    rw [ChangelogRow.scan, operationText_operationOf] at text
    exact text ▸ row.operation.fits
  actor := same.actor ▸ row.actor.fits
  source := same.source ▸ row.source.fits
  metadata := same.metadata.symm
  tuple := recordable_of_row same.tuple

/-- An entry that fits is built into a row that reads as the entry. -/
theorem build_of_recordable (codec : Codec V J) (now : Time) (sequence : Nat)
    (named : Fits 128 tenantID) {e : ChangelogEntry V} (recordable : e.Recordable) :
    ∃ row, ChangelogRow.build codec now sequence tenantID e
        (codec.marshal e.metadata).toOption = .ok row ∧ e.SameEntry row.scan := by
  have fits : EntryFits e := { recordable, recordable.tuple with }
  obtain ⟨row, built, carries⟩ :=
    ChangelogRow.build_of_fits codec now sequence named fits recordable.metadata
  -- The columns of the identity are those that are read as the tuple.
  have column {α : Type} (field : Identity → α) := congrArg field carries.identity
  refine ⟨row, built, ?_, carries.actor, carries.source, recordable.metadata.symm, ?_⟩
  · rw [ChangelogRow.scan, operationText_operationOf, carries.operation]
  · exact {
      objectType := column Identity.objectType
      objectID := column Identity.objectID
      relation := column Identity.relation
      subjectType := column Identity.subjectType
      subjectID := column Identity.subjectID
      subjectRelation := column Identity.subjectRelation
      expiresAt := recordable.tuple.expiresAt.symm
      attributes := recordable.tuple.attributes.symm }

/-- The row that records a tuple that fits reads as the tuple. -/
theorem inserted_of_recordable {sequence : Nat} (named : Fits 128 tenantID) {t : RelationTuple V}
    (recordable : t.Recordable) {row : ChangelogRow J}
    (built : ChangelogRow.build codec now sequence tenantID (insertEntry tenantID t)
      (codec.marshal (insertEntry tenantID t).metadata).toOption = .ok row) :
    t.InsertedAs row.scan := by
  have fits := insertEntry_fits tenantID recordable.objectType recordable.objectID
    recordable.relation recordable.subjectType recordable.subjectID recordable.subjectRelation
  have logged : (insertEntry tenantID t).Recordable := {
    fits with
    metadata := rfl
    tuple := { recordable with expiresAt := rfl, attributes := rfl } }
  obtain ⟨same, found, entry⟩ := build_of_recordable codec now sequence named logged
  obtain rfl := Except.ok.inj (built.symm.trans found)
  have text := entry.operation
  rw [ChangelogRow.scan, operationText_operationOf] at text
  -- The entry has neither an expiry nor attributes, and neither has the tuple.
  refine ⟨?_, { entry.tuple with
    expiresAt := recordable.expiresAt.symm
    attributes := recordable.attributes.symm }⟩
  rw [ChangelogRow.scan, text]
  rfl

/-- What a changelog insert comes to, when it succeeds. -/
theorem run_insertChangelog_ok {e : ChangelogEntry V} {metaJSON : Option String}
    {db after : Database J} {answer : Nat}
    (ran : (Statement.insertChangelog tenantID e metaJSON).run codec now db = .ok (answer, after)) :
    db.sequence + 1 < 2 ^ 63 ∧ ∃ row,
      ChangelogRow.build codec now (db.sequence + 1) tenantID e metaJSON = .ok row ∧
      after = { db with changelog := db.changelog ++ [row], sequence := db.sequence + 1 } := by
  obtain ⟨done, room⟩ := exec_of_run ran
  obtain ⟨row, built, done⟩ := Except.of_bind_ok done
  obtain ⟨-, -, done⟩ := Except.of_bind_ok done
  exact ⟨room rfl, row, built, (Prod.mk.inj (Except.ok.inj done)).2.symm⟩

/-- No entry has a number that has not been drawn; the column draws its own from the sequence. -/
def Postgres.Database.Numbered (db : Database J) : Prop :=
  ∀ row ∈ db.changelog, row.sequence ≤ db.sequence

/-- The greatest number of a tenant is above none of its entries, and has been drawn. -/
theorem maxSequence_bounds {db : Database J} (numbered : db.Numbered) (tenantID : String) :
    (∀ row ∈ db.changelog, row.tenantID.text = tenantID → row.sequence ≤ db.maxSequence tenantID) ∧
      db.maxSequence tenantID ≤ db.sequence := by
  -- A tenant without entries starts from zero, the least number.
  have least : (0 : Nat) = ⊥ := rfl
  rw [Postgres.Database.maxSequence, least]
  constructor
  · intro row stored mine
    refine List.le_max_of_le (List.mem_map_of_mem (List.mem_filter.mpr ⟨stored, ?_⟩))
      (le_refl row.sequence)
    exact decide_eq_true mine
  · refine List.max_le_of_forall_le _ _ fun n member => ?_
    obtain ⟨row, selected, rfl⟩ := List.mem_map.mp member
    exact numbered row (List.mem_filter.mp selected).1

/-- A new entry is all that comes after the entries there were. -/
theorem changelogAfter_max {db after : Database J} (numbered : db.Numbered) {row : ChangelogRow J}
    (log : after.changelog = db.changelog ++ [row]) (number : row.sequence = db.sequence + 1) :
    after.changelogAfter row.tenantID.text (db.maxSequence row.tenantID.text) = [row] := by
  obtain ⟨above, drawn⟩ := maxSequence_bounds numbered row.tenantID.text
  have old : db.changelog.filter (fun r => decide (r.tenantID.text = row.tenantID.text) &&
      decide (r.sequence > db.maxSequence row.tenantID.text)) = [] := by
    refine List.filter_eq_nil_iff.mpr fun r stored => ?_
    simp only [Bool.and_eq_true, decide_eq_true_eq, not_and, not_lt]
    exact above r stored
  -- The new number is above the old ones, as it was drawn after them.
  have new : row.sequence > db.maxSequence row.tenantID.text := by omega
  simp [Database.changelogAfter, log, List.filter_append, old, new]

variable {db : Database J} {tc : TenantContext V}

/-- An active tenant may be read, and its reads pass their guard. -/
theorem readable_active (active : db.statusOf tc.tenantID = some .active) :
    db.ensureTenantReadable tc.tenantID = .ok () := by
  simp [Database.ensureTenantReadable, active]

/-- What a server of a bounded sequence draws nothing for, it carries out like any other. -/
theorem boundedServer_exec (codec : Codec V J) (now : Time) {statement : Statement V}
    (draws_nothing : statement.draws = false) (db : Database J) :
    (boundedServer codec now).exec statement db = statement.exec codec now db := by
  show statement.run codec now db = _
  simp [Statement.run, draws_nothing]

/-- An active tenant is found active by that server. -/
theorem active_query (codec : Codec V J) (now : Time)
    (active : db.statusOf tc.tenantID = some .active) :
    (boundedServer codec now).exec (.selectTenantStatus tc.tenantID) db =
      .ok (some TenantStatus.active, db) := by
  rw [boundedServer_exec codec now rfl]
  exact exec_selectTenantStatus codec now active

/-- A read of the changelog of an active tenant shows a page of what comes after a number. -/
theorem callAlone_readChangelog (codec : Codec V J) (now : Time)
    (active : db.statusOf tc.tenantID = some .active) {since : UInt64}
    (encodable : since.toNat < 2 ^ 63) (limit : Int) :
    (callAlone codec now db (readChangelog (some tc) since limit)).1 =
      .ok (((db.changelogAfter tc.tenantID since.toNat).take
        (if limit ≤ 0 then 1000 else limit).toNat).map ChangelogRow.scan) := by
  have readable : Client.from (boundedServer codec now)
      (Postgres.ensureTenantReadable tc.tenantID) (.idle db) = (.ok (), .idle db) := by
    unfold Postgres.ensureTenantReadable
    rw [Client.from_bind_ok _ _ (tenantStatus_from (active_query codec now active))]
    rfl
  have clean : '\x00' ∉ tc.tenantID.toList := (known_of_statusOf active).1.2
  have page : ∀ limit : Int, (boundedServer codec now).exec
      (.selectChangelog tc.tenantID since limit) db =
        .ok (((db.changelogAfter tc.tenantID since.toNat).take limit.toNat).map
          ChangelogRow.scan, db) := by
    intro limit
    rw [boundedServer_exec codec now rfl]
    simp only [Statement.exec, ge_iff_le, not_le.mpr encodable, if_false, bindTexts, clean,
      List.any_cons, List.any_nil, decide_false, Bool.or_false, Bool.false_eq_true, bind,
      Except.bind, pure, Except.pure]
  have named : Client.from (boundedServer codec now)
      (ExceptT.mk (pure (tenantIDFromCtx (some tc))) : StoreM V String) (.idle db) =
        (.ok tc.tenantID, .idle db) := rfl
  -- The three steps of the method, one after the other.
  have guarded : Client.from (boundedServer codec now) (readChangelog (some tc) since limit)
      (.idle db) = Client.from (boundedServer codec now)
        (ensureTenantReadable tc.tenantID >>= fun _ => (auto (Statement.selectChangelog tc.tenantID since
          (if limit ≤ 0 then 1000 else limit)) : StoreM V (List (ChangelogEntry V)))) (.idle db) :=
    Client.from_bind_ok _ _ named
  have paged := guarded.trans (Client.from_bind_ok _ _ readable)
  exact congrArg Prod.fst (paged.trans (Client.from_auto _ _ (page _)))

/-- A new entry is what a read shows, and all that it shows. -/
theorem readsBack_database (codec : Codec V J) (later : Time) (limit : Int)
    (active : db.statusOf tc.tenantID = some .active) (numbered : db.Numbered)
    {written : Except Err Unit × Database J} {row : ChangelogRow J} (done : written.1 = .ok ())
    (kept : written.2.tenants = db.tenants) (log : written.2.changelog = db.changelog ++ [row])
    (number : row.sequence = db.sequence + 1) (mine : row.tenantID.text = tc.tenantID)
    (room : db.sequence + 1 < 2 ^ 63) (right : ChangelogEntry V → Prop) :
    db.ReadsBack codec later tc written limit right ↔ right row.scan := by
  have drawn := (maxSequence_bounds numbered tc.tenantID).2
  have encoded : (UInt64.ofNat (db.maxSequence tc.tenantID)).toNat = db.maxSequence tc.tenantID :=
    UInt64.toNat_ofNat_of_lt' (by simp [UInt64.size]; omega)
  have latest : db.latestSequence (some tc) = .ok (.ofNat (db.maxSequence tc.tenantID)) := by
    simp [Database.latestSequence, tenantIDFromCtx, readable_active active, bind, Except.bind, pure,
      Except.pure]
  have still : written.2.statusOf tc.tenantID = some .active := by
    unfold Database.statusOf
    rw [kept]
    exact active
  -- A page has room for one entry at least.
  have one : ∀ e : ChangelogRow J, [e].take (if limit ≤ 0 then 1000 else limit).toNat = [e] := by
    intro e
    refine List.take_of_length_le ?_
    simp only [List.length_singleton]
    split <;> omega
  have read : (callAlone codec later written.2 (readChangelog (some tc)
      (.ofNat (db.maxSequence tc.tenantID)) limit)).1 = .ok [row.scan] := by
    rw [callAlone_readChangelog codec later still (by rw [encoded]; omega), encoded, ← mine,
      changelogAfter_max numbered log number, one]
    rfl
  constructor
  · rintro ⟨since, page, same, -, shown, found, listed, holds⟩
    obtain rfl := Except.ok.inj (latest.symm.trans same)
    obtain rfl := Except.ok.inj (read.symm.trans shown)
    rw [← List.mem_singleton.mp listed]
    exact holds
  · intro holds
    exact ⟨_, _, latest, done, read, _, List.mem_singleton_self _, holds⟩

/-- For an active tenant, a method of the store comes to what is done in its transaction. -/
theorem callAlone_transaction (codec : Codec V J) (now : Time)
    (active : db.statusOf tc.tenantID = some .active) (body : String → StoreM V Unit) :
    callAlone codec now db (do
      let tenantID ← ExceptT.mk (pure (tenantIDFromCtx (some tc)))
      ensureTenantWritable tenantID
      withTransaction do
        body tenantID
        commit) =
      let ended := Client.from (boundedServer codec now) (body tc.tenantID >>= fun _ => commit)
        (.working db db)
      (ended.1, ((boundedServer codec now).abandon ended.2).committed) := by
  have writable : Client.from (boundedServer codec now) (ensureTenantWritable tc.tenantID)
      (.idle db) = (.ok (), .idle db) := ensureTenantWritable_from (active_query codec now active)
  simp only [callAlone]
  rw [Client.from_bind, Client.from_outcome]
  simp only [tenantIDFromCtx]
  -- The check passes and changes nothing.
  rw [Client.from_bind_ok _ _ writable, Client.from_withTransaction]

/-- When the body gets through, it is committed. -/
theorem callAlone_committed (codec : Codec V J) (now : Time)
    (active : db.statusOf tc.tenantID = some .active) (body : String → StoreM V Unit)
    {after : Database J}
    (ran : Client.from (boundedServer codec now) (body tc.tenantID) (.working db db) =
      (.ok (), .working db after)) :
    callAlone codec now db (do
      let tenantID ← ExceptT.mk (pure (tenantIDFromCtx (some tc)))
      ensureTenantWritable tenantID
      withTransaction do
        body tenantID
        commit) = (.ok (), after) := by
  rw [callAlone_transaction codec now active body]
  simp only [Client.from_bind_ok _ _ ran, Client.from_commit]
  rfl

/-- And a method that succeeded got through its body. -/
theorem of_callAlone_ok (codec : Codec V J) (now : Time)
    (active : db.statusOf tc.tenantID = some .active) (body : String → StoreM V Unit)
    (done : (callAlone codec now db (do
      let tenantID ← ExceptT.mk (pure (tenantIDFromCtx (some tc)))
      ensureTenantWritable tenantID
      withTransaction do
        body tenantID
        commit)).1 = .ok ()) :
    ∃ middle, Client.from (boundedServer codec now) (body tc.tenantID) (.working db db) =
      (.ok (), middle) := by
  rw [callAlone_transaction codec now active body] at done
  obtain ⟨value, middle, ran, -⟩ := Client.of_bind_ok _ _ (Prod.ext done rfl)
  exact ⟨middle, ran⟩

/-- A tuple that was written was inserted and recorded. -/
theorem of_writeTupleTx_ok {t : RelationTuple V} {middle : Session (Database J)}
    (ran : Client.from (boundedServer codec now) (writeTupleTx codec tenantID t) (.working db db) =
      (.ok (), middle)) :
    ∃ attrsJSON inserted after, ∃ answer again : Nat,
      (Statement.insertTuple tenantID t attrsJSON).run codec now db = .ok (answer, inserted) ∧
      (Statement.insertChangelog tenantID (insertEntry tenantID t)
        (codec.marshal (insertEntry tenantID t).metadata).toOption).run codec now inserted =
          .ok (again, after) ∧ middle = .working db after := by
  unfold writeTupleTx insertOrRefreshTx at ran
  obtain ⟨_, between, placed, logged⟩ := Client.of_bind_ok _ _ ran
  obtain ⟨attrsJSON, _, marshalled, placed⟩ := Client.of_bind_ok _ _ placed
  obtain ⟨-, rfl⟩ := Prod.mk.inj marshalled
  obtain ⟨attempt, tried, attempted, rest⟩ := Client.of_bind_ok _ _ placed
  cases insert : (boundedServer codec now).exec (.insertTuple tenantID t attrsJSON) db with
  | error e =>
    -- The failed insert broke the transaction, in which a refresh fails as well.
    rw [Client.from_tryExec_error _ _ _ insert] at attempted
    obtain ⟨same, rfl⟩ := Prod.mk.inj attempted
    obtain rfl := Except.ok.inj same
    simp only at rest
    split at rest
    · rw [Client.from_bind_error _ _ (refreshExpiredTupleTx_broken _ _ _ _ db db)] at rest
      cases rest
    · cases rest
  | ok result =>
    obtain ⟨answer, inserted⟩ := result
    rw [Client.from_tryExec_ok _ _ _ insert] at attempted
    obtain ⟨same, rfl⟩ := Prod.mk.inj attempted
    obtain rfl := Except.ok.inj same
    obtain ⟨-, rfl⟩ := Prod.mk.inj rest
    -- Inserted, it is recorded in the same transaction.
    unfold appendChangelogTx at logged
    obtain ⟨again, _, recorded, last⟩ := Client.of_bind_ok _ _ logged
    obtain ⟨after, append, rfl⟩ := Client.of_exec_ok _ _ _ recorded
    obtain ⟨-, rfl⟩ := Prod.mk.inj last
    exact ⟨attrsJSON, inserted, after, answer, again, insert, append, rfl⟩

/-- The entry of a caller reads back from a database when it fits, while the sequence has room. -/
theorem appendChangelog_readsBack_database (codec : Codec V J) (now later : Time) (limit : Int)
    (active : db.statusOf tc.tenantID = some .active) (numbered : db.Numbered)
    (entry : ChangelogEntry V) :
    db.ReadsBack codec later tc (callAlone codec now db (appendChangelog codec (some tc) entry))
        limit entry.SameEntry ↔ entry.Recordable ∧ db.sequence + 1 < 2 ^ 63 := by
  obtain ⟨named, known⟩ := known_of_statusOf active
  let body (tenantID : String) : StoreM V Unit := appendChangelogTx codec tenantID entry
  -- Whoever succeeds has inserted a row, and it is this row that is read.
  have inserted : ∀ {after answer}, (Statement.insertChangelog tc.tenantID entry
      (codec.marshal entry.metadata).toOption).run codec now db = .ok (answer, after) →
        callAlone codec now db (appendChangelog codec (some tc) entry) = (.ok (), after) := by
    intro after answer ran
    refine callAlone_committed codec now active body ?_
    exact Client.from_bind_ok _ _ (Client.from_exec_ok _ db db ran)
  constructor
  · intro reads
    -- A call that failed shows nothing, so this one has inserted a row.
    obtain ⟨_, _, -, done, -⟩ := id reads
    obtain ⟨middle, ran⟩ := of_callAlone_ok codec now active body done
    obtain ⟨_, _, sent, -⟩ := Client.of_bind_ok _ _ ran
    obtain ⟨after, append, -⟩ := Client.of_exec_ok _ _ _ sent
    obtain ⟨room, row, built, rfl⟩ := run_insertChangelog_ok append
    obtain ⟨assigned, number⟩ := ChangelogRow.build_columns built
    rw [inserted append] at reads
    have right := (readsBack_database codec later limit active numbered rfl rfl rfl number
      (Varchar.assigned_text named assigned) room entry.SameEntry).mp reads
    exact ⟨recordable_of_scan right, room⟩
  · rintro ⟨recordable, room⟩
    obtain ⟨row, built, right⟩ :=
      build_of_recordable codec now (db.sequence + 1) named recordable
    -- The row belongs to the tenant and has the number that is drawn next.
    obtain ⟨assigned, number⟩ := ChangelogRow.build_columns built
    have mine := Varchar.assigned_text named assigned
    have append : (Statement.insertChangelog tc.tenantID entry
        (codec.marshal entry.metadata).toOption).run codec now db = .ok ((1 : Nat),
          { db with changelog := db.changelog ++ [row], sequence := db.sequence + 1 }) := by
      rw [run_of_room room]
      simp only [Statement.exec, bind, Except.bind, built, mine, known, pure, Except.pure]
    rw [inserted append]
    exact (readsBack_database codec later limit active numbered rfl rfl rfl number mine room
      entry.SameEntry).mpr right

/-- A tuple that was written reads back from a database when the changelog has columns for it. -/
theorem writeTuple_readsBack_database (codec : Codec V J) (now later : Time) (limit : Int)
    (active : db.statusOf tc.tenantID = some .active) (numbered : db.Numbered)
    (t : RelationTuple V)
    (done : (callAlone codec now db (writeTuple codec (some tc) t)).1 = .ok ()) :
    db.ReadsBack codec later tc (callAlone codec now db (writeTuple codec (some tc) t)) limit
      t.InsertedAs ↔ t.Recordable := by
  obtain ⟨named, known⟩ := known_of_statusOf active
  let body (tenantID : String) : StoreM V Unit := writeTupleTx codec tenantID t
  obtain ⟨middle, ran⟩ := of_callAlone_ok codec now active body done
  obtain ⟨attrsJSON, inserted, after, answer, again, insert, append, rfl⟩ := of_writeTupleTx_ok ran
  have outcome : callAlone codec now db (writeTuple codec (some tc) t) = (.ok (), after) :=
    callAlone_committed codec now active body ran
  -- The insert of the tuple leaves the changelog and the sequence alone.
  obtain ⟨_, -, placed⟩ := Except.of_bind_ok (exec_of_run insert).1
  obtain ⟨tuples, -, placed⟩ := Except.of_bind_ok placed
  obtain ⟨-, -, placed⟩ := Except.of_bind_ok placed
  obtain rfl := (Prod.mk.inj (Except.ok.inj placed)).2
  obtain ⟨room, row, built, rfl⟩ := run_insertChangelog_ok append
  obtain ⟨assigned, number⟩ := ChangelogRow.build_columns built
  rw [outcome, readsBack_database codec later limit active numbered rfl rfl rfl number
    (Varchar.assigned_text named assigned) room]
  constructor
  · intro right
    exact recordable_of_row right.2
  · intro recordable
    exact inserted_of_recordable named recordable built

end InDatabase

/-- The committed entries of any number of sessions have numbers that were drawn. -/
theorem Postgres.Cluster.Sequenced.numbered {ι : Type} {g : Cluster ι J} (sequenced : g.Sequenced)
    (i : ι) : g.committed.Numbered :=
  fun row stored => (sequenced.bounded i row (List.mem_append_left _ stored)).2

/--
Entries read back from memory always, and from a database exactly when they fit its changelog.

There are no columns for expiries and attributes, and metadata is stored but not selected.
-/
theorem entries_survive_iff (codec : Codec V J) (tc : TenantContext V) (limit : Int) :
    (∀ (s : Memory.Store V) (tenant : Tenant V), s.tenants.lookup tc.tenantID = some tenant →
      tenant.status = .active → (limit ≤ 0 ∨ s.Numbered tc.tenantID) → ∀ clock : Clock,
      (∀ entry, s.ReadsBack tc (s.appendChangelog (some tc) entry clock) limit entry.SameEntry ↔
        (s.seqOf tc.tenantID).toNat + 1 < 2 ^ 64) ∧
      ∀ t, (s.writeTuple (some tc) t clock).1 = .ok () →
        (s.ReadsBack tc (s.writeTuple (some tc) t clock) limit t.InsertedAs ↔
          (s.seqOf tc.tenantID).toNat + 1 < 2 ^ 64)) ∧
    ∀ db : Database J, db.statusOf tc.tenantID = some .active → db.Numbered → ∀ now later : Time,
      (∀ entry, db.ReadsBack codec later tc
          (callAlone codec now db (appendChangelog codec (some tc) entry)) limit entry.SameEntry ↔
        entry.Recordable ∧ db.sequence + 1 < 2 ^ 63) ∧
      ∀ t, (callAlone codec now db (writeTuple codec (some tc) t)).1 = .ok () →
        (db.ReadsBack codec later tc (callAlone codec now db (writeTuple codec (some tc) t)) limit
          t.InsertedAs ↔ t.Recordable) := by
  constructor
  · intro s tenant stored active whole clock
    refine ⟨fun entry => appendChangelog_readsBack stored active entry clock whole, ?_⟩
    intro t done
    exact writeTuple_readsBack stored active t clock whole done
  · intro db active numbered now later
    refine ⟨appendChangelog_readsBack_database codec now later limit active numbered, ?_⟩
    intro t done
    exact writeTuple_readsBack_database codec now later limit active numbered t done

/-- A changelog without entries has no wrong numbers. -/
theorem twoGrants_numbered : twoGrants.Numbered :=
  fun _ stored => absurd stored List.not_mem_nil

/-- A store in memory with the tenant of that database. -/
def acmeMemory : Memory.Store Empty :=
  { (Memory.Store.new : Memory.Store Empty) with
    tenants := AList.singleton "acme" { id := "acme", status := .active } }

/-- A grant without an expiry reads back from both. -/
theorem entries_survive_iff_grant :
    acmeMemory.ReadsBack acmeContext
        (acmeMemory.writeTuple (some acmeContext) (viewerOf "3") fun _ => 9) 0
        (viewerOf "3").InsertedAs ∧
      twoGrants.ReadsBack emptyCodec 10 acmeContext
        (callAlone emptyCodec 9 twoGrants (writeTuple emptyCodec (some acmeContext) (viewerOf "3")))
        0 (viewerOf "3").InsertedAs := by
  obtain ⟨memory, database⟩ := entries_survive_iff emptyCodec acmeContext 0
  constructor
  · have reads := memory acmeMemory { id := "acme", status := .active } rfl rfl (.inl (le_refl 0))
      fun _ => 9
    exact (reads.2 (viewerOf "3") rfl).mpr (by decide +kernel)
  · refine ((database twoGrants rfl twoGrants_numbered 9 10).2 (viewerOf "3") rfl).mpr ?_
    exact ⟨show Fits 128 "doc" by decide, show Fits 256 "3" by decide,
      show Fits 128 "viewer" by decide, show Fits 128 "user" by decide, show Fits 256 "u" by decide,
      show Fits 128 "" by decide, rfl, rfl⟩

/-- The same grant until an instant. -/
def temporaryGrant : RelationTuple Empty :=
  { viewerOf "3" with expiresAt := some 60 }

/-- It is written, but its entry in the changelog of the database says nothing of the expiry. -/
theorem expiry_not_recorded :
    (callAlone emptyCodec 9 twoGrants (writeTuple emptyCodec (some acmeContext) temporaryGrant)).1 =
        .ok () ∧
      ¬ twoGrants.ReadsBack emptyCodec 10 acmeContext
        (callAlone emptyCodec 9 twoGrants
          (writeTuple emptyCodec (some acmeContext) temporaryGrant)) 0 temporaryGrant.InsertedAs := by
  have written : (callAlone emptyCodec 9 twoGrants
      (writeTuple emptyCodec (some acmeContext) temporaryGrant)).1 = .ok () := rfl
  refine ⟨written, ?_⟩
  rw [writeTuple_readsBack_database emptyCodec 9 10 0 rfl twoGrants_numbered temporaryGrant written]
  intro recordable
  cases recordable.expiresAt

end ZanGuard
