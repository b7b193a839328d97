import ZanGuard.Lib.Monitor
import ZanGuard.Proofs.Storage.Atomicity
import ZanGuard.Proofs.Storage.Tail

/-! The committed changelog accounts for the committed tuples, however sessions interleave. -/

namespace ZanGuard.Postgres

open Transaction

variable {V J ι : Type}

/-! ### Something that comes and goes -/

/-- Insertions and deletions that take turns, given whether something is there at first. -/
def Turns : Bool → List ChangeOp → Prop
  | _, [] => True
  | present, op :: rest => op = (if present then .delete else .insert) ∧ Turns (!present) rest

/-- Whether something is there after some operations. -/
def presentAfter : Bool → List ChangeOp → Bool
  | present, [] => present
  | _, op :: rest => presentAfter (decide (op = .insert)) rest

/-- Operations that go on after others. -/
theorem presentAfter_append (present : Bool) (ops more : List ChangeOp) :
    presentAfter present (ops ++ more) = presentAfter (presentAfter present ops) more := by
  -- By induction on the first operations.
  induction ops generalizing present with
  | nil => rfl
  | cons op rest ih => exact ih _

/-- Operations take turns when the first ones do and the others do from there. -/
theorem Turns.append {present : Bool} {ops more : List ChangeOp} (first : Turns present ops)
    (later : Turns (presentAfter present ops) more) : Turns present (ops ++ more) := by
  -- By induction on the first operations; taking a turn is what presence records.
  induction ops generalizing present with
  | nil => exact later
  | cons op rest ih =>
    obtain ⟨turn, first⟩ := first
    refine ⟨turn, ih first ?_⟩
    have same : decide (op = .insert) = !present := by cases present <;> simp [turn]
    rwa [presentAfter, same] at later

/-- What is there can only be deleted next. -/
theorem Turns.not_all_inserts {ops : List ChangeOp} (turns : Turns true ops)
    (inserts : ∀ op ∈ ops, op = .insert) : ops = [] := by
  cases ops with
  | nil => rfl
  | cons op rest =>
    -- The first operation would be both.
    have both := (inserts op List.mem_cons_self).symm.trans turns.1
    cases both

/-! ### Events -/

/-- An operation on an identity. -/
abbrev RowEvent := ChangeOp × Identity

/-- The operations on one identity. -/
def opsOn (identity : Identity) (events : List RowEvent) : List ChangeOp :=
  (events.filter (·.2 = identity)).map (·.1)

/-- Operations of events that go on after others. -/
theorem opsOn_append (identity : Identity) (events more : List RowEvent) :
    opsOn identity (events ++ more) = opsOn identity events ++ opsOn identity more := by
  simp [opsOn]

/-- What a change does to the identity that it is about. -/
def Change.event : Change J → Option RowEvent
  -- A row that is deleted from the start holds nothing.
  | .insertTuple row => if row.deletedAt = none then some (.insert, row.identity) else none
  | .markDeleted identity _ => some (.delete, identity)
  | .refresh _ _ _ => none
  | .insertChangelog _ => none

/-- What changes do, one after the other. -/
def eventsOf (changes : List (Change J)) : List RowEvent :=
  changes.filterMap Change.event

/-- What a row of the changelog says. -/
def ChangelogRow.event (row : ChangelogRow J) : RowEvent :=
  (operationOf row.operation.text, row.identity)

/-- A row that is added holds its identity. -/
theorem TupleTable.holds_append {table after : TupleTable J} {row : TupleRow J}
    (added : after.rows = table.rows ++ [row]) (identity : Identity) :
    after.holds identity = (table.holds identity || row.holds identity) := by
  simp [TupleTable.holds, added]

/-- A refresh keeps every identity where it is. -/
theorem TupleTable.holds_refresh (table : TupleTable J) (changed identity : Identity) (now : Time)
    (columns : Refresh J) : (table.refresh changed now columns).holds identity = table.holds identity := by
  unfold TupleTable.holds TupleTable.refresh
  rw [List.any_map]
  congr 1
  funext row
  -- Neither of the two columns is set.
  simp only [Function.comp_apply]
  split <;> rfl

/-- A row that is marked as deleted gives up its identity, and no other row does. -/
theorem TupleTable.holds_markDeleted (table : TupleTable J) (deleted identity : Identity)
    (now : Time) : (table.markDeleted deleted now).holds identity =
      if deleted = identity then false else table.holds identity := by
  unfold TupleTable.holds TupleTable.markDeleted
  rw [List.any_map]
  split
  · rename_i same
    subst same
    rw [List.any_eq_false]
    intro row _
    -- A row that held it is marked, and any other did not hold it.
    simp only [Function.comp_apply]
    split
    · simp [TupleRow.holds]
    · assumption
  · rename_i apart
    congr 1
    funext row
    simp only [Function.comp_apply]
    split
    · rename_i held
      simp only [TupleRow.holds, Bool.and_eq_true, decide_eq_true_eq] at held
      simp [TupleRow.holds, held, apart]
    · rfl

/-- After an insertion there is what was there before, and the row unless it was deleted already. -/
theorem holds_apply_insert (db : Database J) (row : TupleRow J) (identity : Identity) :
    ((Change.insertTuple row).apply db).tuples.holds identity =
      (db.tuples.holds identity || row.holds identity) := by
  simp only [Change.apply, TupleTable.insert]
  by_cases free : db.tuples.holds row.identity = false
  · rw [dif_pos free]
    exact TupleTable.holds_append rfl identity
  · rw [dif_neg free]
    -- An identity that is taken is there already.
    cases held : row.holds identity with
    | false => simp
    | true =>
      simp only [TupleRow.holds, Bool.and_eq_true, decide_eq_true_eq] at held
      rw [← held.2]
      simpa using free

/-- A change decides about the identity of its event, and about no other. -/
theorem holds_apply (db : Database J) (change : Change J) (identity : Identity) :
    (change.apply db).tuples.holds identity =
      presentAfter (db.tuples.holds identity) (opsOn identity change.event.toList) := by
  cases change with
  | insertTuple row =>
    rw [holds_apply_insert]
    by_cases live : row.deletedAt = none
    · by_cases same : row.identity = identity
      · simp [TupleRow.holds, Change.event, opsOn, presentAfter, live, same]
      · simp [TupleRow.holds, Change.event, opsOn, presentAfter, live, same]
    · simp [TupleRow.holds, Change.event, opsOn, presentAfter, live]
  | refresh changed now columns =>
    exact TupleTable.holds_refresh db.tuples changed identity now columns
  | markDeleted deleted now =>
    show (db.tuples.markDeleted deleted now).holds identity = _
    rw [TupleTable.holds_markDeleted]
    by_cases same : deleted = identity
    · simp [Change.event, same, opsOn, presentAfter]
    · simp [Change.event, same, opsOn, presentAfter]
  | insertChangelog row => rfl

/-- What is there after changes is what their events say. -/
theorem holds_foldl (changes : List (Change J)) (db : Database J) (identity : Identity) :
    (changes.foldl Change.apply db).tuples.holds identity =
      presentAfter (db.tuples.holds identity) (opsOn identity (eventsOf changes)) := by
  -- By induction on the changes, one event at a time.
  induction changes generalizing db with
  | nil => rfl
  | cons change rest ih =>
    have split : eventsOf (change :: rest) = change.event.toList ++ eventsOf rest := by
      unfold eventsOf
      rw [List.filterMap_cons]
      cases change.event <;> rfl
    rw [List.foldl_cons, ih, holds_apply, split, opsOn_append, presentAfter_append]

/-- A change with an event concerns the identity of the event. -/
theorem Change.concerns_of_event {change : Change J} {event : RowEvent}
    (happens : change.event = some event) : change.concerns event.2 = true := by
  cases change with
  | insertTuple row =>
    simp only [Change.event] at happens
    split at happens
    · obtain rfl := Option.some.inj happens
      simp [Change.concerns]
    · cases happens
  | markDeleted identity now =>
    obtain rfl := Option.some.inj happens
    simp [Change.concerns]
  | refresh _ _ _ | insertChangelog _ => cases happens

/-- Changes that do not concern an identity do nothing to it. -/
theorem opsOn_unconcerned {changes : List (Change J)} {identity : Identity}
    (unconcerned : ∀ change ∈ changes, change.concerns identity = false) :
    opsOn identity (eventsOf changes) = [] := by
  unfold opsOn eventsOf
  rw [List.map_eq_nil_iff, List.filter_eq_nil_iff]
  intro event member
  obtain ⟨change, made, happens⟩ := List.mem_filterMap.mp member
  simp only [decide_eq_true_eq]
  rintro rfl
  -- The change would concern the identity.
  have concerns := change.concerns_of_event happens
  rw [unconcerned change made] at concerns
  cases concerns

/-! ### What a session owes the changelog -/

/-- Where a session is: between its transactions, in one that has failed, or in one that may owe. -/
inductive Duty where
  | outside
  | broken
  /-- A row was changed for which the changelog has no entry yet, if there is an event. -/
  | inside (owed : Option RowEvent)

/-- The texts of an identity fit their columns. -/
structure Identity.Fits (identity : Identity) : Prop where
  tenantID : Postgres.Fits 128 identity.tenantID
  objectType : Postgres.Fits 128 identity.objectType
  objectID : Postgres.Fits 256 identity.objectID
  relation : Postgres.Fits 128 identity.relation
  subjectType : Postgres.Fits 128 identity.subjectType
  subjectID : Postgres.Fits 256 identity.subjectID
  subjectRelation : Postgres.Fits 128 identity.subjectRelation

/-- What a session may ask. -/
def Duty.allows : Duty → Request (Statement V) → Prop
  | .outside, .auto statement => statement.writes = none
  | .outside, .start | .outside, .rollback => True
  | .broken, .exec _ | .broken, .commit | .broken, .rollback => True
  -- Each row that is changed is logged before the next one, and before the commit.
  | .inside owed, .exec (.insertTuple tenantID tuple _) =>
    owed = none ∧ (identityOf tenantID tuple).Fits
  | .inside owed, .exec (.deleteTuple _ _) => owed = none
  | .inside owed, .exec (.insertChangelog tenantID entry _) =>
    owed = some (entry.operation, identityOf tenantID entry.tuple)
  | .inside owed, .commit => owed = none
  | .inside _, .rollback => True
  | _, _ => False

/-- Where a session is after an answer. -/
def Duty.after : Duty → (request : Request (Statement V)) → request.Reply Statement.Answer Err → Duty
  | .outside, .start, .ok _ => .inside none
  | .outside, _, _ => .outside
  | .broken, .exec _, _ => .broken
  | .inside _, .exec _, .error _ => .broken
  | .inside _, .exec (.insertTuple tenantID tuple _), .ok _ =>
    .inside (some (.insert, identityOf tenantID tuple))
  | .inside _, .exec (.deleteTuple tenantID tuple), .ok rowsAffected =>
    -- Where no row was found nothing is owed.
    .inside (if (show Nat from rowsAffected) = 0 then none
      else some (.delete, identityOf tenantID tuple))
  | .inside _, .exec _, .ok _ => .inside none
  | _, _, _ => .outside

/-- Sessions log the rows they change. -/
def logging : Monitor (Statement V) Statement.Answer Err Duty where
  allows := Duty.allows
  after := Duty.after

section Scripts

variable (codec : Codec V J) {tenantID : String}

/-- A part of a transaction is done when nothing is owed, or when the transaction has failed. -/
def Settled (duty : Duty) : Prop :=
  duty = .inside none ∨ duty = .broken

/-- A session that has changed a row logs it. -/
theorem appendChangelogTx_obeys {entry : ChangelogEntry V} {duty : Duty}
    (owes : duty = .inside (some (entry.operation, identityOf tenantID entry.tuple)) ∨
      duty = .broken) :
    (appendChangelogTx codec tenantID entry).run.Obeys logging
      (Ends (fun _ => Settled) fun _ => True) duty := by
  -- An entry that is refused breaks the transaction.
  rcases owes with rfl | rfl
  · refine ⟨rfl, fun reply => ?_⟩
    cases reply with
    | error e => trivial
    | ok _ => exact .inl rfl
  · refine ⟨trivial, fun reply => ?_⟩
    cases reply with
    | error e => trivial
    | ok _ => exact .inr rfl

/-- Inserting a tuple leaves an entry owed; its refresh is only ever sent after a failure. -/
theorem insertOrRefreshTx_obeys {tuple : RelationTuple V}
    (fits : (identityOf tenantID tuple).Fits) {duty : Duty} (settled : Settled duty) :
    (insertOrRefreshTx codec tenantID tuple).run.Obeys logging
      (Ends (fun _ after => after = .inside (some (.insert, identityOf tenantID tuple)) ∨
        after = .broken) fun _ => True) duty := by
  unfold insertOrRefreshTx
  -- Encoding the attributes sends nothing.
  have encoded : (ExceptT.mk (pure (marshalTupleAttributes codec tuple.attributes)) :
      StoreM V String).run.Obeys logging (Ends (fun _ after => after = duty) fun _ => True) duty := by
    show Ends _ _ (marshalTupleAttributes codec tuple.attributes) duty
    cases marshalTupleAttributes codec tuple.attributes with
    | error e => trivial
    | ok text => rfl
  refine Script.obeys_bind encoded fun attrsJSON after same => ?_
  subst same
  -- After the insert the session owes an entry, or the transaction has failed.
  have attempt : (Transaction.tryExec (Statement.insertTuple tenantID tuple attrsJSON) :
      StoreM V _).run.Obeys logging (Ends (fun answer next =>
        (answer.isOk = true ∧ next = .inside (some (.insert, identityOf tenantID tuple))) ∨
          next = .broken) fun _ => True) after := by
    rcases settled with rfl | rfl
    · refine ⟨⟨rfl, fits⟩, fun reply => ?_⟩
      cases reply with
      | error e => exact .inr rfl
      | ok _ => exact .inl ⟨rfl, rfl⟩
    · exact ⟨trivial, fun reply => .inr rfl⟩
  refine Script.obeys_bind attempt fun answer next outcome => ?_
  cases answer with
  | ok _ =>
    rcases outcome with ⟨-, owes⟩ | broken
    · exact .inl owes
    · exact .inr broken
  | error err =>
    have broken : next = .broken := by
      rcases outcome with ⟨done, -⟩ | broken
      · cases done
      · exact broken
    subst broken
    cases taken : isUniqueViolation err with
    | false =>
      simp only [taken, Bool.false_eq_true, if_false]
      trivial
    | true =>
      simp only [taken, if_true]
      refine Script.obeys_bind (?_ : (refreshExpiredTupleTx tenantID tuple attrsJSON).run.Obeys
        logging (Ends (fun _ after => after = .broken) fun _ => True) .broken) ?_
      · refine ⟨trivial, fun reply => ?_⟩
        cases reply with
        | error e => trivial
        | ok _ => rfl
      · rintro refreshed _ rfl
        cases refreshed with
        | true => exact .inr rfl
        | false => trivial

/-- A tuple is inserted and logged. -/
theorem writeTupleTx_obeys {tuple : RelationTuple V} (fits : (identityOf tenantID tuple).Fits)
    {duty : Duty} (settled : Settled duty) :
    (writeTupleTx codec tenantID tuple).run.Obeys logging
      (Ends (fun _ => Settled) fun _ => True) duty :=
  Script.obeys_bind (insertOrRefreshTx_obeys codec fits settled) fun _ _ owes =>
    appendChangelogTx_obeys codec owes

/-- A batch is written tuple by tuple. -/
theorem writeTuplesTx_obeys {tuples : List (RelationTuple V)}
    (fits : ∀ tuple ∈ tuples, (identityOf tenantID tuple).Fits) {duty : Duty}
    (settled : Settled duty) :
    (writeTuplesTx codec tenantID tuples).run.Obeys logging
      (Ends (fun _ => Settled) fun _ => True) duty := by
  -- The induction is on the batch.
  induction tuples generalizing duty with
  | nil => exact settled
  | cons tuple rest ih =>
    refine Script.obeys_bind (writeTupleTx_obeys codec (fits tuple List.mem_cons_self) settled) ?_
    exact fun _ _ settled => ih (fun later member => fits later (List.mem_cons_of_mem _ member)) settled

/-- What is settled may be committed. -/
theorem commit_obeys {duty : Duty} (settled : Settled duty) :
    (Transaction.commit : StoreM V Unit).run.Obeys logging
      (Ends (fun _ _ => True) fun _ => True) duty := by
  rcases settled with rfl | rfl
  · refine ⟨rfl, fun reply => ?_⟩
    cases reply <;> trivial
  · refine ⟨trivial, fun reply => ?_⟩
    cases reply <;> trivial

/-- A tuple is marked as deleted and logged, when there is one. -/
theorem deleteTupleTx_obeys (tuple : RelationTuple V) :
    (do
      let tag ← Transaction.exec (Statement.deleteTuple tenantID tuple)
      let rowsAffected : Nat := tag
      if rowsAffected = 0 then throw .notFound
      appendChangelogTx codec tenantID (deleteEntry tenantID tuple)
      Transaction.commit : StoreM V Unit).run.Obeys logging
        (Ends (fun _ _ => True) fun _ => True) (.inside none) := by
  have marked : (Transaction.exec (Statement.deleteTuple tenantID tuple) : StoreM V Nat).run.Obeys
      logging (Ends (fun (rows : Nat) after => after = .inside (if rows = 0 then none
        else some (.delete, identityOf tenantID tuple))) fun _ => True) (.inside none) := by
    refine ⟨rfl, fun reply => ?_⟩
    cases reply with
    | error e => trivial
    | ok rows => rfl
  refine Script.obeys_bind marked fun rows after owes => ?_
  subst owes
  dsimp only
  split
  · -- A tuple that is not found ends the transaction.
    trivial
  · exact Script.obeys_bind (appendChangelogTx_obeys codec (.inl rfl)) fun _ _ => commit_obeys

/-- A rollback is allowed wherever a session is, and ends its transaction. -/
theorem rollback_obeys {α : Type} (duty : Duty) (outcome : α) :
    (.ask .rollback fun _ => .done outcome : Script (Statement V) Statement.Answer Err α).Obeys
      logging (fun _ after => after = .outside) duty := by
  cases duty with
  | outside | broken => exact ⟨trivial, fun _ => rfl⟩
  | inside owed => exact ⟨trivial, fun _ => rfl⟩

/-- A method that checks the status and logs in its transaction what it changes. -/
theorem guarded_obeys {body : StoreM V Unit}
    (inside : body.run.Obeys logging (Ends (fun _ _ => True) fun _ => True) (.inside none)) :
    (do
      ensureTenantWritable tenantID
      withTransaction body : StoreM V Unit).run.Obeys logging (fun _ after => after = .outside)
        .outside := by
  refine ⟨rfl, fun found => ?_⟩
  -- A refusal ends the call before there is a transaction.
  cases found with
  | error e => rfl
  | ok found =>
    cases found with
    | none => rfl
    | some status =>
      cases status with
      | active =>
        refine ⟨trivial, fun begun => ?_⟩
        cases begun with
        | error e => rfl
        | ok _ => exact Script.Obeys.bind inside fun outcome after _ => rollback_obeys after outcome
      | pending | suspended | deleted | other _ => rfl

end Scripts

/-- The identities a call writes. -/
def Call.identities : Call V → List Identity
  | .writeTuple ctx tuple => ctx.toList.map fun tc => identityOf tc.tenantID tuple
  | .writeTuples ctx tuples => ctx.toList.flatMap fun tc => tuples.map (identityOf tc.tenantID)
  | _ => []

/-- A call that adds no entry of the caller's own, and writes identities that fit their columns. -/
def Call.Tidy (call : Call V) : Prop :=
  (∀ ctx entry, call ≠ .appendChangelog ctx entry) ∧ ∀ identity ∈ call.identities, identity.Fits

/-- Such a call logs each row that it changes. -/
theorem call_obeys (codec : Codec V J) (config : ConfigCodec V) (reader : Reader V) {call : Call V}
    (tidy : call.Tidy) :
    (call.script codec config reader).Obeys logging (fun _ after => after = .outside) .outside := by
  obtain ⟨own, fits⟩ := tidy
  cases writes : call.writes with
  | none =>
    -- Whatever such a call sends on its own writes nothing.
    refine Script.Sends.obeys (quiet_sends writes) fun request quiet => ?_
    cases request with
    | auto statement => exact ⟨quiet, fun _ => rfl⟩
    | start | exec _ | commit | rollback => exact quiet.elim
  | some tenantID =>
    cases call with
    | writeTuple ctx tuple =>
      obtain ⟨tc, rfl, rfl⟩ := Option.map_eq_some_iff.mp writes
      have fit : (identityOf tc.tenantID tuple).Fits := fits _ List.mem_cons_self
      have body := Script.obeys_bind (writeTupleTx_obeys codec fit (.inl rfl)) fun _ _ => commit_obeys
      exact Script.Obeys.bind (guarded_obeys body) fun _ _ same => same
    | writeTuples ctx tuples =>
      obtain ⟨tc, rfl, rfl⟩ := Option.map_eq_some_iff.mp writes
      have fit : ∀ tuple ∈ tuples, (identityOf tc.tenantID tuple).Fits := by
        intro tuple member
        exact fits _ (by simpa [Call.identities] using ⟨tuple, member, rfl⟩)
      have body := Script.obeys_bind (writeTuplesTx_obeys codec fit (.inl rfl)) fun _ _ => commit_obeys
      exact Script.Obeys.bind (guarded_obeys body) fun _ _ same => same
    | deleteTuple ctx tuple =>
      obtain ⟨tc, rfl, rfl⟩ := Option.map_eq_some_iff.mp writes
      exact Script.Obeys.bind (guarded_obeys (deleteTupleTx_obeys codec tuple)) fun _ _ same => same
    | appendChangelog ctx entry => exact absurd rfl (own ctx entry)
    | _ => cases writes

/-! ### Statements -/

/-- A row for a tuple whose identity fits has that identity, and is not deleted. -/
theorem TupleRow.build_identity {codec : Codec V J} {now : Time} {tenantID : String}
    {tuple : RelationTuple V} {attrsJSON : String} {row : TupleRow J}
    (fits : (identityOf tenantID tuple).Fits)
    (built : TupleRow.build codec now tenantID tuple attrsJSON = .ok row) :
    row.identity = identityOf tenantID tuple ∧ row.deletedAt = none := by
  unfold TupleRow.build at built
  -- Seven of the columns are the identity, and nothing is cut off them.
  obtain ⟨tenant, hTenant, built⟩ := Except.of_bind_ok built
  obtain ⟨objectType, hObjectType, built⟩ := Except.of_bind_ok built
  obtain ⟨objectID, hObjectID, built⟩ := Except.of_bind_ok built
  obtain ⟨relation, hRelation, built⟩ := Except.of_bind_ok built
  obtain ⟨subjectType, hSubjectType, built⟩ := Except.of_bind_ok built
  obtain ⟨subjectID, hSubjectID, built⟩ := Except.of_bind_ok built
  obtain ⟨subjectRelation, hSubjectRelation, built⟩ := Except.of_bind_ok built
  iterate 4 obtain ⟨_, -, built⟩ := Except.of_bind_ok built
  rw [← Except.ok.inj built]
  refine ⟨?_, rfl⟩
  simp only [TupleRow.identity, identityOf, Identity.mk.injEq]
  exact ⟨Varchar.assigned_text fits.tenantID hTenant,
    Varchar.assigned_text fits.objectType hObjectType,
    Varchar.assigned_text fits.objectID hObjectID, Varchar.assigned_text fits.relation hRelation,
    Varchar.assigned_text fits.subjectType hSubjectType,
    Varchar.assigned_text fits.subjectID hSubjectID,
    (Varchar.assignedNullable_iff hSubjectRelation).mpr fits.subjectRelation.1⟩

/-- The row of an entry whose identity fits says what the entry says. -/
theorem ChangelogRow.build_event {codec : Codec V J} {now : Time} {sequence : Nat}
    {tenantID : String} {entry : ChangelogEntry V} {metaJSON : Option String} {row : ChangelogRow J}
    (fits : (identityOf tenantID entry.tuple).Fits)
    (plain : entry.operation = .insert ∨ entry.operation = .delete)
    (built : ChangelogRow.build codec now sequence tenantID entry metaJSON = .ok row) :
    row.event = (entry.operation, identityOf tenantID entry.tuple) := by
  unfold ChangelogRow.build at built
  obtain ⟨tenant, hTenant, built⟩ := Except.of_bind_ok built
  obtain ⟨operation, hOperation, built⟩ := Except.of_bind_ok built
  obtain ⟨objectType, hObjectType, built⟩ := Except.of_bind_ok built
  obtain ⟨objectID, hObjectID, built⟩ := Except.of_bind_ok built
  obtain ⟨relation, hRelation, built⟩ := Except.of_bind_ok built
  obtain ⟨subjectType, hSubjectType, built⟩ := Except.of_bind_ok built
  obtain ⟨subjectID, hSubjectID, built⟩ := Except.of_bind_ok built
  obtain ⟨subjectRelation, hSubjectRelation, built⟩ := Except.of_bind_ok built
  iterate 3 obtain ⟨_, -, built⟩ := Except.of_bind_ok built
  rw [← Except.ok.inj built]
  -- The two operations are read back from the texts they are stored as.
  have said : operationOf operation.text = entry.operation := by
    rcases plain with insert | delete
    · rw [insert] at hOperation ⊢
      rw [Varchar.assigned_text (show Fits 8 "INSERT" by decide) hOperation]
      rfl
    · rw [delete] at hOperation ⊢
      rw [Varchar.assigned_text (show Fits 8 "DELETE" by decide) hOperation]
      rfl
  simp only [ChangelogRow.event, ChangelogRow.identity, identityOf, Prod.mk.injEq,
    Identity.mk.injEq]
  exact ⟨said, Varchar.assigned_text fits.tenantID hTenant,
    Varchar.assigned_text fits.objectType hObjectType,
    Varchar.assigned_text fits.objectID hObjectID, Varchar.assigned_text fits.relation hRelation,
    Varchar.assigned_text fits.subjectType hSubjectType,
    Varchar.assigned_text fits.subjectID hSubjectID,
    (Varchar.assignedNullable_iff hSubjectRelation).mpr fits.subjectRelation.1⟩

/-- An identity that some row holds fits, for it was read from the columns of the row. -/
theorem TupleTable.fits_of_holds {table : TupleTable J} {identity : Identity}
    (held : table.holds identity = true) : identity.Fits := by
  obtain ⟨row, -, holds⟩ := List.any_eq_true.mp held
  simp only [TupleRow.holds, Bool.and_eq_true, decide_eq_true_eq] at holds
  rw [← holds.2]
  exact ⟨row.tenantID.fits, row.objectType.fits, row.objectID.fits, row.relation.fits,
    row.subjectType.fits, row.subjectID.fits, Varchar.fits_coalesce _⟩

/-- An insert that succeeds adds one live row, whose identity was free. -/
theorem insertTuple_changes {codec : Codec V J} {now : Time} {tenantID : String}
    {tuple : RelationTuple V} {attrsJSON : String} {db after : Database J} {answer : Nat}
    (fits : (identityOf tenantID tuple).Fits)
    (ran : Statement.exec codec now (.insertTuple tenantID tuple attrsJSON) db =
      .ok (answer, after)) :
    ∃ row : TupleRow J, (Statement.insertTuple tenantID tuple attrsJSON).changes codec now db =
        [.insertTuple row] ∧ row.identity = identityOf tenantID tuple ∧ row.deletedAt = none ∧
      db.tuples.holds row.identity = false := by
  obtain ⟨row, built, ran⟩ := Except.of_bind_ok ran
  obtain ⟨table, inserted, -⟩ := Except.of_bind_ok ran
  obtain ⟨same, live⟩ := TupleRow.build_identity fits built
  refine ⟨row, by simp only [Statement.changes, built], same, live, ?_⟩
  -- The index would have rejected an identity that is taken.
  unfold TupleTable.insert at inserted
  split at inserted
  · assumption
  · cases inserted

/-! ### What is committed and what is under way -/

/-- The database after a statement has added changes to a transaction and drawn values. -/
def Cluster.extend [DecidableEq ι] (g : Cluster ι J) (i : ι) (work : OpenWork J)
    (new : List (Change J)) (sequence : Nat) : Cluster ι J :=
  { g.setWork i (some { work with changes := work.changes ++ new }) with
    committed := { g.committed with sequence } }

/-- What an open transaction does to an identity. -/
def Cluster.opsOf (g : Cluster ι J) (i : ι) (identity : Identity) : List ChangeOp :=
  opsOn identity (eventsOf (g.changesOf i))

/-- The committed log tells the committed rows, and so it will whatever is committed next. -/
structure Cluster.Ledger (g : Cluster ι J) (duties : ι → Duty) : Prop where
  sequenced : g.Sequenced
  /-- A session that may owe nothing has nothing to commit. -/
  closed : ∀ i, (∀ owed, duties i ≠ .inside owed) → g.engaged i = false
  owing : ∀ i owed, duties i = .inside owed →
    eventsOf (g.changesOf i) = (g.drawn i).map ChangelogRow.event ++ owed.toList
  /-- An event that is owed can be logged as it is. -/
  named : ∀ i op identity, duties i = .inside (some (op, identity)) →
    identity.Fits ∧ (op = .insert ∨ op = .delete)
  /-- Of two sessions at most one does something to an identity. -/
  apart : ∀ i j, i ≠ j → ∀ identity, g.opsOf i identity = [] ∨ g.opsOf j identity = []
  turns : ∀ i identity, Turns (g.committed.tuples.holds identity) (g.opsOf i identity)
  told : ∀ identity, let ops := opsOn identity (g.committed.changelog.map ChangelogRow.event)
    Turns false ops ∧ g.committed.tuples.holds identity = presentAfter false ops
  ordered : ∀ i identity, ((g.committed.changelog ++ g.drawn i).filter
    (·.identity = identity)).Pairwise fun r s => r.sequence < s.sequence

/-- A session that cannot commit anything has no changes. -/
theorem Cluster.changesOf_disengaged {g : Cluster ι J} {i : ι} (idle : g.engaged i = false) :
    g.changesOf i = [] := by
  unfold Cluster.engaged at idle
  unfold Cluster.changesOf
  cases opened : g.work i with
  | none => rfl
  | some work =>
    rw [opened] at idle
    have failed : work.failed = true := by simpa using idle
    simp [failed]

namespace Cluster.Ledger

variable [DecidableEq ι] {i : ι} {g after : Cluster ι J} {duties : ι → Duty} {duty : Duty}

/-- A session goes on with what it had, or with nothing, while nothing is committed. -/
theorem quiet (ledger : g.Ledger duties) (tuples : after.committed.tuples = g.committed.tuples)
    (changelog : after.committed.changelog = g.committed.changelog)
    (sequence : after.committed.sequence = g.committed.sequence)
    (others : ∀ j, j ≠ i → after.work j = g.work j)
    (own : (after.work i = g.work i ∧ duty = duties i) ∨ (after.changesOf i = [] ∧
      (duty = .inside none ∨ (∀ owed, duty ≠ .inside owed) ∧ after.engaged i = false))) :
    after.Ledger (Function.update duties i duty) := by
  -- Every session has the changes it had, or none.
  have changes : ∀ j, after.changesOf j = g.changesOf j ∨ after.changesOf j = [] := by
    intro j
    by_cases same : j = i
    · subst same
      rcases own with ⟨work, -⟩ | ⟨none, -⟩
      · simp only [Cluster.changesOf, work, true_or]
      · exact .inr none
    · simp only [Cluster.changesOf, others j same, true_or]
  have drawn : ∀ j, after.drawn j = g.drawn j ∨ after.drawn j = [] := by
    intro j
    rcases changes j with same | none
    · simp only [Cluster.drawn, same, true_or]
    · exact .inr (by simp [Cluster.drawn, none, entriesOf])
  have ops : ∀ j identity, after.opsOf j identity = g.opsOf j identity ∨
      after.opsOf j identity = [] := by
    intro j identity
    rcases changes j with same | none
    · simp only [Cluster.opsOf, same, true_or]
    · exact .inr (by simp [Cluster.opsOf, none, eventsOf, opsOn])
  refine ⟨ledger.sequenced.keeps changelog sequence drawn, ?_, ?_, ?_, ?_, ?_, ?_, ?_⟩
  · intro j free
    by_cases same : j = i
    · subst same
      rw [Function.update_self] at free
      rcases own with ⟨work, rfl⟩ | ⟨-, rfl | ⟨-, idle⟩⟩
      · simpa only [Cluster.engaged, work] using ledger.closed j free
      · exact absurd rfl (free none)
      · exact idle
    · rw [Function.update_of_ne same] at free
      simpa only [Cluster.engaged, others j same] using ledger.closed j free
  · intro j owed busy
    by_cases same : j = i
    · subst same
      rw [Function.update_self] at busy
      rcases own with ⟨work, rfl⟩ | ⟨none, rfl | ⟨free, -⟩⟩
      · simpa only [Cluster.drawn, Cluster.changesOf, work] using ledger.owing j owed busy
      · obtain rfl := Duty.inside.inj busy
        simp [Cluster.drawn, none, eventsOf, entriesOf]
      · exact absurd busy (free owed)
    · rw [Function.update_of_ne same] at busy
      simpa only [Cluster.drawn, Cluster.changesOf, others j same] using ledger.owing j owed busy
  · intro j op identity busy
    by_cases same : j = i
    · subst same
      rw [Function.update_self] at busy
      rcases own with ⟨-, rfl⟩ | ⟨-, rfl | ⟨free, -⟩⟩
      · exact ledger.named j op identity busy
      · cases busy
      · exact absurd busy (free _)
    · rw [Function.update_of_ne same] at busy
      exact ledger.named j op identity busy
  · intro j k other identity
    rcases ops j identity with mine | none
    · rcases ops k identity with theirs | none
      · rw [mine, theirs]
        exact ledger.apart j k other identity
      · exact .inr none
    · exact .inl none
  · intro j identity
    rw [tuples]
    rcases ops j identity with same | none
    · rw [same]
      exact ledger.turns j identity
    · rw [none]
      trivial
  · intro identity
    rw [tuples, changelog]
    exact ledger.told identity
  · intro j identity
    rw [changelog]
    refine (ledger.ordered j identity).sublist (List.Sublist.filter _ ?_)
    rcases drawn j with same | none
    · rw [same]
    · rw [none]
      exact (List.nil_sublist _).append_left _

omit [DecidableEq ι] in
/-- A transaction sees of an identity what is committed and what it has done itself. -/
theorem visible_holds (ledger : g.Ledger duties) {work : OpenWork J} (opened : g.work i = some work)
    (sound : work.failed = false) (identity : Identity) :
    Turns (g.committed.tuples.holds identity) (opsOn identity (eventsOf work.changes)) ∧
      (work.visible g.committed).tuples.holds identity =
        presentAfter (g.committed.tuples.holds identity)
          (opsOn identity (eventsOf work.changes)) := by
  have turns := ledger.turns i identity
  simp only [Cluster.opsOf, Cluster.changesOf, opened, sound] at turns
  exact ⟨turns, holds_foldl work.changes g.committed identity⟩

/-- A statement adds to a transaction what no other session is at, in turn, and logs what is owed. -/
theorem grows (ledger : g.Ledger duties) {work : OpenWork J} (opened : g.work i = some work)
    (sound : work.failed = false) {new : List (Change J)} {sequence : Nat}
    {owed : Option RowEvent} (busy : duties i = .inside owed)
    (logs : Cluster.Logs i g (g.extend i work new sequence)) (left : Option RowEvent)
    (logged : entriesOf new = [] ∨
      ∃ row, entriesOf new = [row] ∧ row.sequence = g.committed.sequence + 1)
    (events : owed.toList ++ eventsOf new =
      (entriesOf new).map ChangelogRow.event ++ left.toList)
    (named : ∀ op identity, left = some (op, identity) →
      identity.Fits ∧ (op = .insert ∨ op = .delete))
    (apart : ∀ identity, opsOn identity (eventsOf new) = [] ∨
      ∀ j, j ≠ i → g.opsOf j identity = [])
    (turns : ∀ identity, Turns ((work.visible g.committed).tuples.holds identity)
      (opsOn identity (eventsOf new))) :
    (g.extend i work new sequence).Ledger (Function.update duties i (.inside left)) := by
  have others : ∀ j, j ≠ i → (g.extend i work new sequence).work j = g.work j :=
    fun j other => Function.update_of_ne other _ _
  have mine : (g.extend i work new sequence).changesOf i = g.changesOf i ++ new := by
    simp [Cluster.changesOf, Cluster.extend, Cluster.setWork, opened, sound]
  have theirs : ∀ j, j ≠ i → (g.extend i work new sequence).changesOf j = g.changesOf j := by
    intro j other
    simp only [Cluster.changesOf, others j other]
  generalize extended : g.extend i work new sequence = after at *
  have tuples : after.committed.tuples = g.committed.tuples := by rw [← extended]; rfl
  have changelog : after.committed.changelog = g.committed.changelog := by rw [← extended]; rfl
  have drawn : after.drawn i = g.drawn i ++ entriesOf new := by
    rw [Cluster.drawn, mine, entriesOf_append]
    rfl
  have done : ∀ identity, after.opsOf i identity =
      g.opsOf i identity ++ opsOn identity (eventsOf new) := by
    intro identity
    rw [Cluster.opsOf, mine, eventsOf, List.filterMap_append, opsOn_append]
    rfl
  have same_ops : ∀ j, j ≠ i → ∀ identity, after.opsOf j identity = g.opsOf j identity := by
    intro j other identity
    simp only [Cluster.opsOf, theirs j other]
  -- Whoever else is at an identity keeps the new changes away from it.
  have kept : ∀ j, j ≠ i → ∀ identity,
      after.opsOf i identity = [] ∨ after.opsOf j identity = [] := by
    intro j other identity
    rw [done, same_ops j other]
    rcases apart identity with none | free
    · rw [none, List.append_nil]
      exact ledger.apart i j other.symm identity
    · exact .inr (free j other)
  refine ⟨ledger.sequenced.step logs, ?_, ?_, ?_, ?_, ?_, ?_, ?_⟩
  · intro j free
    by_cases same : j = i
    · subst same
      rw [Function.update_self] at free
      exact absurd rfl (free left)
    · rw [Function.update_of_ne same] at free
      simpa only [Cluster.engaged, others j same] using ledger.closed j free
  · intro j now still
    by_cases same : j = i
    · subst same
      rw [Function.update_self] at still
      obtain rfl := Duty.inside.inj still
      -- What was owed before is logged now, or is still owed.
      have before := ledger.owing j owed busy
      rw [mine, drawn, eventsOf, List.filterMap_append, ← eventsOf, ← eventsOf, before,
        List.map_append, List.append_assoc, List.append_assoc, events]
    · rw [Function.update_of_ne same] at still
      simpa only [Cluster.drawn, theirs j same] using ledger.owing j now still
  · intro j op identity still
    by_cases same : j = i
    · subst same
      rw [Function.update_self] at still
      exact named op identity (Duty.inside.inj still)
    · rw [Function.update_of_ne same] at still
      exact ledger.named j op identity still
  · intro j k other identity
    by_cases first : j = i
    · subst first
      exact kept k other.symm identity
    · by_cases second : k = i
      · subst second
        exact (kept j first identity).symm
      · rw [same_ops j first, same_ops k second]
        exact ledger.apart j k other identity
  · intro j identity
    rw [tuples]
    by_cases same : j = i
    · subst same
      have seen := (ledger.visible_holds opened sound identity).2
      have own : g.opsOf j identity = opsOn identity (eventsOf work.changes) := by
        simp [Cluster.opsOf, Cluster.changesOf, opened, sound]
      rw [done]
      exact (ledger.turns j identity).append (own ▸ seen ▸ turns identity)
    · rw [same_ops j same]
      exact ledger.turns j identity
  · intro identity
    rw [tuples, changelog]
    exact ledger.told identity
  · intro j identity
    rw [changelog]
    by_cases same : j = i
    · subst same
      rw [drawn, ← List.append_assoc]
      rcases logged with none | ⟨row, one, number⟩
      · rw [none, List.append_nil]
        exact ledger.ordered j identity
      · -- The value that was drawn is beyond all the others.
        rw [one, List.filter_append]
        refine List.pairwise_append.mpr ⟨ledger.ordered j identity, ?_, ?_⟩
        · exact (List.pairwise_singleton _ _).sublist List.filter_sublist
        · intro r earlier s last
          obtain rfl := List.mem_singleton.mp (List.mem_of_mem_filter last)
          exact ledger.sequenced.beyond number j (List.mem_of_mem_filter earlier)
    · simp only [Cluster.drawn, theirs j same]
      exact ledger.ordered j identity

omit [DecidableEq ι] in
/-- A session that does nothing to an identity has drawn no entry for it. -/
theorem drawn_nothing (ledger : g.Ledger duties) {j : ι} {identity : Identity}
    (idle : g.opsOf j identity = []) : (g.drawn j).filter (·.identity = identity) = [] := by
  refine List.filter_eq_nil_iff.mpr fun row drawn => ?_
  simp only [decide_eq_true_eq]
  intro about
  by_cases busy : ∃ owed, duties j = .inside owed
  · -- The entry tells an operation on the identity.
    obtain ⟨owed, inside⟩ := busy
    have event : row.event ∈ eventsOf (g.changesOf j) := by
      rw [ledger.owing j owed inside]
      exact List.mem_append_left _ (List.mem_map_of_mem drawn)
    have op : row.event.1 ∈ g.opsOf j identity :=
      List.mem_map_of_mem (List.mem_filter.mpr ⟨event, decide_eq_true about⟩)
    rw [idle] at op
    cases op
  · -- Otherwise there is nothing to commit.
    have none := Cluster.changesOf_disengaged (ledger.closed j fun owed same => busy ⟨owed, same⟩)
    rw [Cluster.drawn, none] at drawn
    cases drawn

/-- What a transaction commits that owes nothing is told by the entries it commits. -/
theorem commits (ledger : g.Ledger duties) {work : OpenWork J} (opened : g.work i = some work)
    (sound : work.failed = false) (settled : duties i = .inside none)
    (committed : after.committed = work.visible g.committed) (ended : after.work i = none)
    (others : ∀ j, j ≠ i → after.work j = g.work j) (logs : Cluster.Logs i g after) :
    after.Ledger (Function.update duties i .outside) := by
  have own : g.changesOf i = work.changes := by simp [Cluster.changesOf, opened, sound]
  have mine : after.changesOf i = [] := by simp [Cluster.changesOf, ended]
  have theirs : ∀ j, j ≠ i → after.changesOf j = g.changesOf j := by
    intro j other
    simp only [Cluster.changesOf, others j other]
  have same_ops : ∀ j, j ≠ i → ∀ identity, after.opsOf j identity = g.opsOf j identity := by
    intro j other identity
    simp only [Cluster.opsOf, theirs j other]
  have no_ops : ∀ identity, after.opsOf i identity = [] := by
    intro identity
    rw [Cluster.opsOf, mine]
    rfl
  have holds : ∀ identity, after.committed.tuples.holds identity =
      presentAfter (g.committed.tuples.holds identity) (g.opsOf i identity) := by
    intro identity
    rw [committed, Cluster.opsOf, own]
    exact (ledger.visible_holds opened sound identity).2
  have changelog : after.committed.changelog = g.committed.changelog ++ g.drawn i := by
    rw [committed, Cluster.drawn, own]
    exact foldl_apply_changelog work.changes g.committed
  have balanced : eventsOf (g.changesOf i) = (g.drawn i).map ChangelogRow.event := by
    rw [ledger.owing i none settled]
    simp
  refine ⟨ledger.sequenced.step logs, ?_, ?_, ?_, ?_, ?_, ?_, ?_⟩
  · intro j free
    by_cases same : j = i
    · subst same
      simp [Cluster.engaged, ended]
    · rw [Function.update_of_ne same] at free
      simpa only [Cluster.engaged, others j same] using ledger.closed j free
  · intro j owed busy
    by_cases same : j = i
    · subst same
      rw [Function.update_self] at busy
      cases busy
    · rw [Function.update_of_ne same] at busy
      simpa only [Cluster.drawn, theirs j same] using ledger.owing j owed busy
  · intro j op identity busy
    by_cases same : j = i
    · subst same
      rw [Function.update_self] at busy
      cases busy
    · rw [Function.update_of_ne same] at busy
      exact ledger.named j op identity busy
  · intro j k other identity
    by_cases first : j = i
    · subst first
      exact .inl (no_ops identity)
    · by_cases second : k = i
      · subst second
        exact .inr (no_ops identity)
      · rw [same_ops j first, same_ops k second]
        exact ledger.apart j k other identity
  · intro j identity
    by_cases same : j = i
    · subst same
      rw [no_ops]
      trivial
    · rw [same_ops j same, holds]
      -- The session that commits and this one are not at the identity both.
      rcases ledger.apart i j (Ne.symm same) identity with free | free
      · rw [free]
        exact ledger.turns j identity
      · rw [free]
        trivial
  · intro identity
    obtain ⟨turns, told⟩ := ledger.told identity
    have next := ledger.turns i identity
    rw [Cluster.opsOf, balanced, told] at next
    rw [changelog, List.map_append, opsOn_append]
    refine ⟨turns.append next, ?_⟩
    rw [holds, told, Cluster.opsOf, balanced, presentAfter_append]
  · intro j identity
    rw [changelog]
    by_cases same : j = i
    · subst same
      have none : after.drawn j = [] := by simp [Cluster.drawn, mine, entriesOf]
      rw [none, List.append_nil]
      exact ledger.ordered j identity
    · have drawn : after.drawn j = g.drawn j := by simp only [Cluster.drawn, theirs j same]
      rw [drawn]
      rcases ledger.apart i j (Ne.symm same) identity with free | free
      · -- What is committed says nothing about the identity.
        have kept := ledger.ordered j identity
        rw [List.filter_append] at kept
        rw [List.filter_append, List.filter_append, ledger.drawn_nothing free, List.append_nil]
        exact kept
      · rw [List.filter_append, ledger.drawn_nothing free, List.append_nil]
        exact ledger.ordered i identity

end Cluster.Ledger

/-! ### Requests -/

section Serve

variable [Fintype ι] [DecidableEq ι] {codec : Codec V J} {i : ι} {choice : Choice}
  {g after : Cluster ι J} {duties : ι → Duty}

/-- A statement of a transaction fails and leaves nothing to commit, or it waits for nobody and runs. -/
theorem serve_exec {statement : Statement V} {reply : Except Err statement.Answer}
    (served : g.serve codec i choice (.exec statement) = some (reply, after)) :
    (∃ e, reply = .error e ∧ after.engaged i = false ∧ after.committed = g.committed ∧
      ∀ j, j ≠ i → after.work j = g.work j) ∨
    ∃ work answer result, g.work i = some work ∧ work.failed = false ∧
      g.blocks i statement = false ∧ reply = .ok answer ∧
      statement.run codec work.began (work.visible g.committed) = .ok (answer, result) ∧
      after = g.extend i work (statement.changes codec work.began (work.visible g.committed))
        result.sequence := by
  simp only [Cluster.serve] at served
  split at served
  · -- There is no transaction.
    rename_i none
    obtain ⟨rfl, rfl⟩ := Prod.mk.inj (Option.some.inj served)
    exact .inl ⟨_, rfl, by simp [Cluster.engaged, none], rfl, fun _ _ => rfl⟩
  · rename_i work opened
    split at served
    · -- The transaction has failed before.
      rename_i failed
      obtain ⟨rfl, rfl⟩ := Prod.mk.inj (Option.some.inj served)
      exact .inl ⟨_, rfl, by simp [Cluster.engaged, opened, failed], rfl, fun _ _ => rfl⟩
    · rename_i sound
      split at served
      · -- It fails now, with the connection.
        obtain ⟨rfl, rfl⟩ := Prod.mk.inj (Option.some.inj served)
        exact .inl ⟨_, rfl, by simp [Cluster.engaged, Cluster.setWork], rfl,
          fun j other => Function.update_of_ne other _ _⟩
      · split at served
        · cases served
        · rename_i free
          have ran := Option.some.inj served
          unfold Cluster.execWithin at ran
          dsimp only at ran
          split at ran
          · -- Or the statement does.
            obtain ⟨rfl, rfl⟩ := Prod.mk.inj ran
            exact .inl ⟨_, rfl, by simp [Cluster.engaged, Cluster.setWork], rfl,
              fun j other => Function.update_of_ne other _ _⟩
          · rename_i answer result executed
            obtain ⟨rfl, rfl⟩ := Prod.mk.inj ran
            exact .inr ⟨work, answer, result, opened, Bool.eq_false_iff.mpr sound,
              Bool.eq_false_iff.mpr free, rfl, executed, rfl⟩

/-- A commit ends the transaction, and commits nothing unless there is a sound one. -/
theorem serve_commit {reply : Except Err Unit}
    (served : g.serve codec i choice .commit = some (reply, after)) :
    after.work i = none ∧ (∀ j, j ≠ i → after.work j = g.work j) ∧
      (after.committed = g.committed ∨ ∃ work, g.work i = some work ∧ work.failed = false ∧
        after.committed = work.visible g.committed) := by
  simp only [Cluster.serve] at served
  split at served
  · rename_i none
    obtain rfl := (Prod.mk.inj (Option.some.inj served)).2
    exact ⟨none, fun _ _ => rfl, .inl rfl⟩
  · rename_i work opened
    have ended : ∀ committed : Database J,
        ({ g.setWork i none with committed } : Cluster ι J).work i = none ∧
          ∀ j, j ≠ i → ({ g.setWork i none with committed } : Cluster ι J).work j = g.work j :=
      fun _ => ⟨Function.update_self .., fun j other => Function.update_of_ne other _ _⟩
    split at served
    · obtain rfl := (Prod.mk.inj (Option.some.inj served)).2
      exact ⟨(ended g.committed).1, (ended g.committed).2, .inl rfl⟩
    · rename_i sound
      split at served
      · obtain rfl := (Prod.mk.inj (Option.some.inj served)).2
        exact ⟨(ended g.committed).1, (ended g.committed).2, .inl rfl⟩
      · obtain rfl := (Prod.mk.inj (Option.some.inj served)).2
        exact ⟨(ended _).1, (ended _).2,
          .inr ⟨work, opened, Bool.eq_false_iff.mpr sound, rfl⟩⟩

/-- A rollback ends the transaction, and commits nothing. -/
theorem serve_rollback {reply : Except Err Unit}
    (served : g.serve codec i choice .rollback = some (reply, after)) :
    after.work i = none ∧ (∀ j, j ≠ i → after.work j = g.work j) ∧
      after.committed = g.committed := by
  simp only [Cluster.serve] at served
  split at served
  · rename_i none
    obtain rfl := (Prod.mk.inj (Option.some.inj served)).2
    exact ⟨none, fun _ _ => rfl, rfl⟩
  · obtain rfl := (Prod.mk.inj (Option.some.inj served)).2
    exact ⟨Function.update_self .., fun j other => Function.update_of_ne other _ _, rfl⟩

omit [Fintype ι] in
/-- A session whose transaction has ended owes nothing. -/
theorem Cluster.Ledger.ends (ledger : g.Ledger duties) (ended : after.work i = none)
    (others : ∀ j, j ≠ i → after.work j = g.work j) (same : after.committed = g.committed) :
    after.Ledger (Function.update duties i .outside) := by
  refine ledger.quiet (by rw [same]) (by rw [same]) (by rw [same]) others (.inr ⟨?_, .inr ⟨?_, ?_⟩⟩)
  · simp [Cluster.changesOf, ended]
  · intro owed busy
    cases busy
  · simp [Cluster.engaged, ended]

omit [Fintype ι] in
/-- A statement that fails leaves its session with nothing to commit. -/
theorem Cluster.Ledger.breaks (ledger : g.Ledger duties) (idle : after.engaged i = false)
    (others : ∀ j, j ≠ i → after.work j = g.work j) (same : after.committed = g.committed) :
    after.Ledger (Function.update duties i .broken) := by
  refine ledger.quiet (by rw [same]) (by rw [same]) (by rw [same]) others
    (.inr ⟨Cluster.changesOf_disengaged idle, .inr ⟨?_, idle⟩⟩)
  intro owed busy
  cases busy

/-- A statement that waits for nobody meets the changes of nobody that it would wait for. -/
theorem unblocked {statement : Statement V} (free : g.blocks i statement = false) {j : ι}
    (other : j ≠ i) : statement.waitsFor g.committed (g.changesOf j) = false := by
  by_contra waits
  rw [Bool.not_eq_false] at waits
  exact of_decide_eq_false free ⟨j, other, waits⟩

omit [Fintype ι] [DecidableEq ι] in
/-- Whoever does something to an identity that is committed has locked its row. -/
theorem Cluster.Ledger.locked (ledger : g.Ledger duties) {j : ι} {identity : Identity}
    (held : g.committed.tuples.holds identity = true)
    (unlocked : (g.changesOf j).any (·.locks identity) = false) : g.opsOf j identity = [] := by
  have turns := ledger.turns j identity
  rw [held] at turns
  -- Without a lock every operation on it would be an insertion.
  refine turns.not_all_inserts fun op member => ?_
  obtain ⟨event, kept, rfl⟩ := List.mem_map.mp member
  obtain ⟨found, about⟩ := List.mem_filter.mp kept
  obtain ⟨change, made, happens⟩ := List.mem_filterMap.mp found
  cases change with
  | insertTuple row =>
    simp only [Change.event] at happens
    split at happens
    · rw [← Option.some.inj happens]
    · cases happens
  | markDeleted deleted now =>
    obtain rfl := Option.some.inj happens
    exact absurd about (List.any_eq_false.mp unlocked _ made)
  | refresh _ _ _ | insertChangelog _ => cases happens

/-- A statement that runs in a transaction that may send it keeps the books. -/
theorem Cluster.Ledger.runs (ledger : g.Ledger duties) {statement : Statement V}
    {answer : statement.Answer} {work : OpenWork J} {result : Database J} {owed : Option RowEvent}
    (opened : g.work i = some work) (sound : work.failed = false)
    (free : g.blocks i statement = false)
    (ran : statement.run codec work.began (work.visible g.committed) = .ok (answer, result))
    (busy : duties i = .inside owed) (allowed : Duty.allows (.inside owed) (.exec statement)) :
    (g.extend i work (statement.changes codec work.began (work.visible g.committed))
      result.sequence).Ledger
        (Function.update duties i (Duty.after (.inside owed) (.exec statement) (.ok answer))) := by
  have moved : g.Moves codec i ⟨0, none⟩ (.exec statement) (g.extend i work
      (statement.changes codec work.began (work.visible g.committed)) result.sequence) :=
    .exec opened sound ran
  have grown := ledger.grows opened sound busy (moved.logs fun _ other => by cases other)
  have executed := (exec_of_run ran).1
  cases statement with
  | insertTuple tenantID tuple attrsJSON =>
    obtain ⟨rfl, fits⟩ := allowed
    obtain ⟨row, changes, same, live, absent⟩ := insertTuple_changes fits executed
    rw [changes] at grown ⊢
    refine grown _ (.inl rfl) ?_ ?_ ?_ ?_
    · simp [eventsOf, entriesOf, Change.event, live, same]
    · rintro op identity left
      obtain ⟨rfl, rfl⟩ := Prod.mk.inj (Option.some.inj left)
      exact ⟨fits, .inl rfl⟩
    · -- Nobody else has the identity at hand, or the insert would have waited.
      intro identity
      by_cases about : row.identity = identity
      · right
        intro j other
        refine opsOn_unconcerned fun change made => ?_
        have waits := unblocked free other
        rw [← about, same]
        simpa using List.any_eq_false.mp waits change made
      · exact .inl (by simp [opsOn, eventsOf, Change.event, live, about])
    · intro identity
      by_cases about : row.identity = identity
      · subst about
        rw [absent]
        simp [opsOn, eventsOf, Change.event, live, Turns]
      · simp [opsOn, eventsOf, Change.event, live, about, Turns]
  | deleteTuple tenantID tuple =>
    obtain rfl : owed = none := allowed
    obtain ⟨-, -, executed⟩ := Except.of_bind_ok executed
    obtain ⟨counted, -⟩ := Prod.mk.inj (Except.ok.inj executed)
    cases held : (work.visible g.committed).tuples.holds (identityOf tenantID tuple) with
    | false =>
      -- No row is found, so nothing is changed and nothing is owed.
      have none : answer = (0 : Nat) := by
        rw [← counted]
        exact List.countP_eq_zero.mpr fun row member => List.any_eq_false.mp held row member
      have changes : (Statement.deleteTuple tenantID tuple).changes codec work.began
          (work.visible g.committed) = [] := by simp [Statement.changes, held]
      rw [changes] at grown ⊢
      subst none
      refine grown _ (.inl rfl) rfl ?_ (fun _ => .inl rfl) fun _ => trivial
      intro op identity left
      cases left
    | true =>
      have some : answer ≠ (0 : Nat) := by
        rw [← counted]
        intro none
        obtain ⟨row, member, holds⟩ := List.any_eq_true.mp held
        exact List.countP_eq_zero.mp none row member holds
      have changes : (Statement.deleteTuple tenantID tuple).changes codec work.began
          (work.visible g.committed) = [.markDeleted (identityOf tenantID tuple) work.began] := by
        simp [Statement.changes, held]
      have after : Duty.after (.inside none) (.exec (Statement.deleteTuple tenantID tuple))
          (.ok answer) = .inside (.some (.delete, identityOf tenantID tuple)) :=
        congrArg Duty.inside (if_neg some)
      rw [changes] at grown ⊢
      rw [after]
      refine grown _ (.inl rfl) rfl ?_ ?_ ?_
      · rintro op identity left
        obtain ⟨rfl, rfl⟩ := Prod.mk.inj (Option.some.inj left)
        exact ⟨TupleTable.fits_of_holds held, .inr rfl⟩
      · intro identity
        by_cases about : identityOf tenantID tuple = identity
        · subst about
          right
          intro j other
          cases committed : g.committed.tuples.holds (identityOf tenantID tuple) with
          | true =>
            -- A row that is committed is locked by whoever changes it.
            have waits := unblocked free other
            simp only [Statement.waitsFor, committed, Bool.true_and] at waits
            exact ledger.locked committed waits
          | false =>
            -- A row that is not was inserted by this session, so others stay away from it.
            rcases ledger.apart i j (Ne.symm other) (identityOf tenantID tuple) with nothing | nothing
            · have seen := (ledger.visible_holds opened sound (identityOf tenantID tuple)).2
              simp only [Cluster.opsOf, Cluster.changesOf, opened, sound] at nothing
              rw [held, committed, show opsOn _ (eventsOf work.changes) = [] from nothing] at seen
              cases seen
            · exact nothing
        · exact .inl (by simp [opsOn, eventsOf, Change.event, about])
      · intro identity
        by_cases about : identityOf tenantID tuple = identity
        · subst about
          rw [held]
          simp [opsOn, eventsOf, Change.event, Turns]
        · simp [opsOn, eventsOf, Change.event, about, Turns]
  | insertChangelog tenantID entry metaJSON =>
    obtain rfl : owed = some (entry.operation, identityOf tenantID entry.tuple) := allowed
    obtain ⟨fits, plain⟩ := ledger.named i _ _ busy
    obtain ⟨row, built, -⟩ := Except.of_bind_ok executed
    have said := ChangelogRow.build_event fits plain built
    have number := (ChangelogRow.build_columns built).2
    rw [visible_sequence] at number
    have changes : (Statement.insertChangelog tenantID entry metaJSON).changes codec work.began
        (work.visible g.committed) = [.insertChangelog row] := by
      simp only [Statement.changes, built]
    rw [changes] at grown ⊢
    refine grown _ (.inr ⟨row, rfl, number⟩) ?_ ?_ (fun _ => .inl rfl) fun _ => trivial
    · simp [eventsOf, entriesOf, Change.event, said]
    · intro op identity left
      cases left
  | _ => cases allowed

/-- Every answer to a request that is allowed keeps the books. -/
theorem Cluster.Ledger.serve (ledger : g.Ledger duties) {request : Request (Statement V)}
    {reply : request.Reply Statement.Answer Err} (allowed : (duties i).allows request)
    (served : g.serve codec i choice request = some (reply, after)) :
    after.Ledger (Function.update duties i ((duties i).after request reply)) := by
  cases request with
  | auto statement =>
    cases at_ : duties i with
    | outside =>
      rw [at_] at allowed
      -- A statement on its own writes neither tuples nor entries.
      have moved := serve_moves served
      cases moved with
      | keeps => exact ledger.quiet rfl rfl rfl (fun _ _ => rfl) (.inl ⟨rfl, at_.symm⟩)
      | auto up ran =>
        obtain ⟨tuples, changelog⟩ := run_quiet allowed ran
        have silent : statement.draws = false := by
          cases statement with
          | insertChangelog tenantID entry metaJSON => cases allowed
          | _ => rfl
        have sequence := (exec_effect (exec_of_run ran).1).sequence silent
        exact ledger.quiet tuples changelog sequence (fun _ _ => rfl) (.inl ⟨rfl, at_.symm⟩)
      | ends =>
        exact ledger.ends (Function.update_self ..) (fun j other => Function.update_of_ne other _ _) rfl
    | broken | inside owed =>
      rw [at_] at allowed
      exact allowed.elim
  | start =>
    cases at_ : duties i with
    | outside =>
      simp only [Cluster.serve] at served
      split at served
      · obtain ⟨rfl, rfl⟩ := Prod.mk.inj (Option.some.inj served)
        exact ledger.quiet rfl rfl rfl (fun _ _ => rfl) (.inl ⟨rfl, at_.symm⟩)
      · obtain ⟨rfl, rfl⟩ := Prod.mk.inj (Option.some.inj served)
        refine ledger.quiet rfl rfl rfl (fun j other => Function.update_of_ne other _ _)
          (.inr ⟨?_, .inl rfl⟩)
        simp [Cluster.changesOf, Cluster.setWork]
    | broken | inside owed =>
      rw [at_] at allowed
      exact allowed.elim
  | exec statement =>
    cases at_ : duties i with
    | outside =>
      rw [at_] at allowed
      exact allowed.elim
    | broken =>
      obtain ⟨e, -, idle, same, others⟩ | ⟨work, _, _, opened, sound, -⟩ := serve_exec served
      · exact ledger.breaks idle others same
      · -- After a failure there is no transaction that could go on.
        have idle := ledger.closed i (by rw [at_]; intro owed busy; cases busy)
        simp [Cluster.engaged, opened, sound] at idle
    | inside owed =>
      rw [at_] at allowed
      obtain ⟨e, rfl, idle, same, others⟩ | ⟨work, answer, result, opened, sound, free, rfl, ran,
        rfl⟩ := serve_exec served
      · exact ledger.breaks idle others same
      · exact ledger.runs opened sound free ran at_ allowed
  | commit =>
    obtain ⟨ended, others, committed⟩ := serve_commit served
    have left : (duties i).after .commit reply = .outside := by cases duties i <;> rfl
    rw [left]
    rcases committed with same | ⟨work, opened, sound, visible⟩
    · exact ledger.ends ended others same
    · cases at_ : duties i with
      | outside =>
        rw [at_] at allowed
        exact allowed.elim
      | broken =>
        have idle := ledger.closed i (by rw [at_]; intro owed busy; cases busy)
        simp [Cluster.engaged, opened, sound] at idle
      | inside owed =>
        rw [at_] at allowed
        obtain rfl : owed = none := allowed
        refine ledger.commits opened sound at_ visible ended others ?_
        refine .commits ?_ ?_ (Cluster.drawn_closed ended) fun j other => ?_
        · rw [visible, Cluster.drawn_working opened sound]
          exact foldl_apply_changelog work.changes g.committed
        · rw [visible]
          exact visible_sequence work g.committed
        · simp only [Cluster.drawn, Cluster.changesOf, others j other]
  | rollback =>
    obtain ⟨ended, others, same⟩ := serve_rollback served
    have left : (duties i).after .rollback reply = .outside := by cases duties i <;> rfl
    rw [left]
    exact ledger.ends ended others same

end Serve

/-! ### Runs -/

/-- The entries for an identity, in the order in which the changelog is read. -/
def Database.history (db : Database J) (identity : Identity) : List ChangeOp :=
  ((db.changelogAfter identity.tenantID 0).filter (·.identity = identity)).map
    fun row => operationOf row.operation.text

/--
The changelog tells of every identity whether a row holds it.

Read in its order, insertions and deletions of the identity take turns, and the last one decides.
-/
def Database.Told (db : Database J) : Prop :=
  ∀ identity, Turns false (db.history identity) ∧
    db.tuples.holds identity = presentAfter false (db.history identity)

/-- A database whose entries are numbered in the order in which they were committed. -/
structure Database.Balanced (db : Database J) : Prop where
  room : db.sequence < 2 ^ 63
  numbered : ∀ row ∈ db.changelog, 0 < row.sequence ∧ row.sequence ≤ db.sequence
  distinct : db.changelog.Pairwise fun r s => r.sequence ≠ s.sequence
  ordered : ∀ identity, (db.changelog.filter (·.identity = identity)).Pairwise
    fun r s => r.sequence < s.sequence
  told : db.Told

/-- The entries for an identity are read in the order in which they were committed. -/
theorem history_eq {db : Database J} {identity : Identity}
    (positive : ∀ row ∈ db.changelog, 0 < row.sequence)
    (distinct : db.changelog.Pairwise fun r s => r.sequence ≠ s.sequence)
    (ordered : (db.changelog.filter (·.identity = identity)).Pairwise
      fun r s => r.sequence < s.sequence) :
    db.history identity = opsOn identity (db.changelog.map ChangelogRow.event) := by
  -- Reading sorts the entries of the tenant, and those for the identity are in order before.
  have sorted := (Pages.strict_sort (distinct.filter fun row =>
    decide (row.tenantID.text = identity.tenantID) && decide (row.sequence > 0))).filter
      fun row => decide (row.identity = identity)
  have selected : (db.changelog.filter fun row =>
      decide (row.tenantID.text = identity.tenantID) && decide (row.sequence > 0)).filter
        (·.identity = identity) = db.changelog.filter (·.identity = identity) := by
    rw [List.filter_filter]
    refine List.filter_congr fun row member => ?_
    by_cases about : row.identity = identity
    · simp [← about, ChangelogRow.identity, positive row member]
    · simp [about]
  have same : (db.changelogAfter identity.tenantID 0).filter (·.identity = identity) =
      db.changelog.filter (·.identity = identity) := by
    refine List.Perm.eq_of_pairwise (fun r s _ _ below above => ?_) sorted ordered ?_
    · omega
    · rw [← selected]
      exact (List.perm_insertionSort _ _).filter _
  rw [Database.history, same, opsOn, List.filter_map, List.map_map]
  rfl

/-- What the log tells in the order of the commits it tells in the order of reading. -/
theorem Cluster.Ledger.balanced {g : Cluster ι J} {duties : ι → Duty} (ledger : g.Ledger duties)
    (i : ι) : g.committed.Balanced := by
  have distinct := (List.pairwise_append.mp (ledger.sequenced.distinct i)).1
  have numbered : ∀ row ∈ g.committed.changelog,
      0 < row.sequence ∧ row.sequence ≤ g.committed.sequence :=
    fun row member => ledger.sequenced.bounded i row (List.mem_append_left _ member)
  have ordered : ∀ identity, (g.committed.changelog.filter (·.identity = identity)).Pairwise
      fun r s => r.sequence < s.sequence := by
    intro identity
    exact (ledger.ordered i identity).sublist ((List.sublist_append_left _ _).filter _)
  refine ⟨ledger.sequenced.room, numbered, distinct, ordered, fun identity => ?_⟩
  rw [history_eq (fun row member => (numbered row member).1) distinct (ordered identity)]
  exact ledger.told identity

/-- Sessions without transactions keep the books of a balanced database. -/
theorem Database.Balanced.ledger {g : Cluster ι J} (balanced : g.committed.Balanced)
    (closed : ∀ i, g.work i = none) : g.Ledger fun _ => .outside := by
  have changes : ∀ i, g.changesOf i = [] := fun i => by simp [Cluster.changesOf, closed i]
  have drawn : ∀ i, g.drawn i = [] := fun i => Cluster.drawn_closed (closed i)
  have positive : ∀ row ∈ g.committed.changelog, 0 < row.sequence :=
    fun row member => (balanced.numbered row member).1
  refine ⟨⟨balanced.room, ?_, ?_, ?_⟩, ?_, ?_, ?_, ?_, ?_, ?_, ?_⟩
  · intro i row member
    rw [drawn, List.append_nil] at member
    exact balanced.numbered row member
  · intro i
    rw [drawn, List.append_nil]
    exact balanced.distinct
  · intro i j _ r mine
    rw [drawn] at mine
    cases mine
  · intro i _
    simp [Cluster.engaged, closed i]
  · intro i owed busy
    cases busy
  · intro i op identity busy
    cases busy
  · intro i j _ identity
    exact .inl (by rw [Cluster.opsOf, changes]; rfl)
  · intro i identity
    rw [Cluster.opsOf, changes]
    trivial
  · intro identity
    have told := balanced.told identity
    rwa [history_eq positive balanced.distinct (balanced.ordered identity)] at told
  · intro i identity
    rw [drawn, List.append_nil]
    exact balanced.ordered identity

/--
The committed changelog accounts for the committed tuples.

Whatever the sessions write and delete side by side, and whichever requests fail, the entries for an
identity say in turn that it was inserted and deleted, and the last one says whether a row holds it.
-/
theorem changelog_accounts_for_tuples [Fintype ι] [DecidableEq ι] (codec : Codec V J)
    (config : ConfigCodec V) (net : Net (sessions codec config (ι := ι)))
    (resting : ∀ i, (net.parties i).running = none ∧ net.shared.work i = none)
    (balanced : net.shared.committed.Balanced) (events : List (Event ι Choice (Call V)))
    (tidy : ∀ i call, .start i call ∈ events → call.Tidy) :
    ((sessions codec config).machine.final net events).shared.committed.Told := by
  have watched : net.Watched logging .outside Cluster.Ledger fun _ => .outside := by
    refine ⟨fun i => ?_, balanced.ledger fun i => (resting i).2⟩
    simp [Party.Obeys, Party.rest, (resting i).1]
  obtain ⟨duties, kept⟩ := watched.final
    (fun call tidy reader => call_obeys codec config reader tidy)
    (fun i choice g request reply after duties ledger allowed served =>
      ledger.serve allowed served) tidy
  -- Without sessions nothing has happened.
  cases events with
  | nil => exact balanced.told
  | cons event rest =>
    cases event with
    | start i call => exact (kept.shared.balanced i).told
    | step i choice => exact (kept.shared.balanced i).told

/-- Two sessions write one tuple at the same time, and a third one then deletes it. -/
def contended (first second third : Fin 3) : List (Event (Fin 3) Choice (Call Empty)) :=
  [.start first (.writeTuple (some acmeContext) (viewerOf "1")),
    .start second (.writeTuples (some acmeContext) [viewerOf "1", viewerOf "2"])] ++
  replies first 3 ++ replies second 3 ++ replies first 3 ++ replies second 4 ++
    [.start third (.deleteTuple (some acmeContext) (viewerOf "1"))] ++ replies third 6

/-- The changelog tells what has become of the tuple. -/
theorem changelog_accounts_for_tuples_contended :
    ((sessions emptyCodec defaultConfigCodec).machine.final threeSessions
      (contended 0 1 2)).shared.committed.Told := by
  have fits : ∀ objectID, Postgres.Fits 256 objectID →
      (identityOf "acme" (viewerOf objectID)).Fits := by
    intro objectID short
    exact ⟨fits_acme, fits_doc, short, fits_viewer, fits_user, show Postgres.Fits 256 "u" by decide,
      show Postgres.Fits 128 "" by decide⟩
  refine changelog_accounts_for_tuples emptyCodec defaultConfigCodec threeSessions
    (fun _ => ⟨rfl, rfl⟩) ?_ (contended 0 1 2) ?_
  · -- There is neither a row nor an entry.
    refine ⟨by decide, ?_, .nil, fun _ => .nil, fun identity => ⟨trivial, rfl⟩⟩
    intro row member
    cases member
  · intro i call member
    simp only [contended, replies, List.mem_append, List.mem_cons, List.not_mem_nil, or_false,
      List.mem_replicate, reduceCtorEq, and_false, Event.start.injEq] at member
    rcases member with (⟨-, rfl⟩ | ⟨-, rfl⟩) | ⟨-, rfl⟩
    · refine ⟨fun _ _ same => (by cases same), fun identity written => ?_⟩
      obtain rfl := List.mem_singleton.mp written
      exact fits "1" fits_one
    · refine ⟨fun _ _ same => (by cases same), fun identity written => ?_⟩
      have two : identity = identityOf "acme" (viewerOf "1") ∨
          identity = identityOf "acme" (viewerOf "2") := by
        simpa [Call.identities, acmeContext] using written
      rcases two with rfl | rfl
      · exact fits "1" fits_one
      · exact fits "2" (by decide)
    · refine ⟨fun _ _ same => (by cases same), fun identity written => ?_⟩
      cases written

end ZanGuard.Postgres
