import ZanGuard.Proofs.Storage.Calls
import ZanGuard.Proofs.Storage.Cluster
import ZanGuard.Proofs.Storage.Regrant
import ZanGuard.Storage.TenantData

/-! Methods of the Postgres store that fail: when they leave the data of the tenants as it was. -/

namespace ZanGuard.Postgres

open Transaction

variable {V J : Type}

/-! ### What is seen of the data -/

/-- The rows of the tables that hold the data of tenants. -/
structure Contents (J : Type) where
  tuples : List (TupleRow J)
  objectAttributes : List (AttributesRow J)
  subjectAttributes : List (AttributesRow J)
  changelog : List (ChangelogRow J)

/-- All rows of these tables. -/
def TenantData.contents (data : TenantData J) : Contents J where
  tuples := data.database.tuples.rows
  objectAttributes := data.objectAttributes.rows
  subjectAttributes := data.subjectAttributes.rows
  changelog := data.database.changelog

/-- Whether a statement may change such a row. -/
def DataStatement.changes : DataStatement V → Bool
  | .base statement => statement.writes.isSome
  | .upsertAttributes _ _ _ _ _ => true
  | .deleteFrom _ _ => true

/-- Whenever the method gives up, the rows are those before the call. -/
def AllOrNothing (codec : Codec V J) (now : Time) (faults : Nat → Option Err)
    (data : TenantData J) (mutation : Mutation V) : Prop :=
  let outcome := callFaulty codec now faults data (mutation.method codec)
  ∀ e, outcome.1 = .error e → outcome.2.contents = data.contents

/-- A statement that writes for nobody leaves tuples and entries alone. -/
theorem run_quiet {codec : Codec V J} {now : Time} {statement : Statement V} {db after : Database J}
    {answer : statement.Answer} (quiet : statement.writes = none)
    (ran : statement.run codec now db = .ok (answer, after)) :
    after.tuples = db.tuples ∧ after.changelog = db.changelog := by
  have effect := (exec_effect (exec_of_run ran).1).changes
  -- Statements that change tuples or entries name the tenant they do it for.
  have unchanged : statement.changes codec now db = [] := by
    cases statement <;> first | rfl | cases quiet
  rw [unchanged] at effect
  rw [effect]
  exact ⟨rfl, rfl⟩

/-- The server shows these rows, and a rollback brings them back. -/
theorem dataServer_shows (codec : Codec V J) (now : Time) :
    (dataServer codec now).Shows TenantData.contents DataStatement.changes where
  undone _ _ := rfl
  read statement data answer after reads ran := by
    cases statement with
    | upsertAttributes _ _ _ _ _ => cases reads
    | deleteFrom _ _ => cases reads
    | base statement =>
      -- A statement of the store leaves the tables for attributes alone.
      obtain ⟨⟨_, database⟩, inner, rest⟩ := Except.of_bind_ok ran
      obtain rfl := (Prod.mk.inj (Except.ok.inj rest)).2
      have quiet := Option.not_isSome_iff_eq_none.mp (Bool.eq_false_iff.mp reads)
      obtain ⟨tuples, changelog⟩ := run_quiet quiet inner
      simp only [TenantData.contents, tuples, changelog]

/-! ### Methods with a transaction or a single write -/

section Undivided

/-- Whether a statement of the store writes for a tenant. -/
def Statement.isWrite (statement : Statement V) : Bool :=
  statement.writes.isSome

/-- The check of a tenant only reads. -/
theorem ensureTenantWritable_reads (tenantID : String) :
    (ensureTenantWritable tenantID : StoreM V Unit).run.Sends (Reading Statement.isWrite)
      (OnSuccess fun _ => True) := by
  refine ⟨rfl, fun found => ?_⟩
  match found with
  | .error e => trivial
  | .ok none => trivial
  -- Whatever the status is, nothing more is asked for.
  | .ok (some status) => cases status <;> trivial

/-- Statements that write for a tenant are sent within the transaction. -/
theorem SendsWriting.within {α : Type} {tenantID : String} {method : StoreM V α}
    (sends : SendsWriting tenantID method) :
    method.run.Sends Within (OnSuccess fun _ => True) := by
  refine Script.Sends.mono sends fun request writing => ?_
  cases request with
  | exec statement => trivial
  | auto _ | start | commit | rollback => cases writing

/-- A part that writes for a tenant, and a commit after it, are undivided. -/
theorem SendsWriting.undivided {α : Type} {tenantID : String} {method : StoreM V α}
    (sends : SendsWriting tenantID method) :
    (method >>= fun _ => Transaction.commit).run.Undivided Statement.isWrite .inside :=
  Script.undivided_within sends.within fun _ _ => Script.undivided_commit

/-- So is a method that checks the tenant and does the rest in a transaction. -/
theorem undivided_guarded {ctx : Context V} {body : String → StoreM V Unit}
    (inside : ∀ tenantID, (body tenantID).run.Undivided Statement.isWrite .inside) :
    (do
      let tenantID ← ExceptT.mk (pure (tenantIDFromCtx ctx))
      ensureTenantWritable tenantID
      withTransaction (body tenantID) : StoreM V Unit).run.Undivided Statement.isWrite .before := by
  refine Script.undivided_reads (Script.sends_outcome (OnSuccess.any _)) fun tenantID _ => ?_
  exact Script.undivided_reads (ensureTenantWritable_reads tenantID) fun _ _ =>
    Script.undivided_withTransaction (inside tenantID)

variable (codec : Codec V J) (ctx : Context V)

theorem writeTuple_undivided (tuple : RelationTuple V) :
    (writeTuple codec ctx tuple).run.Undivided Statement.isWrite .before :=
  undivided_guarded fun tenantID => (writeTupleTx_sends codec tenantID tuple).undivided

theorem writeTuples_undivided (tuples : List (RelationTuple V)) :
    (writeTuples codec ctx tuples).run.Undivided Statement.isWrite .before :=
  undivided_guarded fun tenantID => (writeTuplesTx_sends codec tenantID tuples).undivided

theorem appendChangelog_undivided (entry : ChangelogEntry V) :
    (appendChangelog codec ctx entry).run.Undivided Statement.isWrite .before :=
  undivided_guarded fun tenantID => (appendChangelogTx_sends codec tenantID entry).undivided

theorem deleteTuple_undivided (tuple : RelationTuple V) :
    (deleteTuple codec ctx tuple).run.Undivided Statement.isWrite .before := by
  refine undivided_guarded fun tenantID => ?_
  refine Script.undivided_within (Script.sends_exec trivial) fun tag _ => ?_
  -- A tuple that is not found ends the transaction without its commit.
  dsimp only
  split
  · exact Script.undivided_within (Script.sends_outcome (OnSuccess.any (.error Err.notFound)))
      fun _ _ => (appendChangelogTx_sends codec tenantID _).undivided
  · exact (appendChangelogTx_sends codec tenantID _).undivided

/-- Attributes are set with a single statement, after the check of the tenant. -/
theorem setAttributes_undivided (kind : EntityKind) (entityType entityID : String)
    (attrs : AnyMap V) :
    (setAttributes codec kind ctx entityType entityID attrs).run.Undivided DataStatement.changes
      .before := by
  refine Script.undivided_reads (Script.sends_outcome (OnSuccess.any _)) fun tenantID _ => ?_
  -- The check is a method of the store, and it reads here as well.
  have reads : (DataM.ofStore (ensureTenantWritable tenantID : StoreM V Unit)).run.Sends
      (Reading DataStatement.changes) (OnSuccess fun _ => True) := by
    refine Script.sends_embed ((ensureTenantWritable_reads tenantID).mono fun request reads => ?_)
    cases request with
    | auto statement => exact reads
    | start | exec _ | commit | rollback => cases reads
  refine Script.undivided_reads reads fun _ _ => ?_
  -- Encoding the attributes sends nothing.
  refine Script.undivided_reads (Script.sends_outcome (OnSuccess.any _)) fun attrsJSON _ => ?_
  exact Script.undivided_auto _ ()

/-- What is undivided leaves nothing behind when it fails. -/
theorem allOrNothing_of_undivided {codec : Codec V J} {now : Time} {faults : Nat → Option Err}
    {data : TenantData J} {mutation : Mutation V}
    (undivided : (mutation.method codec).run.Undivided DataStatement.changes .before) :
    AllOrNothing codec now faults data mutation :=
  fun _ gaveUp => undivided.sound (dataServer_shows codec now) ⟨rfl, rfl⟩ faults gaveUp

/-- So does a method of the store that is undivided. -/
theorem allOrNothing_ofStore {codec : Codec V J} {now : Time} {faults : Nat → Option Err}
    {data : TenantData J} {mutation : Mutation V} {method : StoreM V Unit}
    (asked : mutation.method codec = .ofStore method)
    (undivided : method.run.Undivided Statement.isWrite .before) :
    AllOrNothing codec now faults data mutation := by
  refine allOrNothing_of_undivided ?_
  rw [asked]
  exact Script.Undivided.embed undivided

end Undivided

/-! ### The purge -/

section Purge

variable {codec : Codec V J} {now : Time} {faults : Nat → Option Err} {data : TenantData J}
  {tenantID : String}

/-- The tables in the order in which the purge deletes from them. -/
def purgeOrder : List DataTable :=
  [.relationTuples, .attributes .object, .attributes .subject, .changelog]

/-- Delete from some tables, one after the other. -/
def deleteAll (tenantID : String) : List DataTable → DataM V Unit
  | [] => return ()
  | table :: rest => do
    let _ ← Transaction.auto (.deleteFrom table tenantID)
    deleteAll tenantID rest

/-- The data after that. -/
def TenantData.purged (data : TenantData J) (tenantID : String) (tables : List DataTable) :
    TenantData J :=
  tables.foldl (fun data table => data.deleteFrom tenantID table) data

/--
A purge ends between two of its deletions, with something deleted.

The request before them is the query for the status of the tenant.
-/
def PurgeCutShort (faults : Nat → Option Err) (data : TenantData J) (tenantID : String) : Prop :=
  data.database.statusOf tenantID = some .active ∧ faults 0 = none ∧
    ∃ k < purgeOrder.length, (∀ j < k, faults (j + 1) = none) ∧ faults (k + 1) ≠ none ∧
      ∃ table ∈ purgeOrder.take k, data.countFrom tenantID table ≠ 0

/-- Two tables with the same rows are the same. -/
theorem AttributesTable.ext {table other : AttributesTable J} (same : table.rows = other.rows) :
    table = other := by
  cases table
  cases other
  cases same
  rfl

/-- A deletion takes the rows of one table. -/
theorem countFrom_deleteFrom (data : TenantData J) (tenantID : String) (table other : DataTable) :
    (data.deleteFrom tenantID other).countFrom tenantID table =
      if table = other then 0 else data.countFrom tenantID table := by
  split
  · rename_i same
    subst same
    -- No row is left that belongs to the tenant.
    cases table with
    | relationTuples => simp [TenantData.deleteFrom, TenantData.countFrom]
    | changelog => simp [TenantData.deleteFrom, TenantData.countFrom]
    | attributes kind =>
      cases kind <;>
        simp [TenantData.deleteFrom, TenantData.countFrom, TenantData.attributes,
          TenantData.setAttributes]
  · rename_i different
    rcases table with _ | ⟨_ | _⟩ | _ <;> rcases other with _ | ⟨_ | _⟩ | _ <;>
      first
      | rfl
      | exact absurd rfl different

/-- Where no row is counted, none is dropped. -/
theorem filter_of_countP_zero {α : Type} {belongs : α → Bool} {rows : List α}
    (none : rows.countP belongs = 0) : rows.filter (fun row => !belongs row) = rows := by
  rw [List.filter_eq_self]
  intro row member
  simpa using List.countP_eq_zero.mp none row member

/-- A deletion that finds no row changes nothing. -/
theorem deleteFrom_of_none {table : DataTable} (none : data.countFrom tenantID table = 0) :
    data.deleteFrom tenantID table = data := by
  cases table with
  | relationTuples =>
    have same : (⟨_, data.database.tuples.unique.filter _⟩ : TupleTable J) = data.database.tuples :=
      TupleTable.ext (filter_of_countP_zero none)
    simp only [TenantData.deleteFrom, same]
  | changelog =>
    have kept := filter_of_countP_zero none
    simp only [TenantData.deleteFrom, kept]
  | attributes kind =>
    have same : (⟨_, (data.attributes kind).unique.filter _⟩ : AttributesTable J) =
        data.attributes kind := AttributesTable.ext (filter_of_countP_zero none)
    simp only [TenantData.deleteFrom, same]
    -- The attributes that are put back are those that were there.
    cases kind <;> rfl

/-- The deletion itself is not refused. -/
theorem deleteFrom_exec (codec : Codec V J) (now : Time) (clean : '\x00' ∉ tenantID.toList)
    (table : DataTable) (data : TenantData J) :
    (dataServer codec now).exec (.deleteFrom table tenantID) data =
      .ok (data.countFrom tenantID table, data.deleteFrom tenantID table) := by
  show DataStatement.exec codec now (.deleteFrom table tenantID) data = _
  simp [DataStatement.exec, bindTexts, clean, bind, Except.bind, pure, Except.pure]

/-- How many rows belong to a tenant can be seen. -/
theorem countFrom_of_contents {other : TenantData J} (same : data.contents = other.contents)
    (table : DataTable) : data.countFrom tenantID table = other.countFrom tenantID table := by
  simp only [TenantData.contents, Contents.mk.injEq] at same
  obtain ⟨tuples, objects, subjects, changelog⟩ := same
  rcases table with _ | ⟨_ | _⟩ | _ <;>
    simp [TenantData.countFrom, TenantData.attributes, tuples, objects, subjects, changelog]

/-- Deletions bring no row back. -/
theorem countFrom_purged (data : TenantData J) (tenantID : String) (tables : List DataTable)
    {table : DataTable} (none : data.countFrom tenantID table = 0) :
    (data.purged tenantID tables).countFrom tenantID table = 0 := by
  -- The induction is on the tables, with the data as the deletions before leave it.
  induction tables generalizing data with
  | nil => exact none
  | cons other rest ih =>
    refine ih _ ?_
    rw [countFrom_deleteFrom, none, ite_self]

/-- Deletions leave everything as it was exactly when they find no row. -/
theorem contents_purged_iff (data : TenantData J) (tenantID : String) (tables : List DataTable) :
    (data.purged tenantID tables).contents = data.contents ↔
      ∀ table ∈ tables, data.countFrom tenantID table = 0 := by
  -- The induction is on the tables; the first one that has rows settles it.
  induction tables with
  | nil => simp [TenantData.purged]
  | cons table rest ih =>
    have step : data.purged tenantID (table :: rest) =
        (data.deleteFrom tenantID table).purged tenantID rest := rfl
    by_cases none : data.countFrom tenantID table = 0
    · rw [step, deleteFrom_of_none none, ih]
      simp [none]
    · refine iff_of_false ?_ fun all => none (all table List.mem_cons_self)
      intro same
      rw [step] at same
      rw [← countFrom_of_contents same table] at none
      refine none (countFrom_purged _ _ _ ?_)
      rw [countFrom_deleteFrom, if_pos rfl]

/-- Without failures all tables are deleted from. -/
theorem deleteAll_done (codec : Codec V J) (now : Time) (data : TenantData J)
    (clean : '\x00' ∉ tenantID.toList) {tables : List DataTable}
    (fine : ∀ j < tables.length, faults j = none) :
    Client.fromFaulty (dataServer codec now) faults (deleteAll tenantID tables) (.idle data) =
      (.ok (), .idle (data.purged tenantID tables)) := by
  -- The induction is on the tables, with the failures that are still to come.
  induction tables generalizing data faults with
  | nil => rfl
  | cons table rest ih =>
    have deleted := deleteFrom_exec codec now clean table data
    have first := fine 0 (Nat.zero_lt_succ _)
    refine (Client.fromFaulty_auto_ok _ (.idle data) first deleted).trans ?_
    exact ih _ fun j below => fine (j + 1) (Nat.succ_lt_succ below)

/-- A failure leaves the tables before it deleted from. -/
theorem deleteAll_cut (codec : Codec V J) (now : Time) (data : TenantData J)
    (clean : '\x00' ∉ tenantID.toList) {tables : List DataTable} {k : Nat}
    (within : k < tables.length) (fine : ∀ j < k, faults j = none) {e : Err}
    (fails : faults k = some e) :
    Client.fromFaulty (dataServer codec now) faults (deleteAll tenantID tables) (.idle data) =
      (.error e, .idle (data.purged tenantID (tables.take k))) := by
  induction tables generalizing data faults k with
  | nil => cases within
  | cons table rest ih =>
    cases k with
    | zero => exact Client.fromFaulty_auto_fault _ _ fails
    | succ k =>
      -- The first table is deleted from, and the failure is one request nearer.
      have deleted := deleteFrom_exec codec now clean table data
      have first := fine 0 (Nat.zero_lt_succ _)
      refine (Client.fromFaulty_auto_ok _ (.idle data) first deleted).trans ?_
      have later : ∀ j < k, faults (j + 1) = none :=
        fun j below => fine (j + 1) (Nat.succ_lt_succ below)
      exact ih _ (Nat.lt_of_succ_lt_succ within) later fails

/-- The check of an active tenant lets a method go on, unless its query fails. -/
theorem writable_passes {α : Type} (codec : Codec V J) (now : Time) (next : Unit → DataM V α)
    (fine : faults 0 = none) (active : data.database.statusOf tenantID = some .active) :
    Client.fromFaulty (dataServer codec now) faults
        (DataM.ofStore (ensureTenantWritable tenantID) >>= next) (.idle data) =
      Client.fromFaulty (dataServer codec now) (fun n => faults (n + 1)) (next ()) (.idle data) := by
  have query : DataStatement.exec codec now (.base (.selectTenantStatus tenantID)) data =
      .ok (some TenantStatus.active, data) := by
    -- The query for the status draws no number and changes nothing.
    have ran := exec_selectTenantStatus codec now active
    simp [DataStatement.exec, Statement.run, Statement.draws, ran, bind, Except.bind, pure,
      Except.pure]
  show Script.runFaulty (dataServer codec now) (.ask (.auto (.base (.selectTenantStatus tenantID))) _)
    faults (.idle data) = _
  simp only [Script.runFaulty, Server.stepFaulty, fine, Server.step, Server.execAuto, dataServer,
    Session.idle, query]
  rfl

/-- Otherwise the method gives up before it has done anything. -/
theorem writable_refuses {α : Type} (codec : Codec V J) (now : Time) (next : Unit → DataM V α)
    (refused : ¬ (data.database.statusOf tenantID = some .active ∧ faults 0 = none)) :
    ∃ e, Client.fromFaulty (dataServer codec now) faults
      (DataM.ofStore (ensureTenantWritable tenantID) >>= next) (.idle data) =
        (.error e, .idle data) := by
  show ∃ e, Script.runFaulty (dataServer codec now)
    (.ask (.auto (.base (.selectTenantStatus tenantID))) _) faults (.idle data) = _
  cases fault : faults 0 with
  | some e =>
    refine ⟨e, ?_⟩
    simp only [Script.runFaulty, Server.stepFaulty, fault]
    rfl
  | none =>
    simp only [Script.runFaulty, Server.stepFaulty, fault, Server.step, Server.execAuto, dataServer,
      Session.idle]
    cases ran : DataStatement.exec codec now (.base (.selectTenantStatus tenantID)) data with
    | error e => exact ⟨e, rfl⟩
    | ok result =>
      -- The query changes nothing, and found another status or none.
      obtain ⟨found, after⟩ := result
      obtain ⟨⟨_, database⟩, inner, rest⟩ := Except.of_bind_ok ran
      obtain ⟨-, -, answered⟩ := Except.of_bind_ok (exec_of_run inner).1
      obtain ⟨rfl, rfl⟩ := Prod.mk.inj (Except.ok.inj answered)
      obtain ⟨rfl, rfl⟩ := Prod.mk.inj (Except.ok.inj rest)
      have inactive : data.database.statusOf tenantID ≠ some .active := by
        intro active
        exact refused ⟨active, fault⟩
      cases stored : data.database.statusOf tenantID with
      | none => exact ⟨.tenantNotFound, rfl⟩
      | some status =>
        cases status with
        | active => exact absurd stored inactive
        | _ => exact ⟨_, rfl⟩

/-- A purge that fails at one of its deletions leaves what those before it have done. -/
theorem purge_cut {k : Nat} (codec : Codec V J) (now : Time) (tc : TenantContext V)
    (active : data.database.statusOf tc.tenantID = some .active) (checked : faults 0 = none)
    (within : k < purgeOrder.length) (fine : ∀ j < k, faults (j + 1) = none) {e : Err}
    (fails : faults (k + 1) = some e) :
    callFaulty codec now faults data (purgeTenantData (some tc)) =
      (.error e, data.purged tc.tenantID (purgeOrder.take k)) := by
  have clean := (known_of_statusOf active).1.2
  have passes := writable_passes codec now
    (fun _ => deleteAll tc.tenantID purgeOrder) checked active
  -- Behind the check, the failure counts from the first deletion.
  have cut := deleteAll_cut codec now data clean within fine fails
  have whole : Client.fromFaulty (dataServer codec now) faults (purgeTenantData (some tc))
      (.idle data) = (.error e, .idle (data.purged tc.tenantID (purgeOrder.take k))) :=
    passes.trans cut
  unfold callFaulty
  rw [whole]
  rfl

/-- One that does not fail deletes from all tables. -/
theorem purge_done (codec : Codec V J) (now : Time) (tc : TenantContext V)
    (active : data.database.statusOf tc.tenantID = some .active) (checked : faults 0 = none)
    (fine : ∀ j < purgeOrder.length, faults (j + 1) = none) :
    callFaulty codec now faults data (purgeTenantData (some tc)) =
      (.ok (), data.purged tc.tenantID purgeOrder) := by
  have clean := (known_of_statusOf active).1.2
  have passes := writable_passes codec now
    (fun _ => deleteAll tc.tenantID purgeOrder) checked active
  -- The gate passes, and then no deletion fails.
  have whole : Client.fromFaulty (dataServer codec now) faults (purgeTenantData (some tc))
      (.idle data) = (.ok (), .idle (data.purged tc.tenantID purgeOrder)) :=
    passes.trans (deleteAll_done codec now data clean fine)
  unfold callFaulty
  rw [whole]
  rfl

/-- And one that is refused deletes nothing. -/
theorem purge_refused (codec : Codec V J) (now : Time) (tc : TenantContext V)
    (refused : ¬ (data.database.statusOf tc.tenantID = some .active ∧ faults 0 = none)) :
    ∃ e, callFaulty codec now faults data (purgeTenantData (some tc)) = (.error e, data) := by
  obtain ⟨e, whole⟩ := writable_refuses codec now
    (fun _ => deleteAll tc.tenantID purgeOrder) refused
  have outcome : Client.fromFaulty (dataServer codec now) faults (purgeTenantData (some tc))
      (.idle data) = (.error e, .idle data) := whole
  refine ⟨e, ?_⟩
  unfold callFaulty
  rw [outcome]
  rfl

/-- The first deletion that fails decides whether a purge is cut short. -/
theorem purgeCutShort_iff {k : Nat} (active : data.database.statusOf tenantID = some .active)
    (checked : faults 0 = none) (within : k < purgeOrder.length)
    (first : ∀ j < k, faults (j + 1) = none) (fails : faults (k + 1) ≠ none) :
    PurgeCutShort faults data tenantID ↔
      ∃ table ∈ purgeOrder.take k, data.countFrom tenantID table ≠ 0 := by
  constructor
  · rintro ⟨-, -, other, -, before, here, deleted⟩
    -- No deletion fails before the first, and the purge does not go on after it.
    have same : other = k := by
      rcases Nat.lt_trichotomy other k with earlier | same | later
      · exact absurd (first other earlier) here
      · exact same
      · exact absurd (before k later) fails
    exact same ▸ deleted
  · intro deleted
    exact ⟨active, checked, k, within, first, fails, deleted⟩

/-- A purge is all or nothing exactly when it is not cut short. -/
theorem purge_allOrNothing_iff (codec : Codec V J) (now : Time) (faults : Nat → Option Err)
    (data : TenantData J) (tc : TenantContext V) :
    AllOrNothing codec now faults data (.purgeTenantData (some tc)) ↔
      ¬ PurgeCutShort faults data tc.tenantID := by
  by_cases begins : data.database.statusOf tc.tenantID = some .active ∧ faults 0 = none
  · obtain ⟨active, checked⟩ := begins
    -- The check has passed, so the deletions begin.
    by_cases failing : ∃ k, k < purgeOrder.length ∧ faults (k + 1) ≠ none
    · obtain ⟨within, fails⟩ := Nat.find_spec failing
      have first : ∀ j < Nat.find failing, faults (j + 1) = none := by
        intro j below
        by_contra broken
        exact Nat.find_min failing below ⟨below.trans within, broken⟩
      obtain ⟨e, fault⟩ := Option.ne_none_iff_exists'.mp fails
      have outcome := purge_cut codec now tc active checked within first fault
      -- What was deleted before the failure stays deleted.
      simp only [AllOrNothing, Mutation.method, outcome, Except.error.injEq, forall_eq']
      rw [contents_purged_iff, purgeCutShort_iff active checked within first fails]
      simp only [ne_eq, not_exists, not_and, not_not]
    · -- Without a failure the purge does not give up.
      have fine : ∀ j < purgeOrder.length, faults (j + 1) = none := by
        intro j below
        by_contra broken
        exact failing ⟨j, below, broken⟩
      refine iff_of_true ?_ ?_
      · intro e gaveUp
        simp only [Mutation.method, purge_done codec now tc active checked fine] at gaveUp
        cases gaveUp
      · rintro ⟨-, -, k, bound, -, here, -⟩
        exact here (fine k bound)
  · obtain ⟨e, outcome⟩ := purge_refused codec now tc begins
    refine iff_of_true ?_ ?_
    · intro _ _
      simp only [Mutation.method, outcome]
    · rintro ⟨active, fine, -⟩
      exact begins ⟨active, fine⟩

end Purge

/--
The methods are all or nothing, except for a purge that is cut short.

Each of the others has a transaction or one write; the purge commits four deletions one by one.
-/
theorem all_or_nothing_iff (codec : Codec V J) (now : Time) (faults : Nat → Option Err)
    (data : TenantData J) (mutation : Mutation V) :
    AllOrNothing codec now faults data mutation ↔
      ∀ tc, mutation = .purgeTenantData (some tc) → ¬ PurgeCutShort faults data tc.tenantID := by
  cases mutation with
  | purgeTenantData ctx =>
    cases ctx with
    | some tc =>
      rw [purge_allOrNothing_iff]
      simp
    | none =>
      -- Without a tenant in the context nothing is sent.
      refine iff_of_true ?_ fun _ same => by cases same
      intro _ _
      rfl
  | writeTuple ctx tuple =>
    have undivided := writeTuple_undivided codec ctx tuple
    exact iff_of_true (allOrNothing_ofStore rfl undivided) fun _ same => by cases same
  | writeTuples ctx tuples =>
    have undivided := writeTuples_undivided codec ctx tuples
    exact iff_of_true (allOrNothing_ofStore rfl undivided) fun _ same => by cases same
  | deleteTuple ctx tuple =>
    have undivided := deleteTuple_undivided codec ctx tuple
    exact iff_of_true (allOrNothing_ofStore rfl undivided) fun _ same => by cases same
  | appendChangelog ctx entry =>
    have undivided := appendChangelog_undivided codec ctx entry
    exact iff_of_true (allOrNothing_ofStore rfl undivided) fun _ same => by cases same
  | setObjectAttributes ctx objectType objectID attrs =>
    have undivided := setAttributes_undivided codec ctx .object objectType objectID attrs
    exact iff_of_true (allOrNothing_of_undivided undivided) fun _ same => by cases same
  | setSubjectAttributes ctx subjectType subjectID attrs =>
    have undivided := setAttributes_undivided codec ctx .subject subjectType subjectID attrs
    exact iff_of_true (allOrNothing_of_undivided undivided) fun _ same => by cases same

/-- Two grants, and no attributes. -/
def grantsOnly : TenantData String where
  database := twoGrants
  objectAttributes := ⟨[], .nil⟩
  subjectAttributes := ⟨[], .nil⟩

/-- The connection is lost at the second deletion. -/
def lostAtAttributes (n : Nat) : Option Err :=
  if n = 2 then some (.postgres "08006") else none

/-- A purge that fails there has deleted the grants. -/
theorem purge_cut_short :
    (callFaulty emptyCodec 9 lostAtAttributes grantsOnly
        ((Mutation.purgeTenantData (some acmeContext)).method emptyCodec)).1 =
          .error (.postgres "08006") ∧
      ¬ AllOrNothing emptyCodec 9 lostAtAttributes grantsOnly
        (.purgeTenantData (some acmeContext)) := by
  refine ⟨rfl, ?_⟩
  rw [purge_allOrNothing_iff, not_not]
  refine ⟨rfl, rfl, 1, by decide, by decide, by decide, .relationTuples, by decide, by decide⟩

end ZanGuard.Postgres
