import ZanGuard.Proofs.Api.Service
import ZanGuard.Proofs.Storage.Batch
import ZanGuard.Proofs.Storage.Duplicates

/-! What the requests of a run leave in the changelog of a tenant, and in its tuples. -/

namespace ZanGuard.Api

open Memory Keyed

variable {V P : Type}

/-! ### The log that requests add up to -/

/-- The entries for tuples that are stored one after another, after so many others. -/
def insertedEntries (tenantID : String) (clock : Clock) :
    Nat → Nat → List (RelationTuple V) → List (ChangelogEntry V)
  | _, _, [] => []
  | before, i, tuple :: rest =>
    { sequence := .ofNat (before + 1), tenantID, operation := .insert, tuple, timestamp := clock i
      source := "api" } :: insertedEntries tenantID clock (before + 1) (i + 1) rest

/-- The entry for a tuple that is deleted after so many others. -/
def deletedEntry (tenantID : String) (clock : Clock) (before : Nat) (tuple : RelationTuple V) :
    ChangelogEntry V :=
  { sequence := .ofNat (before + 1), tenantID, operation := .delete, tuple, timestamp := clock 0
    source := "api" }

/--
The log of a tenant after one more request was answered.

Nothing is looked at but the requests and whether they were accepted.
-/
def extendLog (env : Environment V P) (tenantID : String) (log : List (ChangelogEntry V))
    (answered : ApiCall V × Response V) : List (ChangelogEntry V) :=
  match answered.2, answered.1.writes env, answered.1.request.deletes with
  | .error _, _, _ => log
  | .ok _, some (owner, tuples), _ =>
    if owner = tenantID then
      log ++ insertedEntries tenantID answered.1.clock log.length 1
        (tuples.map (stageTuple tenantID (answered.1.clock 0)))
    else log
  | .ok _, none, some (owner, tuple) =>
    if owner = tenantID then
      -- The tuple that was written last under the key is the one that is deleted.
      log ++ (replay log (tupleIdentityKey tuple)).toList.map
        (deletedEntry tenantID answered.1.clock log.length)
    else log
  | .ok _, none, none => log

/-- A store has the log of a tenant, numbered from one, and the tuples it replays to. -/
structure Records (s : Store V) (tenantID : String) (log : List (ChangelogEntry V)) : Prop where
  logged : s.changelogOf tenantID = log
  counter : s.seqOf tenantID = .ofNat log.length
  fold : FoldOf (s.tuplesOf tenantID) log
  /-- Whoever has no bucket of tuples has logged nothing. -/
  opened : s.tuples.lookup tenantID = none → log = []

/-! ### One request -/

variable {s : Store V} {tenantID : String} {log : List (ChangelogEntry V)}

/-- A log and tuples that stay as they are. -/
theorem Records.of_same {after : Store V} (records : Records s tenantID log)
    (tuples : after.tuples.lookup tenantID = s.tuples.lookup tenantID)
    (changelog : after.changelog.lookup tenantID = s.changelog.lookup tenantID)
    (counter : after.seqCounter.lookup tenantID = s.seqCounter.lookup tenantID) :
    Records after tenantID log := by
  constructor
  · rw [← records.logged]
    simp only [Store.changelogOf, changelog]
  · rw [← records.counter]
    simp only [Store.seqOf, counter]
  · have same : after.tuplesOf tenantID = s.tuplesOf tenantID := by simp only [Store.tuplesOf, tuples]
    rw [same]
    exact records.fold
  · exact fun missing => records.opened (tuples ▸ missing)

/-- One more number. -/
theorem ofNat_succ (n : Nat) : UInt64.ofNat n + 1 = .ofNat (n + 1) := by
  rw [UInt64.ofNat_add]
  rfl

/-- An entry is logged under the number after those there are. -/
theorem append_entry (logged : s.changelogOf tenantID = log)
    (counter : s.seqOf tenantID = .ofNat log.length) (op : ChangeOp) (tuple : RelationTuple V)
    (timestamp : Time) :
    (s.appendTupleChangelogUnsafe tenantID op tuple "api" timestamp).changelogOf tenantID =
        log ++ [{ sequence := .ofNat (log.length + 1), tenantID, operation := op, tuple, timestamp
                  source := "api" }] ∧
      (s.appendTupleChangelogUnsafe tenantID op tuple "api" timestamp).seqOf tenantID =
        .ofNat (log.length + 1) := by
  constructor
  · rw [← ofNat_succ, ← counter, ← logged]
    simp [Store.appendTupleChangelogUnsafe, Store.changelogOf]
  · rw [← ofNat_succ, ← counter]
    simp [Store.appendTupleChangelogUnsafe, Store.seqOf]

/-- A batch is logged under the numbers after those there are. -/
theorem logInserts_entries (clock : Clock) (i : Nat) (staged : List (RelationTuple V))
    (logged : s.changelogOf tenantID = log) (counter : s.seqOf tenantID = .ofNat log.length) :
    (s.logInserts tenantID clock i staged).changelogOf tenantID =
        log ++ insertedEntries tenantID clock log.length i staged ∧
      (s.logInserts tenantID clock i staged).seqOf tenantID =
        .ofNat (log ++ insertedEntries tenantID clock log.length i staged).length := by
  -- The induction is on the batch, one entry at a time.
  induction staged generalizing s log i with
  | nil => simp [Store.logInserts, insertedEntries, logged, counter]
  | cons t rest ih =>
    obtain ⟨one, number⟩ := append_entry logged counter .insert t (clock i)
    have later := ih (i + 1) one (by rw [number, List.length_append, List.length_singleton])
    rw [List.length_append, List.length_singleton, List.append_assoc] at later
    exact later

/-- A batch that is accepted adds an entry for each of its tuples. -/
theorem Records.wrote (records : Records s tenantID log) {tuples : List (RelationTuple V)}
    {clock : Clock} (opened : (s.tuples.lookup tenantID).isSome = true)
    (done : (s.writeTuplesLocked tenantID tuples clock).1 = .ok ()) :
    Records (s.writeTuplesLocked tenantID tuples clock).2 tenantID
      (log ++ insertedEntries tenantID clock log.length 1 (tuples.map (stageTuple tenantID (clock 0)))) := by
  have fold := writeTuplesLocked_fold (records.logged.symm ▸ records.fold) tuples clock
  suffices logged : (s.writeTuplesLocked tenantID tuples clock).2.changelogOf tenantID =
      log ++ insertedEntries tenantID clock log.length 1 (tuples.map (stageTuple tenantID (clock 0))) ∧
      (s.writeTuplesLocked tenantID tuples clock).2.seqOf tenantID =
        .ofNat (log ++ insertedEntries tenantID clock log.length 1
          (tuples.map (stageTuple tenantID (clock 0)))).length from
    ⟨logged.1, logged.2, logged.1 ▸ fold, fun missing => by
      have there := (writeTuplesLocked_frame s tenantID tuples clock).2 opened
      rw [missing] at there
      cases there⟩
  unfold Store.writeTuplesLocked at done ⊢
  split
  · -- An empty batch adds nothing.
    rename_i empty
    rw [List.isEmpty_iff.mp empty]
    simp [insertedEntries, records.logged, records.counter]
  · rename_i some_there
    rw [if_neg some_there] at done
    dsimp only at done ⊢
    split at done
    · cases done
    · rename_i staged ok
      obtain ⟨distinct, fresh⟩ := stageTuples_fresh ok
      -- Staging rewrites each tuple on its own.
      obtain rfl := Except.ok.inj (ok.symm.trans (stageTuples_eq fresh distinct))
      exact logInserts_entries clock 1 _ records.logged records.counter

/-- The tuple a deletion finds is the one written last under its key. -/
theorem Records.found (records : Records s tenantID log) {tuple t : RelationTuple V}
    (there : (s.tuplesOf tenantID).find? (sameIdentity · tuple) = some t) :
    replay log (tupleIdentityKey tuple) = some t := by
  have agrees : sameIdentity t tuple = true := by simpa using List.find?_some there
  have same := key_of_sameIdentity agrees
  rw [← records.fold.replayed, ← same]
  exact get_of_mem records.fold.distinct (List.mem_of_find?_eq_some there)

/-- A deletion that is accepted adds an entry for the tuple it has found. -/
theorem Records.deleted (records : Records s tenantID log) {tuple t : RelationTuple V} {clock : Clock}
    (there : (s.tuplesOf tenantID).find? (sameIdentity · tuple) = some t) :
    Records ({ s with
      tuples := s.tuples.insert tenantID ((s.tuplesOf tenantID).eraseP (sameIdentity · tuple))
      }.appendTupleChangelogUnsafe tenantID .delete t "api" (clock 0)) tenantID
      (log ++ (replay log (tupleIdentityKey tuple)).toList.map
        (deletedEntry tenantID clock log.length)) := by
  have fold := deleteTuple_fold (records.logged.symm ▸ records.fold) there (clock 0)
  obtain ⟨logged, counter⟩ := append_entry
    (s := { s with
      tuples := s.tuples.insert tenantID ((s.tuplesOf tenantID).eraseP (sameIdentity · tuple)) })
    records.logged records.counter .delete t (clock 0)
  rw [records.found there]
  refine ⟨logged, by rw [counter]; simp, logged ▸ fold, fun missing => ?_⟩
  cases (AList.lookup_insert _).symm.trans missing

/-- A request for another tenant leaves a tenant's log and tuples alone. -/
theorem Records.foreign {after : Store V} (records : Records s tenantID log)
    (same : after.slice tenantID = s.slice tenantID) : Records after tenantID log := by
  obtain ⟨-, tuples, -, -, changelog, counter⟩ := slice_eq_iff.mp same
  exact records.of_same tuples changelog counter

/-- A tenant that is created starts an empty log, unless there is one under its ID. -/
theorem Records.created (records : Records s tenantID log) {id : String} {t : Tenant V} :
    Records ({ s with tenants := s.tenants.insert id t }.initTenant id) tenantID log := by
  by_cases same : tenantID = id
  · subst same
    unfold Store.initTenant
    split
    · exact records.of_same rfl rfl rfl
    · rename_i missing
      obtain rfl := records.opened missing
      exact ⟨by simp [Store.changelogOf], by simp [Store.seqOf], by simpa [Store.tuplesOf] using FoldOf.empty,
        fun _ => rfl⟩
  · obtain ⟨-, tuples, -, -, changelog, counter⟩ := slice_eq_iff.mp
      (initTenant_foreign (s := { s with tenants := s.tenants.insert id t }) same)
    exact records.of_same tuples changelog counter

variable {env : Environment V P} {call : ApiCall V}

/-- A request that asks for another change asks for no write and no deletion. -/
theorem writes_of_deletes {named : String × RelationTuple V}
    (asked : call.request.deletes = some named) : call.writes env = none := by
  obtain ⟨request, now, clock, checks⟩ := call
  cases request with
  | deleteTuple _ _ => rfl
  | _ => cases asked

theorem logs_nothing_of_sets {named : String × SetCall V} (asked : call.request.sets = some named) :
    call.writes env = none ∧ call.request.deletes = none := by
  obtain ⟨request, now, clock, checks⟩ := call
  cases request with
  | setObjectAttributes _ _ _ _ | setSubjectAttributes _ _ _ _ => exact ⟨rfl, rfl⟩
  | _ => cases asked

theorem logs_nothing_of_moves {named : String × TenantStatus}
    (asked : call.request.moves = some named) :
    call.writes env = none ∧ call.request.deletes = none := by
  obtain ⟨request, now, clock, checks⟩ := call
  cases request with
  | activateTenant _ | suspendTenant _ | deleteTenant _ => exact ⟨rfl, rfl⟩
  | _ => cases asked

/-- Every request leaves the log that it adds up to. -/
theorem serve_records (env : Environment V P) {svc : Service V P} (call : ApiCall V)
    (sound : svc.Sound) (records : Records svc.store tenantID log) :
    Records (env.serve svc call).2.store tenantID
      (extendLog env tenantID log (call, (env.serve svc call).1)) := by
  obtain ⟨failure, ran, -⟩ | ⟨answer, after, ran, accepted⟩ := serve_cases env call sound
  · rw [ran]
    exact records
  · rw [ran]
    -- A change of another kind logs nothing.
    have nothing : call.writes env = none ∧ call.request.deletes = none →
        extendLog env tenantID log (call, .ok answer) = log := by
      rintro ⟨writes, deletes⟩
      simp only [extendLog, writes, deletes]
    cases accepted with
    | read reads =>
      obtain ⟨writes, deletes, -, -⟩ := asks_nothing env reads
      rw [nothing ⟨writes, deletes⟩]
      exact records
    | created asked =>
      rw [nothing ⟨by simp [ApiCall.writes, asked], by simp [ApiRequest.deletes, asked]⟩]
      exact records.created
    | moved asked =>
      rw [nothing (logs_nothing_of_moves asked)]
      exact records.of_same rfl rfl rfl
    | @wrote owner tuples asked writable done =>
      simp only [extendLog, asked]
      split
      · rename_i same
        subst same
        obtain ⟨t, stored⟩ := stored_of_writable writable
        exact records.wrote (sound.opened _ t stored) done
      · rename_i apart
        exact records.foreign (writeTuplesLocked_foreign (Ne.symm apart) tuples call.clock)
    | @deleted owner tuple t asked writable found =>
      simp only [extendLog, writes_of_deletes asked, asked]
      split
      · rename_i same
        subst same
        exact records.deleted found
      · rename_i apart
        have other := Ne.symm apart
        exact records.of_same (AList.lookup_insert_ne other) (AList.lookup_insert_ne other)
          (AList.lookup_insert_ne other)
    | set asked writable done =>
      rw [nothing (logs_nothing_of_sets asked)]
      obtain ⟨-, tuples, changelog, counter, -⟩ := setAttributes_frame writable done
      exact records.of_same (by rw [tuples]) (by rw [changelog]) (by rw [counter])
    | loaded asked =>
      rw [nothing ⟨by simp [ApiCall.writes, asked], by simp [ApiRequest.deletes, asked]⟩]
      exact records

/-- A service that was just started has logged nothing. -/
theorem Records.new (cfg : Config) (tenantID : String) :
    Records (Service.new cfg : Service V P).store tenantID [] :=
  ⟨rfl, rfl, FoldOf.empty, fun _ => rfl⟩

/--
The changelog of a tenant, and its tuples, are made of the writes and deletions that were accepted.

The log has one entry for each tuple of an accepted write, and one for each accepted deletion, in the
order of the requests and under consecutive numbers. The tuples are what the log replays to.
-/
theorem log_of_requests (env : Environment V P) (cfg : Config) (calls : List (ApiCall V))
    (tenantID : String) :
    let store := (env.machine.final (Service.new cfg) calls).store
    let log := (env.machine.trace (Service.new cfg) calls).foldl (extendLog env tenantID) []
    store.changelogOf tenantID = log ∧ store.seqOf tenantID = .ofNat log.length ∧
      FoldOf (store.tuplesOf tenantID) log := by
  -- The invariant relates a service to the log its requests have added up to.
  have both := @Machine.history_invariant _ _ _ env.machine _
    (fun svc log => svc.Sound ∧ Records svc.store tenantID log) (extendLog env tenantID)
    (fun svc log call held => ⟨serve_sound env svc call held.1, serve_records env call held.1 held.2⟩)
    _ _ ⟨.new cfg, .new cfg tenantID⟩ calls
  exact ⟨both.2.logged, both.2.counter, both.2.fold⟩

end ZanGuard.Api
