import ZanGuard.Proofs.Storage.Frozen
import ZanGuard.Proofs.Storage.Numbered
import ZanGuard.Proofs.Storage.Replay

/-! The sequence numbers a tenant is given over a whole run, and what a purge does to them. -/

namespace ZanGuard

open Memory

variable {V P : Type}

/-! ### What a command does to a log -/

/-- The number of changelog entries a command adds at most. -/
def Command.entries : Command V P → Nat
  | .op (.writeTuple _ _ _) | .op (.deleteTuple _ _ _) | .op (.appendChangelog _ _ _) => 1
  | .op (.writeTuples _ tuples _) => tuples.length
  | _ => 0

/-- The command purges a tenant. -/
def Command.Purges (tenantID : String) : Command V P → Prop
  | .op (.purgeTenantData ctx) => ctx.map (·.tenantID) = some tenantID
  | _ => False

instance (tenantID : String) : (command : Command V P) → Decidable (command.Purges tenantID)
  | .op op => by
    cases op with
    | purgeTenantData ctx => exact inferInstanceAs (Decidable (_ = _))
    | _ => exact .isFalse id
  | .create _ _ _ _ | .activate _ _ | .suspend _ _ | .delete _ _ | .listTenants _
  | .checkDirectCrossTenant _ _ _ _ _ _ _ | .exportTenantSnapshot _ _ _ => .isFalse id

/-- A tenant without a record has no data. -/
def Memory.Store.Idle (s : Store V) (tenantID : String) : Prop :=
  s.tenants.lookup tenantID = none → s.dataOf tenantID = .empty

/-- What a command that does not purge a tenant does to the store of the tenant. -/
inductive Turn (tenantID : String) (count : Nat) (s after : Store V) : Prop
  /-- The data stay, and so does the record where there is one. -/
  | kept (data : after.dataOf tenantID = s.dataOf tenantID)
      (recorded : after.tenants.lookup tenantID = none → s.tenants.lookup tenantID = none)
  /-- The tenant gets its record, and empty buckets unless it has some. -/
  | opened (absent : s.tenants.lookup tenantID = none)
      (present : ∃ t, after.tenants.lookup tenantID = some t)
      (data : after.dataOf tenantID = s.dataOf tenantID ∨ after.dataOf tenantID = .empty)
  /-- The tenant has a record, and something is written for it. -/
  | written (present : ∃ t, s.tenants.lookup tenantID = some t)
      (logged : Logged tenantID count s after)

namespace Turn

variable {tenantID : String} {count : Nat} {s after : Store V}

/-- Equal data hold the same log and the same counter. -/
theorem grows_of_data (same : after.dataOf tenantID = s.dataOf tenantID) :
    LogGrows tenantID count s after :=
  .same count (congrArg TenantData.changelog same) (congrArg TenantData.sequence same)

/-- The log of an idle store only grows. -/
theorem grows (turn : Turn tenantID count s after) (idle : s.Idle tenantID) :
    LogGrows tenantID count s after := by
  cases turn with
  -- Where the data stay, so does the log.
  | kept data _ => exact grows_of_data data
  | opened absent _ data =>
    -- There was nothing before the record, so empty buckets are the same ones.
    have nothing := idle absent
    obtain same | empty := data
    · exact grows_of_data same
    · exact grows_of_data (empty.trans nothing.symm)
  -- A write adds to the log at its end.
  | written _ logged => exact logged.toLogGrows

/-- A tenant without a record still has no data. -/
theorem idle (turn : Turn tenantID count s after) (idle : s.Idle tenantID) :
    after.Idle tenantID := by
  -- Only a write adds to the log, and it needs the record to be there.
  intro absent
  cases turn with
  | kept data recorded => rw [data, idle (recorded absent)]
  -- The record is there afterwards, so it is not missing.
  | opened _ present _ =>
    obtain ⟨t, there⟩ := present
    rw [there] at absent
    cases absent
  -- The record was there before, and a write keeps it.
  | written present logged =>
    obtain ⟨t, there⟩ := present
    rw [logged.tenants, there] at absent
    cases absent

end Turn

section Step

variable {tenantID : String} {count : Nat} {s : Store V}

/-- Creating a tenant opens the buckets of that tenant, if anything. -/
theorem createTenant_turn (s : Store V) (tenant : Tenant V) (clock : Clock) :
    Turn tenantID count s (s.createTenant tenant clock).2 := by
  unfold Store.createTenant
  split
  · -- A tenant that exists is not created again.
    exact .kept rfl id
  · rename_i absent
    by_cases mine : tenantID = tenant.id
    · subst mine
      simp only [Store.initTenant]
      split
      · -- Buckets that are there already are kept.
        exact .opened absent ⟨_, AList.lookup_insert _⟩ (.inl rfl)
      · -- New buckets are empty.
        refine .opened absent ⟨_, AList.lookup_insert _⟩ (.inr ?_)
        simp [Store.dataOf, Store.tuplesOf, Store.changelogOf, Store.seqOf, TenantData.empty]
    · -- The record and the buckets are those of another tenant.
      have slice : ({ s with tenants := s.tenants.insert tenant.id { tenant with
            createdAt := if isZeroTime tenant.createdAt then clock 0 else tenant.createdAt
            updatedAt := clock 0 } }.initTenant tenant.id).slice tenantID = s.slice tenantID := by
        rw [initTenant_foreign mine]
        simp [Store.slice, AList.lookup_insert_ne mine]
      refine .kept (dataOf_of_slice slice) fun absent => ?_
      exact (slice_eq_iff.mp slice).1 ▸ absent

/-- Replacing a record keeps the data and the record. -/
theorem updateTenant_turn (s : Store V) (tenant : Tenant V) (clock : Clock) :
    Turn tenantID count s (s.updateTenant tenant clock).2 := by
  refine .kept (updateTenant_data s tenant clock) fun absent => ?_
  unfold Store.updateTenant at absent
  split at absent
  · -- A record that is not there is not replaced.
    exact absent
  · -- A record that is replaced is not missing afterwards.
    by_cases mine : tenantID = tenant.id
    · subst mine
      rw [AList.lookup_insert] at absent
      cases absent
    · rwa [AList.lookup_insert_ne mine] at absent

/-- A write for a tenant without a record is refused. -/
theorem writing_absent {ctx : Context V} (owned : ctx.map (·.tenantID) = some tenantID)
    (absent : s.tenants.lookup tenantID = none) (body : String → Except Err Unit × Store V) :
    (s.writing ctx body).2 = s := by
  -- The guard of a write looks for the record before anything else.
  cases ctx with
  | none => rfl
  | some tc =>
    obtain rfl : tc.tenantID = tenantID := by simpa using owned
    simp only [Store.writing, tenantIDFromCtx, Store.checkTenantWritable, absent]

/-- A write for the tenant of its context is logged where the tenant has a record. -/
theorem writing_turn {ctx : Context V} (owned : ctx.map (·.tenantID) = some tenantID)
    {body : String → Except Err Unit × Store V}
    (logged : Logged tenantID count s (s.writing ctx body).2) :
    Turn tenantID count s (s.writing ctx body).2 := by
  -- Whether the tenant has a record decides whether the body runs.
  cases record : s.tenants.lookup tenantID with
  -- Without a record the body does not run.
  | none =>
    rw [writing_absent owned record body]
    exact .kept rfl id
  | some t => exact .written ⟨t, record⟩ logged

/-- An operation that is no purge of the tenant turns its store. -/
theorem step_turn (lang : ExprLang V P) (sys : System V P) {op : Op V P}
    (unpurged : ¬ (Command.op op).Purges tenantID) :
    Turn tenantID (Command.op op).entries sys.store (sys.step lang op).2.store := by
  by_cases owned : op.owner = some tenantID
  · cases op with
    | createTenant tenant clock => exact createTenant_turn _ tenant clock
    | updateTenant tenant clock => exact updateTenant_turn _ tenant clock
    -- Each write goes through the guard of its tenant.
    | writeTuple ctx tuple clock =>
      exact writing_turn owned (.writing fun owner => .writeTuplesLocked _ owner [tuple] clock)
    | writeTuples ctx tuples clock =>
      exact writing_turn owned (.writing fun owner => .writeTuplesLocked _ owner tuples clock)
    | deleteTuple ctx tuple clock =>
      exact writing_turn owned (deleteTuple_logged _ ctx tuple clock)
    | setObjectAttributes ctx objectType objectID attrs =>
      refine writing_turn owned (.writing fun owner => ?_)
      -- Attributes are not logged.
      split
      · exact .refl _
      · exact ⟨.same _ rfl rfl, rfl⟩
    | setSubjectAttributes ctx subjectType subjectID attrs =>
      refine writing_turn owned (.writing fun owner => ?_)
      -- Attributes are not logged.
      split
      · exact .refl _
      · exact ⟨.same _ rfl rfl, rfl⟩
    | appendChangelog ctx entry clock =>
      exact writing_turn owned (appendChangelog_logged _ ctx entry clock)
    -- The purge of the tenant is left out by assumption.
    | purgeTenantData ctx => exact absurd owned unpurged
    | _ => exact .kept rfl id
  · -- An operation of another tenant does not reach this one.
    have slice := (step_foreign sys lang owned).slice
    exact .kept (dataOf_of_slice slice) fun absent => (slice_eq_iff.mp slice).1 ▸ absent

/-- A lifecycle call replaces a record, if anything. -/
theorem transition_turn (s : Store V) (clock : Clock) (check : TenantStatus → Except Err Unit)
    (status : TenantStatus) (id : String) :
    Turn tenantID count s ((Manager.transition (tupleStore clock) check status id).run.run s).2 := by
  -- The manager may stop before it calls the store.
  rw [transition_run]
  split
  · exact .kept rfl fun absent => absent
  · split
    · exact .kept rfl fun absent => absent
    · exact updateTenant_turn s _ clock

/-- A command that is no purge of the tenant turns its store. -/
theorem obey_turn (lang : ExprLang V P) (sys : System V P) {command : Command V P}
    (unpurged : ¬ command.Purges tenantID) :
    Turn tenantID command.entries sys.store (sys.obey lang command).2.store := by
  cases command with
  | create id displayName mode clock =>
    -- A refused name stores nothing; otherwise the store creates the tenant.
    obtain same | ⟨tenant, same⟩ := create_run sys.store (fun n => clock (n + 1)) id displayName mode
      (clock 0)
    · simp only [System.obey, System.manage, same]
      exact .kept rfl fun absent => absent
    · simp only [System.obey, System.manage, same]
      exact createTenant_turn _ tenant _
  | activate id clock => exact transition_turn _ clock _ _ id
  | suspend id clock => exact transition_turn _ clock _ _ id
  | delete id clock => exact transition_turn _ clock _ _ id
  | op op => exact step_turn lang sys unpurged
  -- The other calls only read.
  | listTenants filter => exact .kept rfl id
  | checkDirectCrossTenant targetTenantID objectType objectID relation subjectType subjectID clock =>
    exact .kept rfl id
  | exportTenantSnapshot encode ctx clock => exact .kept rfl id

/-- A purge of a tenant leaves it without data, and does not touch its record. -/
theorem obey_purge (lang : ExprLang V P) (sys : System V P) {command : Command V P}
    (purges : command.Purges tenantID) :
    (sys.obey lang command).2.store.dataOf tenantID = .empty := by
  -- Of all commands one purges, and it names the tenant.
  cases command with
  | op op =>
    cases op with
    | purgeTenantData ctx =>
      obtain ⟨tc, rfl, rfl⟩ := Option.map_eq_some_iff.mp purges
      exact purgeTenantData_data sys.store tc
    | _ => cases purges
  | _ => cases purges

/-- A tenant without a record has no data, whatever is commanded. -/
theorem obey_idle (lang : ExprLang V P) {sys : System V P} (idle : sys.store.Idle tenantID)
    (command : Command V P) : (sys.obey lang command).2.store.Idle tenantID := by
  -- After a purge nothing is left, and any other command is a turn.
  by_cases purges : command.Purges tenantID
  · exact fun _ => obey_purge lang sys purges
  · exact (obey_turn lang sys purges).idle idle

end Step

/-! ### The numbers of a run -/

/-- The entries a tenant's log has gained: those beyond the ones it had. -/
def added (tenantID : String) (s after : Store V) : List (ChangelogEntry V) :=
  (after.changelogOf tenantID).drop (s.changelogOf tenantID).length

/-- The sequence numbers a tenant's entries are given over a run, in the order of the entries. -/
def assigned (lang : ExprLang V P) (tenantID : String) :
    System V P → List (Command V P) → List UInt64
  | _, [] => []
  | sys, command :: rest =>
    let after := (sys.obey lang command).2
    (added tenantID sys.store after.store).map (·.sequence) ++ assigned lang tenantID after rest

/-- The command does not purge a tenant that was given a number, and the counter has room for it. -/
def KeepsCounting (tenantID : String) (sys : System V P) (command : Command V P) : Prop :=
  (command.Purges tenantID → sys.store.seqOf tenantID = 0) ∧
    (sys.store.changelogOf tenantID).length + command.entries < 2 ^ 64

instance (tenantID : String) (sys : System V P) (command : Command V P) :
    Decidable (KeepsCounting tenantID sys command) :=
  inferInstanceAs (Decidable (_ ∧ _))

section Run

variable {tenantID : String} (lang : ExprLang V P) {sys : System V P}

/-- A command that keeps counting adds to the log at its end. -/
theorem obey_grows (idle : sys.store.Idle tenantID) (numbered : sys.store.Numbered tenantID)
    {command : Command V P} (counting : KeepsCounting tenantID sys command) :
    LogGrows tenantID command.entries sys.store (sys.obey lang command).2.store := by
  by_cases purges : command.Purges tenantID
  · -- No number was given yet, so the purge has nothing to take away.
    have unused := counting.1 purges
    have short := numbered.counter
    rw [unused] at short
    have empty : sys.store.changelogOf tenantID = [] := List.length_eq_zero_iff.mp short.symm
    have purged := obey_purge lang sys purges
    refine .same _ ?_ ?_
    · exact (congrArg TenantData.changelog purged).trans empty.symm
    · exact (congrArg TenantData.sequence purged).trans unused.symm
  · -- Any other command adds to the log at its end, or leaves it.
    exact (obey_turn lang sys purges).grows idle

/-- Along a run that keeps counting, the log holds every number that was given, in order. -/
theorem assigned_eq (idle : sys.store.Idle tenantID) (numbered : sys.store.Numbered tenantID)
    {commands : List (Command V P)}
    (counting : (deployment lang).Along (KeepsCounting tenantID) sys commands) :
    let final := (deployment lang).final sys commands
    final.store.Numbered tenantID ∧
      (sys.store.changelogOf tenantID).map (·.sequence) ++ assigned lang tenantID sys commands =
        (final.store.changelogOf tenantID).map (·.sequence) := by
  -- The induction is on the run, from whatever state it has reached.
  induction commands generalizing sys with
  | nil => exact ⟨numbered, List.append_nil _⟩
  | cons command rest ih =>
    obtain ⟨now, later⟩ := counting
    -- The command itself grows the log, within the room its counter has.
    have grown := obey_grows lang idle numbered now
    have few := grown.few
    have room := now.2
    have next := grown.numbered numbered (by omega)
    obtain ⟨final, gathered⟩ := ih (obey_idle lang idle command) next later
    refine ⟨final, ?_⟩
    -- What the command has added stands between the log before it and what comes later.
    obtain ⟨new, longer⟩ := grown.grows
    have gained : added tenantID sys.store (sys.obey lang command).2.store = new := by
      rw [added, ← longer, List.drop_left]
    calc (sys.store.changelogOf tenantID).map (·.sequence) ++
          assigned lang tenantID sys (command :: rest)
        = (sys.store.changelogOf tenantID ++ new).map (·.sequence) ++
            assigned lang tenantID (sys.obey lang command).2 rest := by
          rw [assigned, gained, List.map_append, List.append_assoc]
      _ = _ := by
          rw [longer]
          exact gathered

end Run

/-- Entries that are numbered from one have increasing sequence numbers. -/
theorem Memory.Store.Numbered.increasing {s : Store V} {tenantID : String}
    (numbered : s.Numbered tenantID) :
    ((s.changelogOf tenantID).map (·.sequence)).Pairwise (· < ·) := by
  -- The numbers as naturals are a range, and the order of words is theirs.
  have order : ((s.changelogOf tenantID).map (·.sequence.toNat)).Pairwise (· < ·) := by
    rw [numbered.entries]
    exact List.pairwise_lt_range'
  rw [List.pairwise_map] at order ⊢
  exact order.imp fun smaller => UInt64.lt_iff_toNat_lt.mpr smaller

/--
The sequence numbers of a tenant increase over a whole run in which it keeps counting.

No command purges the tenant once it was given a number, and its counter never wraps around.
-/
theorem sequences_increase (lang : ExprLang V P) (cfg : Config) (commands : List (Command V P))
    (tenantID : String)
    (counting : (deployment lang).Along (KeepsCounting tenantID) (System.new cfg) commands) :
    (assigned lang tenantID (System.new cfg) commands).Pairwise (· < ·) := by
  have numbered : (System.new cfg : System V P).store.Numbered tenantID := .of_empty rfl rfl
  obtain ⟨final, gathered⟩ := assigned_eq lang (fun _ => rfl) numbered counting
  -- The log was empty at first, so it ends with exactly the numbers of the run.
  rw [show assigned lang tenantID (System.new cfg) commands = _ from gathered]
  exact final.increasing

/-- A run without a purge gives the numbers from one to four. -/
theorem sequences_increase_regrantRun :
    (assigned literalLang "acme" (System.new defaultConfig)
      (regrantRun.map Command.op)).Pairwise (· < ·) :=
  sequences_increase literalLang defaultConfig _ "acme" (by decide +kernel)

/-- A tenant writes a tuple, purges its data and writes the tuple again. -/
def purgedRun : List (Command Bool Bool) :=
  [.op (.createTenant acme.tenant fun _ => 1),
   .op (.writeTuple (some acme) (fact "folder" "a" "viewer" "user" "u") fun _ => 2),
   .op (.purgeTenantData (some acme)),
   .op (.writeTuple (some acme) (fact "folder" "a" "viewer" "user" "u") fun _ => 3)]

/-- The purge starts the counter again, and the number one is given twice. -/
theorem purge_repeats_sequence :
    ¬ ∀ tenantID, (assigned literalLang tenantID (System.new defaultConfig) purgedRun).Pairwise
      (· < ·) := by
  -- The run can be computed: the number one comes twice.
  intro increasing
  have repeated : assigned literalLang "acme" (System.new defaultConfig) purgedRun = [1, 1] := by
    decide +kernel
  have apart := increasing "acme"
  rw [repeated] at apart
  revert apart
  decide

end ZanGuard
