import ZanGuard.Lib.Fallible
import ZanGuard.Proofs.Storage.Isolation
import ZanGuard.Storage.Deployment

/-! What a tenant that is not active keeps: every operation but the purge leaves its data alone. -/

namespace ZanGuard

variable {V P : Type}

namespace Memory

/-- What a store holds for a tenant besides its record; a missing bucket holds nothing. -/
structure TenantData (V : Type) where
  tuples : List (RelationTuple V)
  objAttrs : StringMap (AnyMap V)
  subAttrs : StringMap (AnyMap V)
  changelog : List (ChangelogEntry V)
  sequence : UInt64
  deriving DecidableEq

/-- A tenant nobody has written for, or one that was purged. -/
def TenantData.empty : TenantData V :=
  { tuples := [], objAttrs := ∅, subAttrs := ∅, changelog := [], sequence := 0 }

/-- The data of a tenant. -/
def Store.dataOf (s : Store V) (tenantID : String) : TenantData V where
  tuples := s.tuplesOf tenantID
  objAttrs := (s.objAttrs.lookup tenantID).getD ∅
  subAttrs := (s.subAttrs.lookup tenantID).getD ∅
  changelog := s.changelogOf tenantID
  sequence := s.seqOf tenantID

/-- The tenant is stored as pending, suspended or deleted. -/
def Store.Frozen (s : Store V) (tenantID : String) : Prop :=
  s.statusOf tenantID = some .pending ∨ s.statusOf tenantID = some .suspended ∨
    s.statusOf tenantID = some .deleted

instance (s : Store V) (tenantID : String) : Decidable (s.Frozen tenantID) :=
  inferInstanceAs (Decidable (_ ∨ _ ∨ _))

/-- The store with the record of a tenant set to active, and everything else as it is. -/
def Store.activated (s : Store V) (tenantID : String) : Store V :=
  match s.tenants.lookup tenantID with
  | none => s
  | some t => { s with tenants := s.tenants.insert tenantID { t with status := .active } }

variable {s : Store V} {mine : String}

/-- A frozen tenant has a record. -/
theorem Store.Frozen.stored (frozen : s.Frozen mine) : ∃ t, s.tenants.lookup mine = some t := by
  cases found : s.tenants.lookup mine with
  | none => simp [Store.Frozen, Store.statusOf, found] at frozen
  | some t => exact ⟨t, rfl⟩

/-- Equal slices hold equal data. -/
theorem dataOf_of_slice {s t : Store V} (same : s.slice mine = t.slice mine) :
    s.dataOf mine = t.dataOf mine := by
  obtain ⟨-, tuples, objAttrs, subAttrs, changelog, sequence⟩ := slice_eq_iff.mp same
  simp only [Store.dataOf, Store.tuplesOf, Store.changelogOf, Store.seqOf, tuples, objAttrs,
    subAttrs, changelog, sequence]

/-- Activating the record leaves the data alone. -/
theorem dataOf_activated (s : Store V) (mine : String) :
    (s.activated mine).dataOf mine = s.dataOf mine := by
  unfold Store.activated
  split <;> rfl

/-- The activated store still has a record of the tenant. -/
theorem activated_stored {t : Tenant V} (stored : s.tenants.lookup mine = some t) :
    ∃ u, (s.activated mine).tenants.lookup mine = some u := by
  simp [Store.activated, stored]

/-- The guard of a write refuses a frozen tenant. -/
theorem Store.Frozen.not_writable (frozen : s.Frozen mine) :
    ∃ e, s.checkTenantWritable mine = .error e := by
  -- The three statuses are exactly those the guard has an error for.
  obtain ⟨t, stored⟩ := frozen.stored
  simp only [Store.Frozen, Store.statusOf, stored, Option.map_some, Option.some.injEq] at frozen
  simp only [Store.checkTenantWritable, stored]
  obtain status | status | status := frozen
  · simp [status]
  · simp [status]
  · simp [status]

/-- A write for a frozen tenant fails and changes nothing. -/
theorem Store.Frozen.writing_refused (frozen : s.Frozen mine) {ctx : Context V}
    (owned : ctx.map (·.tenantID) = some mine) (body : String → Except Err Unit × Store V) :
    ∃ e, s.writing ctx body = (.error e, s) := by
  -- A frozen tenant is not active, so the check refuses the write.
  obtain ⟨e, refused⟩ := frozen.not_writable
  cases ctx with
  | none => cases owned
  | some tc =>
    obtain rfl : tc.tenantID = mine := by simpa using owned
    refine ⟨e, ?_⟩
    simp only [Store.writing, tenantIDFromCtx, refused]

/-- Creating a tenant leaves the data of one that is stored already. -/
theorem createTenant_data {t : Tenant V} (stored : s.tenants.lookup mine = some t)
    (tenant : Tenant V) (clock : Clock) :
    (s.createTenant tenant clock).2.dataOf mine = s.dataOf mine := by
  unfold Store.createTenant
  split
  · rfl
  · rename_i absent
    -- The new tenant is another one, since this one has a record.
    have apart : mine ≠ tenant.id := by
      rintro rfl
      rw [stored] at absent
      cases absent
    refine dataOf_of_slice ?_
    rw [initTenant_foreign apart]
    simp [Store.slice, AList.lookup_insert_ne apart]

/-- Replacing a tenant record leaves all data alone. -/
theorem updateTenant_data (s : Store V) (tenant : Tenant V) (clock : Clock) :
    (s.updateTenant tenant clock).2.dataOf mine = s.dataOf mine := by
  unfold Store.updateTenant
  split <;> rfl

/-- A purge leaves nothing. -/
theorem purgeTenantData_data (s : Store V) (tc : TenantContext V) :
    (s.purgeTenantData (some tc)).2.dataOf tc.tenantID = .empty := by
  simp [Store.purgeTenantData, tenantIDFromCtx, Store.dataOf, Store.tuplesOf, Store.changelogOf,
    Store.seqOf, TenantData.empty]

end Memory

open Memory

/-- The context of an operation that checks the tenant to be writable before it changes data. -/
def Op.guard : Op V P → Option (Context V)
  | .writeTuple ctx _ _ | .writeTuples ctx _ _ | .deleteTuple ctx _ _
  | .setObjectAttributes ctx _ _ _ | .setSubjectAttributes ctx _ _ _
  | .appendChangelog ctx _ _ => some ctx
  | _ => none

/-- The context of a purge. -/
def Op.purge : Op V P → Option (Context V)
  | .purgeTenantData ctx => some ctx
  | _ => none

section Step

variable {sys : System V P} {mine : String} (lang : ExprLang V P)

/-- A guarded operation of a frozen tenant fails and leaves the store as it is. -/
theorem step_guarded (frozen : sys.store.Frozen mine) {op : Op V P} {ctx : Context V}
    (guarded : op.guard = some ctx) (owned : ctx.map (·.tenantID) = some mine) :
    (sys.step lang op).1.failed = true ∧ (sys.step lang op).2.store = sys.store := by
  -- All six go through the same frame.
  have refused : ∀ body : String → Except Err Unit × Store V,
      (sys.mutate (sys.store.writing ctx body)).1.failed = true ∧
        (sys.mutate (sys.store.writing ctx body)).2.store = sys.store := by
    intro body
    obtain ⟨e, fails⟩ := frozen.writing_refused owned body
    rw [fails]
    exact ⟨rfl, rfl⟩
  cases op with
  | writeTuple own tuple clock =>
    obtain rfl := Option.some.inj guarded
    exact refused _
  | writeTuples own tuples clock =>
    obtain rfl := Option.some.inj guarded
    exact refused _
  | deleteTuple own tuple clock =>
    obtain rfl := Option.some.inj guarded
    exact refused _
  | setObjectAttributes own objectType objectID attrs =>
    obtain rfl := Option.some.inj guarded
    exact refused _
  | setSubjectAttributes own subjectType subjectID attrs =>
    obtain rfl := Option.some.inj guarded
    exact refused _
  | appendChangelog own entry clock =>
    obtain rfl := Option.some.inj guarded
    exact refused _
  | _ => cases guarded

/-- Any other operation but the purge leaves the data of a stored tenant alone. -/
theorem step_unguarded {t : Tenant V} (stored : sys.store.tenants.lookup mine = some t)
    {op : Op V P} (unguarded : op.guard = none) (purges : op.purge = none) :
    (sys.step lang op).2.store.dataOf mine = sys.store.dataOf mine := by
  -- Two of these operations change tenant records, and the rest of them read.
  cases op with
  | createTenant tenant clock => exact createTenant_data stored tenant clock
  | updateTenant tenant clock => exact updateTenant_data _ tenant clock
  | purgeTenantData ctx => cases purges
  | writeTuple _ _ _ | writeTuples _ _ _ | deleteTuple _ _ _ => cases unguarded
  | setObjectAttributes _ _ _ _ | setSubjectAttributes _ _ _ _ => cases unguarded
  | appendChangelog _ _ _ => cases unguarded
  | _ => rfl

/-- An operation of another tenant leaves a tenant's data alone. -/
theorem step_foreign_data {op : Op V P} (foreign : op.owner ≠ some mine) :
    (sys.step lang op).2.store.dataOf mine = sys.store.dataOf mine :=
  dataOf_of_slice (step_foreign sys lang foreign).slice

end Step

/-- The deployment with the record of a tenant set to active. -/
def System.activated (sys : System V P) (tenantID : String) : System V P :=
  { sys with store := sys.store.activated tenantID }

/--
A command leaves the data of every frozen tenant alone.

Had the tenant been active and the data changed, the command returns an error.
-/
def System.KeepsFrozen (lang : ExprLang V P) (sys : System V P) (command : Command V P) : Prop :=
  ∀ tenantID, sys.store.Frozen tenantID →
    (sys.obey lang command).2.store.dataOf tenantID = sys.store.dataOf tenantID ∧
      (((sys.activated tenantID).obey lang command).2.store.dataOf tenantID ≠
          sys.store.dataOf tenantID →
        (sys.obey lang command).1.failed = true)

/-- A purge of a frozen tenant finds nothing to purge. -/
def System.PurgesNothingFrozen (sys : System V P) (command : Command V P) : Prop :=
  ∀ tc, command = .op (.purgeTenantData (some tc)) → sys.store.Frozen tc.tenantID →
    sys.store.dataOf tc.tenantID = .empty

section Obey

variable {sys : System V P} {mine : String} (lang : ExprLang V P)

/-- A lifecycle call reads the record, checks it, and replaces it. -/
theorem transition_run (s : Store V) (clock : Clock) (check : TenantStatus → Except Err Unit)
    (status : TenantStatus) (tenantID : String) :
    (Manager.transition (tupleStore clock) check status tenantID).run.run s =
      match s.getTenant tenantID with
      | .error e => (.error e, s)
      | .ok t =>
        match check t.status with
        | .error e => (.error e, s)
        | .ok () => s.updateTenant { t with status } clock := by
  -- The record is read, checked and stored again, one step after the other.
  have read : ((tupleStore clock).getTenant tenantID).run.run s = (s.getTenant tenantID, s) := rfl
  unfold Manager.transition
  rw [ExceptT.run_state_bind, read]
  cases s.getTenant tenantID with
  | error e => rfl
  | ok t =>
    have checked : (ExceptT.mk (pure (check t.status)) :
        ExceptT Err (StateM (Store V)) Unit).run.run s = (check t.status, s) := rfl
    simp only
    rw [ExceptT.run_state_bind, checked]
    cases check t.status <;> rfl

/-- So it leaves all data alone. -/
theorem transition_data (s : Store V) (clock : Clock) (check : TenantStatus → Except Err Unit)
    (status : TenantStatus) (tenantID : String) :
    ((Manager.transition (tupleStore clock) check status tenantID).run.run s).2.dataOf mine =
      s.dataOf mine := by
  -- Only its last step changes the store, and that one replaces the record.
  rw [transition_run]
  split
  · rfl
  · split
    · rfl
    · exact updateTenant_data s _ clock

/-- Creating a tenant through the manager is creating it in the store, unless its ID is refused. -/
theorem create_run (s : Store V) (clock : Clock) (id displayName : String) (mode : SchemaMode)
    (now : Time) :
    ((Manager.create (tupleStore clock) id displayName mode now).run.run s).2 = s ∨
      ∃ tenant, ((Manager.create (tupleStore clock) id displayName mode now).run.run s).2 =
        (s.createTenant tenant clock).2 := by
  have validated : (ExceptT.mk (pure (validateTenantID id)) :
      ExceptT Err (StateM (Store V)) Unit).run.run s = (validateTenantID id, s) := rfl
  unfold Manager.create
  rw [ExceptT.run_state_bind, validated]
  cases validateTenantID id with
  | error e => exact .inl rfl
  | ok valid =>
    -- Wrapping the error of the store does not touch the store.
    have adapted : ∀ tenant, (((tupleStore clock).createTenant tenant).adapt Err.createTenant :
        ExceptT Err (StateM (Store V)) Unit).run.run s =
          ((s.createTenant tenant clock).1.mapError .createTenant,
            (s.createTenant tenant clock).2) := fun _ => rfl
    simp only
    rw [ExceptT.run_state_bind, adapted]
    refine .inr ⟨{ id, displayName := if displayName = "" then id else displayName
                   status := .pending, schemaMode := mode, config := defaultTenantConfig
                   createdAt := now }, ?_⟩
    generalize Store.createTenant s _ clock = result
    obtain ⟨outcome, after⟩ := result
    cases outcome with
    | error e => rfl
    | ok _ => rfl

/-- Creating a tenant through the manager leaves the data of one that is stored already. -/
theorem create_data {s : Store V} {t : Tenant V} (stored : s.tenants.lookup mine = some t)
    (clock : Clock) (id displayName : String) (mode : SchemaMode) (now : Time) :
    ((Manager.create (tupleStore clock) id displayName mode now).run.run s).2.dataOf mine =
      s.dataOf mine := by
  obtain same | ⟨tenant, same⟩ := create_run s clock id displayName mode now
  · rw [same]
  · rw [same]
    exact createTenant_data stored tenant clock

/-- A command other than a guarded operation or a purge leaves a stored tenant's data alone. -/
theorem obey_unguarded {t : Tenant V} (stored : sys.store.tenants.lookup mine = some t)
    {command : Command V P}
    (unguarded : ∀ op, command = .op op → op.owner = some mine → op.guard = none ∧ op.purge = none) :
    (sys.obey lang command).2.store.dataOf mine = sys.store.dataOf mine := by
  -- Lifecycle calls change tenant records, an operation was treated above, and the rest read.
  cases command with
  | create id displayName mode clock => exact create_data stored _ id displayName mode _
  | activate tenantID clock => exact transition_data _ clock _ _ tenantID
  | suspend tenantID clock => exact transition_data _ clock _ _ tenantID
  | delete tenantID clock => exact transition_data _ clock _ _ tenantID
  | op op =>
    by_cases owned : op.owner = some mine
    · obtain ⟨guard, purge⟩ := unguarded op rfl owned
      exact step_unguarded lang stored guard purge
    · exact step_foreign_data lang owned
  | listTenants filter => rfl
  | checkDirectCrossTenant targetTenantID objectType objectID relation subjectType subjectID clock =>
    rfl
  | exportTenantSnapshot encode ctx clock => rfl

/-- An operation that is both guarded and owned by a tenant names the tenant in its context. -/
theorem guard_owner {op : Op V P} {ctx : Context V} (guarded : op.guard = some ctx) :
    op.owner = ctx.map (·.tenantID) := by
  cases op <;> cases guarded <;> rfl

/-- A command keeps every frozen tenant exactly when it is not a purge that takes something away. -/
theorem keepsFrozen_iff (sys : System V P) (command : Command V P) :
    sys.KeepsFrozen lang command ↔ sys.PurgesNothingFrozen command := by
  constructor
  · -- A purge that keeps the data must have found none.
    rintro keeps tc rfl frozen
    obtain ⟨kept, -⟩ := keeps tc.tenantID frozen
    rw [← kept]
    exact purgeTenantData_data sys.store tc
  · intro harmless tenantID frozen
    obtain ⟨t, stored⟩ := frozen.stored
    obtain ⟨u, activated⟩ := activated_stored stored
    by_cases guarded : ∃ op ctx, command = .op op ∧ op.owner = some tenantID ∧ op.guard = some ctx
    · -- The guard answers before anything is changed.
      obtain ⟨op, ctx, rfl, owned, guard⟩ := guarded
      obtain ⟨fails, same⟩ := step_guarded lang frozen guard ((guard_owner guard).symm.trans owned)
      refine ⟨?_, fun _ => fails⟩
      show (sys.step lang op).2.store.dataOf tenantID = _
      rw [same]
    by_cases purges : ∃ tc, command = .op (.purgeTenantData (some tc)) ∧ tc.tenantID = tenantID
    · -- A purge is not guarded, but this one has nothing to take away.
      obtain ⟨tc, rfl, rfl⟩ := purges
      have empty := harmless tc rfl frozen
      refine ⟨(purgeTenantData_data sys.store tc).trans empty.symm, fun changes => ?_⟩
      exact absurd ((purgeTenantData_data _ tc).trans empty.symm) changes
    · have unguarded : ∀ op, command = .op op → op.owner = some tenantID →
          op.guard = none ∧ op.purge = none := by
        rintro op rfl owned
        constructor
        · exact Option.eq_none_iff_forall_ne_some.mpr fun ctx guard =>
            guarded ⟨op, ctx, rfl, owned, guard⟩
        · cases op with
          | purgeTenantData ctx =>
            obtain ⟨tc, rfl, same⟩ := Option.map_eq_some_iff.mp owned
            exact absurd ⟨tc, rfl, same⟩ purges
          | _ => rfl
      refine ⟨obey_unguarded lang stored unguarded, fun changes => ?_⟩
      -- Nothing would have changed for an active tenant either.
      refine absurd ?_ changes
      rw [← dataOf_activated sys.store tenantID]
      exact obey_unguarded lang activated unguarded

end Obey

/--
Frozen tenants keep their data all along a run exactly when no purge takes any of it away.

The run may hold every operation of the store, and any number of calls of the manager.
-/
theorem frozen_data_kept_iff (lang : ExprLang V P) (cfg : Config) (commands : List (Command V P)) :
    (∀ early command late, commands = early ++ command :: late →
      ((deployment lang).final (System.new cfg) early).KeepsFrozen lang command) ↔
        (deployment lang).Along System.PurgesNothingFrozen (System.new cfg) commands := by
  -- Both sides speak about one command of the run at a time.
  simp only [Machine.along_iff, keepsFrozen_iff]

/-- A tenant is created, activated, written for and suspended, and then its data is purged. -/
def suspendedPurge : List (Command Bool Bool) :=
  [.create "acme" "" .own fun _ => 1,
   .activate "acme" fun _ => 2,
   .op (.writeTuple (some acme) (fact "folder" "a" "viewer" "user" "u") fun _ => 3),
   .suspend "acme" fun _ => 4,
   .op (.purgeTenantData (some acme))]

/-- The purge of the suspended tenant succeeds, and its tuple is gone. -/
theorem purge_of_suspended :
    ¬ ∀ early command late, suspendedPurge = early ++ command :: late →
      ((deployment literalLang).final (System.new defaultConfig) early).KeepsFrozen literalLang
        command := by
  intro keeps
  -- At the last command the tenant is suspended and holds a tuple.
  have last := (keepsFrozen_iff literalLang _ _).mp
    (keeps (suspendedPurge.take 4) (.op (.purgeTenantData (some acme))) [] rfl)
  have emptied := last acme rfl (by decide +kernel)
  revert emptied
  decide +kernel

end ZanGuard
