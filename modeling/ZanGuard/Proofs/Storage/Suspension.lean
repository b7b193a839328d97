import ZanGuard.Proofs.Storage.Calls
import ZanGuard.Proofs.Storage.Cluster
import ZanGuard.Proofs.Tenant.Lifecycle

/-! Writes that overlap a suspension: when no row is committed for a tenant that is not active. -/

namespace ZanGuard.Postgres

open Transaction

variable {V J ι : Type}

/-! ### Rows of a tenant -/

/-- The tenant of a change. -/
def Change.tenantID : Change J → String
  | .insertTuple row => row.tenantID.text
  | .refresh identity _ _ => identity.tenantID
  | .markDeleted identity _ => identity.tenantID
  | .insertChangelog row => row.tenantID.text

/-- The rows of a tenant in both tables. -/
def Database.rowsOf (db : Database J) (tenantID : String) :
    List (TupleRow J) × List (ChangelogRow J) :=
  (db.tuples.rows.filter (·.tenantID.text = tenantID),
    db.changelog.filter (·.tenantID.text = tenantID))

/-- Changing rows of other tenants leaves the rows of a tenant alone. -/
theorem filter_map_foreign {tenantID : String} {rows : List (TupleRow J)} {identity : Identity}
    {chosen : TupleRow J → Bool} {change : TupleRow J → TupleRow J}
    (foreign : identity.tenantID ≠ tenantID)
    (holds : ∀ row, chosen row = true → row.holds identity = true)
    (owner : ∀ row, (change row).tenantID = row.tenantID) :
    (rows.map fun row => if chosen row then change row else row).filter
        (·.tenantID.text = tenantID) =
      rows.filter (·.tenantID.text = tenantID) := by
  -- A row that is changed belongs to the tenant of the identity, before and afterwards.
  induction rows with
  | nil => rfl
  | cons row rest ih =>
    simp only [List.map_cons, List.filter_cons, ih]
    cases picked : chosen row with
    | false => simp
    | true =>
      have held := holds row picked
      simp only [TupleRow.holds, Bool.and_eq_true, decide_eq_true_eq] at held
      have apart : row.tenantID.text ≠ tenantID := by
        intro same
        exact foreign (by rw [← held.2, ← same]; rfl)
      simp [owner, apart]

/-- A change for another tenant leaves the rows of a tenant alone. -/
theorem apply_foreign {tenantID : String} (db : Database J) {change : Change J}
    (foreign : change.tenantID ≠ tenantID) : (change.apply db).rowsOf tenantID = db.rowsOf tenantID := by
  -- Each kind of change touches rows of its own tenant only.
  cases change with
  | insertTuple row =>
    simp only [Change.apply, TupleTable.insert]
    have apart : row.tenantID.text ≠ tenantID := foreign
    by_cases free : db.tuples.holds row.identity = false
    · simp [free, Database.rowsOf, apart]
    · simp [free]
  | refresh identity now columns =>
    refine Prod.ext (filter_map_foreign foreign ?_ fun _ => rfl) rfl
    intro row picked
    exact (Bool.and_eq_true_iff.mp picked).1
  | markDeleted identity now =>
    exact Prod.ext (filter_map_foreign foreign (fun _ picked => picked) fun _ => rfl) rfl
  | insertChangelog row =>
    have apart : row.tenantID.text ≠ tenantID := foreign
    simp [Change.apply, Database.rowsOf, apart]

/-- A transaction for another tenant shows the committed rows of a tenant. -/
theorem visible_foreign {tenantID : String} {work : OpenWork J} (committed : Database J)
    (foreign : ∀ change ∈ work.changes, change.tenantID ≠ tenantID) :
    (work.visible committed).rowsOf tenantID = committed.rowsOf tenantID := by
  unfold OpenWork.visible
  generalize work.changes = changes at foreign
  -- The induction is on the changes, each of which is for another tenant.
  induction changes generalizing committed with
  | nil => rfl
  | cons change rest ih =>
    rw [List.foldl_cons, ih _ fun later member => foreign later (List.mem_cons_of_mem _ member)]
    exact apply_foreign committed (foreign change List.mem_cons_self)

/-- A statement that writes for a tenant whose name fits makes changes for that tenant only. -/
theorem changes_tenantID {codec : Codec V J} {now : Time} {db : Database J} {tenantID : String}
    (fits : Fits 128 tenantID) {statement : Statement V} (writes : statement.writes = some tenantID) :
    ∀ change ∈ statement.changes codec now db, change.tenantID = tenantID := by
  -- A name that fits is stored as it is, and a comparison uses it as it is.
  intro change made
  have named : ∀ {name : Varchar 128}, Varchar.assign 128 tenantID = .ok name →
      name.text = tenantID := by
    intro name assigned
    obtain ⟨stored, fitting, same⟩ := Varchar.assign_of_fits fits
    rw [assigned] at fitting
    rw [Except.ok.inj fitting, same]
  cases statement with
  | insertTuple owner tuple attrsJSON =>
    obtain rfl := Option.some.inj writes
    simp only [Statement.changes] at made
    split at made
    · rename_i row built
      obtain rfl := List.mem_singleton.mp made
      exact named (TupleRow.build_tenantID built)
    · cases made
  | refreshExpiredTuple owner tuple attrsJSON =>
    obtain rfl := Option.some.inj writes
    simp only [Statement.changes] at made
    split at made
    · split at made
      · obtain rfl := List.mem_singleton.mp made
        rfl
      · cases made
    · cases made
  | insertChangelog owner entry metaJSON =>
    obtain rfl := Option.some.inj writes
    simp only [Statement.changes] at made
    split at made
    · rename_i row built
      obtain rfl := List.mem_singleton.mp made
      exact named (ChangelogRow.build_columns built).1
    · cases made
  | deleteTuple owner tuple =>
    obtain rfl := Option.some.inj writes
    simp only [Statement.changes] at made
    split at made
    · obtain rfl := List.mem_singleton.mp made
      rfl
    · cases made
  | _ => cases writes

/-! ### The status of a tenant -/

/-- Whether a request takes a tenant out of the active status. -/
def withdraws (tenantID : String) : Request (Statement V) → Bool
  | .auto (.updateTenant tenant _) => tenant.id = tenantID && tenant.status ≠ .active
  | _ => false

/-- A row that is built is not soft-deleted. -/
theorem TenantRow.build_kept {codec : Codec V J} {tenant : Tenant V} {configJSON : String}
    {now : Time} {row : TenantRow} (built : TenantRow.build codec tenant configJSON now = .ok row) :
    row.deletedAt = none := by
  -- Seven columns can be refused, and the last field is fixed.
  unfold TenantRow.build at built
  iterate 7 obtain ⟨_, -, built⟩ := Except.of_bind_ok built
  rw [← Except.ok.inj built]

/-- A statement that does not withdraw an active tenant leaves it active. -/
theorem exec_active {codec : Codec V J} {now : Time} {statement : Statement V}
    {db after : Database J} {answer : statement.Answer} {tenantID : String}
    (ran : statement.exec codec now db = .ok (answer, after))
    (calm : withdraws tenantID (.auto statement) = false)
    (active : db.statusOf tenantID = some .active) : after.statusOf tenantID = some .active := by
  cases other : statement.manages with
  | false => simpa only [Database.statusOf, (exec_effect ran).tenants other] using active
  | true =>
    cases statement with
    | insertTenant tenant configJSON created =>
      -- A new row goes where there is none.
      obtain ⟨row, built, free, rfl⟩ := exec_insertTenant ran
      obtain kept | ⟨absent, -⟩ := statusOf_append (TenantRow.build_kept built) free tenantID
      · rw [kept, active]
      · rw [active] at absent
        cases absent
    | updateTenant tenant configJSON =>
      obtain ⟨-, -, ran⟩ := Except.of_bind_ok ran
      obtain ⟨columns, built, ran⟩ := Except.of_bind_ok ran
      obtain rfl := (Prod.mk.inj (Except.ok.inj ran)).2
      obtain kept | ⟨rfl, -, stored⟩ := statusOf_update db columns tenant.id tenantID
      · exact kept.trans active
      · -- The update is for this tenant, so it stores the active status.
        have status : tenant.status = .active := by simpa [withdraws] using calm
        refine stored.trans ?_
        rw [(build_status built (by rw [status]; trivial)).1, status]
    | _ => cases other

/-- A status that is read is the status of a tenant whose name fits its column. -/
theorem fits_of_status {db : Database J} {tenantID : String} {status : TenantStatus}
    (found : db.statusOf tenantID = some status) : Fits 128 tenantID := by
  -- A row was found under the name, and its own name fits.
  obtain ⟨row, stored, -⟩ := Option.map_eq_some_iff.mp found
  have named := List.find?_some stored
  simp only [Bool.and_eq_true, decide_eq_true_eq] at named
  rw [← named.1]
  exact row.id.fits

/-! ### Writes under way -/

/-- Whether a session has a transaction that can still be committed. -/
def Cluster.engaged (g : Cluster ι J) (i : ι) : Bool :=
  match g.work i with
  | none => false
  | some work => !work.failed

variable [DecidableEq ι] {codec : Codec V J} {config : ConfigCodec V}

namespace Cluster.Moves

variable {i j : ι} {choice : Choice} {g after : Cluster ι J} {request : Request (Statement V)}

/-- A request leaves an active tenant active, unless it withdraws it. -/
theorem active {tenantID : String} (moved : g.Moves codec i choice request after)
    (calm : choice.failure = none → withdraws tenantID request = false)
    (active : g.committed.statusOf tenantID = some .active) :
    after.committed.statusOf tenantID = some .active := by
  -- Only a statement on its own can change the tenants.
  cases moved with
  | auto up ran => exact exec_active (exec_of_run ran).1 (calm up) active
  | commit opened sound => simpa only [Database.statusOf, visible_tenants] using active
  | _ => exact active

/-- A request leaves the transactions of other sessions alone. -/
theorem work_of_ne (moved : g.Moves codec i choice request after) (apart : j ≠ i) :
    after.work j = g.work j := by
  -- A request replaces the transaction of its own session only.
  cases moved with
  | keeps => rfl
  | auto up ran => rfl
  | _ => exact Function.update_of_ne apart _ _

/-- What is changed in the transaction of a tenant is changed for that tenant. -/
theorem changesOf {tenantID : String} (moved : g.Moves codec i choice request after)
    (inside : Inside tenantID request) (fits : Fits 128 tenantID)
    (own : ∀ change ∈ g.changesOf i, change.tenantID = tenantID) :
    ∀ change ∈ after.changesOf i, change.tenantID = tenantID := by
  cases moved with
  | keeps => exact own
  | auto up ran => exact own
  | start => exact inside.elim
  | fails opened => simp [Cluster.changesOf, Cluster.setWork]
  | @exec statement work opened sound answer result ran =>
    intro change member
    simp only [Cluster.changesOf, opened, sound] at own
    simp only [Cluster.changesOf, Cluster.setWork, Function.update_self, sound] at member
    -- A change was made before, or by this statement.
    rcases List.mem_append.mp member with earlier | now
    · exact own change earlier
    · exact changes_tenantID fits inside change now
  | ends => simp [Cluster.changesOf, Cluster.setWork]
  | commit opened sound => simp [Cluster.changesOf, Cluster.setWork]

/-- A transaction that can be committed after a statement could be committed before. -/
theorem engaged {tenantID : String} (moved : g.Moves codec i choice request after)
    (inside : Inside tenantID request) (still : after.engaged i = true) : g.engaged i = true := by
  -- A failure and an end both leave nothing to commit.
  cases moved with
  | keeps => exact still
  | auto up ran => exact still
  | start => exact inside.elim
  | fails opened => simp [Cluster.engaged, Cluster.setWork] at still
  | exec opened sound ran => simp [Cluster.engaged, opened, sound]
  | ends => simp [Cluster.engaged, Cluster.setWork] at still
  | commit opened sound => simp [Cluster.engaged, opened, sound]

end Cluster.Moves

variable [Fintype ι]

/-- A status that is read is the committed one. -/
theorem serve_status {i : ι} {choice : Choice} {g after : Cluster ι J} {tenantID : String}
    {status : TenantStatus}
    (served : g.serve codec i choice (.auto (.selectTenantStatus tenantID)) =
      some (.ok (some status), after)) : after = g ∧ g.committed.statusOf tenantID = some status := by
  obtain ⟨-, committed, rfl, ran⟩ := serve_auto served
  obtain ⟨-, -, ran⟩ := Except.of_bind_ok ran
  obtain ⟨read, rfl⟩ := Prod.mk.inj (Except.ok.inj ran)
  exact ⟨rfl, read⟩

/-- A transaction that begins has changed nothing. -/
theorem serve_start {i : ι} {choice : Choice} {g after : Cluster ι J}
    (served : g.serve codec i choice .start = some (.ok (), after)) :
    ∃ began, after = g.setWork i (some { began, changes := [], failed := false }) := by
  simp only [Cluster.serve] at served
  split at served
  · cases served
  · exact ⟨choice.now, (Prod.mk.inj (Option.some.inj served)).2.symm⟩

/-- A write past the status check has a tenant whose name fits, and changes rows of that tenant. -/
def Owned (i : ι) (g : Cluster ι J) (_ : Reader V) (call : Call V)
    (seen : List (Exchange (Statement V) Statement.Answer Err)) (_ : Request (Statement V)) : Prop :=
  ∀ tenantID, call.writes = some tenantID → seen ≠ [] → Fits 128 tenantID ∧
    (2 ≤ seen.length → ∀ change ∈ g.changesOf i, change.tenantID = tenantID)

/-- A write past the status check that can still commit has an active tenant. -/
def Admitted (tenantID : String) (i : ι) (g : Cluster ι J) (_ : Reader V) (call : Call V)
    (seen : List (Exchange (Statement V) Statement.Answer Err)) (_ : Request (Statement V)) : Prop :=
  call.writes = some tenantID → seen ≠ [] → (seen.length = 1 ∨ g.engaged i = true) →
    g.committed.statusOf tenantID = some .active

/-- Every event keeps writes to their own tenants. -/
theorem owned_step {net : Net (sessions codec config)} (owned : net.Each Owned)
    (event : Event ι Choice (Call V)) : (net.step event).Each Owned := by
  refine owned.step event ?_ ?_ ?_
  · intro i call request next _ tenantID _ begun
    exact absurd rfl begun
  · intro i choice r reply shared request next _ waits served reached tenantID writes _
    have moved : net.shared.Moves codec i choice r.request shared := serve_moves served
    have held := owned i r waits tenantID writes
    obtain ⟨call, seen, asked, cont, before⟩ := r
    cases write_phase writes before with
    | check =>
      -- The status was answered, and the tenant is active.
      cases write_phase writes reached
      have read : net.shared.serve codec i choice (.auto (.selectTenantStatus tenantID)) =
        some (.ok (some .active), shared) := served
      obtain ⟨-, found⟩ := serve_status read
      refine ⟨fits_of_status found, fun open_ => ?_⟩
      simp at open_
    | start =>
      -- The transaction has just begun.
      refine ⟨(held (by simp)).1, fun _ => ?_⟩
      cases write_phase writes reached
      have begun : net.shared.serve codec i choice .start = some (.ok (), shared) := served
      obtain ⟨now, rfl⟩ := serve_start begun
      simp [Cluster.changesOf, Cluster.setWork]
    | inside kind =>
      obtain ⟨fits, own⟩ := held (by simp)
      exact ⟨fits, fun _ => moved.changesOf kind fits (own (by simp))⟩
  · intro i choice r reply shared _ waits served j apart held s running tenantID writes begun
    have moved : net.shared.Moves codec i choice r.request shared := serve_moves served
    obtain ⟨fits, own⟩ := held s running tenantID writes begun
    refine ⟨fits, fun open_ => ?_⟩
    simp only [Cluster.changesOf, moved.work_of_ne apart]
    exact own open_

/-- Whether a write of a tenant is past the status check and can still commit. -/
def mayCommit (tenantID : String) (net : Net (sessions codec config (ι := ι))) (i : ι) : Bool :=
  match (net.parties i).running with
  | none => false
  | some r =>
    r.call.writes = some tenantID && !r.seen.isEmpty && (r.seen.length = 1 || net.shared.engaged i)

/--
No update takes a tenant out of the active status between the status check of a write and the end
of its transaction.
-/
def Undisturbed (tenantID : String) (net : Net (sessions codec config (ι := ι))) :
    Event ι Choice (Call V) → Prop
  | .start _ _ => True
  | .step i choice => ∀ r ∈ (net.parties i).running,
      withdraws tenantID r.request = true → choice.failure = none →
        ∀ j, mayCommit tenantID net j = false

omit [DecidableEq ι] [Fintype ι] in
/-- Nothing that is sent in a transaction withdraws a tenant. -/
theorem Inside.calm {tenantID other : String} {request : Request (Statement V)}
    (inside : Inside tenantID request) : withdraws other request = false := by
  cases request with
  | auto statement => exact inside.elim
  | _ => rfl

/-- An event that disturbs no write keeps the tenants of writes active. -/
theorem admitted_step {tenantID : String} {net : Net (sessions codec config (ι := ι))}
    (admitted : net.Each (Admitted tenantID)) {event : Event ι Choice (Call V)}
    (calm : Undisturbed tenantID net event) : (net.step event).Each (Admitted tenantID) := by
  refine admitted.step event ?_ ?_ ?_
  · intro i call request next _ _ begun
    exact absurd rfl begun
  · intro i choice r reply shared request next _ waits served reached writes _ committable
    have moved : net.shared.Moves codec i choice r.request shared := serve_moves served
    have held := admitted i r waits writes
    obtain ⟨call, seen, asked, cont, before⟩ := r
    cases write_phase writes before with
    | check =>
      -- The status that let the write pass is the committed one.
      cases write_phase writes reached
      have read : net.shared.serve codec i choice (.auto (.selectTenantStatus tenantID)) =
        some (.ok (some .active), shared) := served
      obtain ⟨rfl, found⟩ := serve_status read
      exact found
    | start => exact moved.active (fun _ => rfl) (held (by simp) (.inl rfl))
    | inside kind =>
      -- A transaction that can still be committed could be committed before.
      have still : shared.engaged i = true := by simpa using committable
      exact moved.active (fun _ => kind.calm) (held (by simp) (.inr (moved.engaged kind still)))
  · intro i choice r reply shared happened waits served j apart held s running writes begun committable
    have moved : net.shared.Moves codec i choice r.request shared := serve_moves served
    have same : shared.engaged j = net.shared.engaged j := by
      simp only [Cluster.engaged, moved.work_of_ne apart]
    rw [same] at committable
    refine moved.active (fun up => ?_) (held s running writes begun committable)
    -- An update that withdraws the tenant would disturb this write.
    subst happened
    refine Bool.eq_false_iff.mpr fun withdrawn => ?_
    have idle := calm r waits withdrawn up j
    simp only [mayCommit, running, writes, decide_true, Bool.true_and, Bool.and_eq_false_imp,
      Bool.not_eq_true', List.isEmpty_eq_false_iff, Bool.or_eq_false_iff, decide_eq_false_iff_not] at idle
    obtain ⟨not_first, not_open⟩ := idle begun
    rcases committable with first | open_
    · exact not_first first
    · rw [open_] at not_open
      cases not_open

/-! ### Rows are committed while the tenant is active -/

/-- An event that changes the rows of a tenant finds it active. -/
def Guarded (tenantID : String) (net : Net (sessions codec config (ι := ι)))
    (event : Event ι Choice (Call V)) : Prop :=
  (net.step event).shared.committed.rowsOf tenantID ≠ net.shared.committed.rowsOf tenantID →
    net.shared.committed.statusOf tenantID = some .active

/-- A statement on its own that writes nothing leaves all rows as they are. -/
theorem exec_rowsOf {now : Time} {statement : Statement V} {db after : Database J}
    {answer : statement.Answer} (silent : statement.writes = none)
    (ran : statement.exec codec now db = .ok (answer, after)) (tenantID : String) :
    after.rowsOf tenantID = db.rowsOf tenantID := by
  -- Such a statement makes no change at all.
  have made := (exec_effect ran).changes
  have nothing : statement.changes codec now db = [] := by
    cases statement with
    | insertTuple _ _ _ => cases silent
    | refreshExpiredTuple _ _ _ => cases silent
    | insertChangelog _ _ _ => cases silent
    | deleteTuple _ _ => cases silent
    | _ => rfl
  rw [nothing] at made
  rw [made]
  rfl

/-- Writes under way that are in order commit rows of active tenants only. -/
theorem guarded_of_admitted {tenantID : String} {net : Net (sessions codec config (ι := ι))}
    (owned : net.Each Owned) (admitted : net.Each (Admitted tenantID))
    (event : Event ι Choice (Call V)) : Guarded tenantID net event := by
  have moved := net.step_moves event
  unfold Guarded
  generalize net.step event = after at moved ⊢
  intro changed
  cases moved with
  | idle => exact absurd rfl changed
  | start free => exact absurd rfl changed
  | @step i choice r waits reply shared served =>
    have own := owned i r waits
    have held := admitted i r waits
    obtain ⟨call, seen, asked, cont, reached⟩ := r
    have moved : net.shared.Moves codec i choice asked shared := serve_moves served
    cases moved with
    | keeps => exact absurd rfl changed
    | start => exact absurd rfl changed
    | fails opened => exact absurd rfl changed
    | exec opened sound ran => exact absurd rfl changed
    | ends => exact absurd rfl changed
    | @auto statement answer committed up ran =>
      exact absurd (exec_rowsOf (auto_writes reached) (exec_of_run ran).1 tenantID) changed
    | @commit work opened sound =>
      cases writes : call.writes with
      | none => exact (quiet_request writes reached).elim
      | some owner =>
        cases write_phase writes reached with
        | inside kind =>
          have changes : net.shared.changesOf i = work.changes := by
            simp [Cluster.changesOf, opened, sound]
          have mine := (own owner writes (by simp)).2 (by simp)
          rw [changes] at mine
          by_cases same : owner = tenantID
          · -- The transaction is for this tenant, and can be committed.
            subst same
            exact held writes (by simp) (.inr (by simp [Cluster.engaged, opened, sound]))
          · refine absurd (visible_foreign net.shared.committed ?_) changed
            intro change member
            rw [mine change member]
            exact same

/--
Rows of a tenant are committed while it is active, and at no other time.

This holds in every interleaving in which no update takes the tenant out of the active status
between the status check of a write and the end of its transaction.
-/
theorem rows_committed_while_active {tenantID : String} {net : Net (sessions codec config (ι := ι))}
    (quiet : ∀ i, (net.parties i).running = none) {events : List (Event ι Choice (Call V))}
    (along : (sessions codec config).machine.Along (Undisturbed tenantID) net events) :
    (sessions codec config).machine.Along (Guarded tenantID) net events := by
  -- Without calls under way there is nothing to show at the start.
  have nobody : ∀ A, net.Each A := by
    intro A i r waits
    rw [quiet i] at waits
    cases waits
  refine along.imp_invariant (fun current => current.Each Owned ∧ current.Each (Admitted tenantID))
    ?_ ⟨nobody _, nobody _⟩ ?_
  · rintro current event calm ⟨owned, admitted⟩
    exact ⟨owned_step owned event, admitted_step admitted calm⟩
  · rintro current event - ⟨owned, admitted⟩
    exact guarded_of_admitted owned admitted event

instance (tenantID : String) (net : Net (sessions codec config (ι := ι))) :
    (event : Event ι Choice (Call V)) → Decidable (Undisturbed tenantID net event)
  | .start _ _ => .isTrue trivial
  | .step i choice => inferInstanceAs (Decidable (∀ r ∈ (net.parties i).running,
      withdraws tenantID r.request = true → choice.failure = none →
        ∀ j, mayCommit tenantID net j = false))

instance [DecidableEq J] (tenantID : String) (net : Net (sessions codec config (ι := ι)))
    (event : Event ι Choice (Call V)) : Decidable (Guarded tenantID net event) :=
  inferInstanceAs (Decidable (_ ≠ _ → _ = _))

/-- A database with one active tenant and no rows of it. -/
def acmeDatabase : Database String where
  tenants := [{
    id := ⟨"acme", fits_acme⟩
    status := .active
    config := defaultConfigJSON
    deletedAt := none }]
  tuples := { rows := [], unique := TupleTable.unique_nil }
  changelog := []
  sequence := 0

/-- Two sessions on that database, none of them in a call. -/
def twoSessions : Net (sessions emptyCodec defaultConfigCodec (ι := Bool)) where
  shared := { committed := acmeDatabase, work := fun _ => none }
  parties _ := {
    memory := { ctx := some acmeContext, lastSeq := 0, received := [] }
    running := none }

/-- A number of answers to one session. -/
def answers (session : Bool) (count : Nat) : List (Event Bool Choice (Call Empty)) :=
  List.replicate count (.step session { now := 1 })

/-- A write that commits, after a suspension has read the tenant and before it updates the tenant. -/
def commitFirst : List (Event Bool Choice (Call Empty)) :=
  [.start true (.suspend "acme")] ++ answers true 1 ++
    [.start false (.writeTuple (some acmeContext) (viewerOf "1"))] ++ answers false 5 ++
    answers true 1 ++ answers false 1

/-- The rows of this write are committed while the tenant is active. -/
theorem rows_committed_while_active_commitFirst :
    (sessions emptyCodec defaultConfigCodec).machine.Along (Guarded "acme") twoSessions commitFirst :=
  rows_committed_while_active (fun _ => rfl) (by decide +kernel)

/-- A write that is past the status check when the tenant is suspended. -/
def suspendFirst : List (Event Bool Choice (Call Empty)) :=
  [.start false (.writeTuple (some acmeContext) (viewerOf "1"))] ++ answers false 1 ++
    [.start true (.suspend "acme")] ++ answers true 2 ++ answers false 5

/-- Its tuple and its entry are committed although the tenant is suspended. -/
theorem rows_committed_while_suspended :
    ¬ (sessions emptyCodec defaultConfigCodec).machine.Along (Guarded "acme") twoSessions
      suspendFirst := by
  decide +kernel

end ZanGuard.Postgres
