import ZanGuard.Proofs.Tenant.Backends
import ZanGuard.Storage.Cluster

/-! What a request of a session does to the committed rows and to the open transactions. -/

namespace ZanGuard.Postgres

open Transaction

variable {V J ι : Type}

/-! ### Changes -/

/-- A change leaves the tenants alone. -/
@[simp] theorem apply_tenants (db : Database J) (change : Change J) :
    (change.apply db).tenants = db.tenants := by
  -- Only an insert that finds its identity taken has a case of its own.
  cases change with
  | insertTuple row =>
    simp only [Change.apply]
    split <;> rfl
  | _ => rfl

/-- A change draws nothing from the sequence. -/
@[simp] theorem apply_sequence (db : Database J) (change : Change J) :
    (change.apply db).sequence = db.sequence := by
  cases change with
  | insertTuple row =>
    simp only [Change.apply]
    split <;> rfl
  | _ => rfl

/-- A transaction sees the committed tenants. -/
@[simp] theorem visible_tenants (work : OpenWork J) (committed : Database J) :
    (work.visible committed).tenants = committed.tenants := by
  -- The induction is on the changes, each of which leaves the tenants alone.
  unfold OpenWork.visible
  induction work.changes generalizing committed with
  | nil => rfl
  | cons change rest ih => rw [List.foldl_cons, ih, apply_tenants]

/-- A transaction sees the last value that anybody has drawn. -/
@[simp] theorem visible_sequence (work : OpenWork J) (committed : Database J) :
    (work.visible committed).sequence = committed.sequence := by
  -- As for the tenants, the induction is on the changes.
  unfold OpenWork.visible
  induction work.changes generalizing committed with
  | nil => rfl
  | cons change rest ih => rw [List.foldl_cons, ih, apply_sequence]

/-- Changes are made in the same way whatever value was drawn last. -/
theorem foldl_apply_sequence (changes : List (Change J)) (db : Database J) (sequence : Nat) :
    changes.foldl Change.apply { db with sequence } =
      { changes.foldl Change.apply db with sequence } := by
  -- Each change commutes with the replacement, so the induction moves it to the end.
  induction changes generalizing db with
  | nil => rfl
  | cons change rest ih =>
    have moved : change.apply { db with sequence } = { change.apply db with sequence } := by
      cases change with
      | insertTuple row =>
        simp only [Change.apply]
        split <;> rfl
      | _ => rfl
    rw [List.foldl_cons, List.foldl_cons, moved, ih]

/-- A table is known by its rows. -/
theorem TupleTable.ext {table other : TupleTable J} (same : table.rows = other.rows) :
    table = other := by
  -- The other field is a proof.
  cases table
  cases other
  subst same
  rfl

/-- Rows none of which is chosen stay as they are. -/
theorem map_unchosen {rows : List (TupleRow J)} {chosen : TupleRow J → Bool}
    {change : TupleRow J → TupleRow J} (none_chosen : rows.any chosen = false) :
    rows.map (fun row => if chosen row then change row else row) = rows := by
  -- Every row falls into the second branch.
  have each : ∀ row ∈ rows, (if chosen row then change row else row) = id row := by
    intro row member
    rw [if_neg (List.any_eq_false.mp none_chosen row member), id]
  rw [List.map_congr_left each, List.map_id]

/-- A row for a tuple belongs to the tenant that is assigned to it. -/
theorem TupleRow.build_tenantID {codec : Codec V J} {now : Time} {tenantID : String}
    {tuple : RelationTuple V} {attrsJSON : String} {row : TupleRow J}
    (built : TupleRow.build codec now tenantID tuple attrsJSON = .ok row) :
    Varchar.assign 128 tenantID = .ok row.tenantID := by
  unfold TupleRow.build at built
  obtain ⟨tenant, assigned, built⟩ := Except.of_bind_ok built
  -- The ten other columns that are assigned say nothing about the tenant.
  iterate 10 obtain ⟨_, -, built⟩ := Except.of_bind_ok built
  rw [← Except.ok.inj built]
  exact assigned

/-- A row for an entry belongs to the tenant that is assigned to it, under the value drawn for it. -/
theorem ChangelogRow.build_columns {codec : Codec V J} {now : Time} {sequence : Nat}
    {tenantID : String} {entry : ChangelogEntry V} {metaJSON : Option String} {row : ChangelogRow J}
    (built : ChangelogRow.build codec now sequence tenantID entry metaJSON = .ok row) :
    Varchar.assign 128 tenantID = .ok row.tenantID ∧ row.sequence = sequence := by
  -- The value is taken as it is, and the tenant is assigned first.
  unfold ChangelogRow.build at built
  obtain ⟨tenant, assigned, built⟩ := Except.of_bind_ok built
  iterate 10 obtain ⟨_, -, built⟩ := Except.of_bind_ok built
  rw [← Except.ok.inj built]
  exact ⟨assigned, rfl⟩

/-- A page of the changelog is what the index has after a sequence number. -/
theorem exec_selectChangelog {codec : Codec V J} {now : Time} {tenantID : String}
    {sinceSeq : UInt64} {limit : Int} {db after : Database J} {page : List (ChangelogEntry V)}
    (ran : Statement.exec codec now (.selectChangelog tenantID sinceSeq limit) db =
      .ok (page, after)) :
    page = ((db.changelogAfter tenantID sinceSeq.toNat).take limit.toNat).map ChangelogRow.scan ∧
      after = db := by
  simp only [Statement.exec] at ran
  -- A number the driver cannot encode is refused first.
  split at ran
  · cases ran
  · obtain ⟨-, -, ran⟩ := Except.of_bind_ok ran
    obtain ⟨rfl, rfl⟩ := Prod.mk.inj (Except.ok.inj ran)
    exact ⟨rfl, rfl⟩

/-- Whether a statement changes the table of tenants. -/
def Statement.manages : Statement V → Bool
  | .insertTenant _ _ _ | .updateTenant _ _ => true
  | _ => false

/-- What a statement does when it succeeds. -/
structure Statement.Effect (codec : Codec V J) (now : Time) (statement : Statement V)
    (db after : Database J) : Prop where
  /-- It makes its changes, and nothing else of tuples and entries. -/
  changes : after = { (statement.changes codec now db).foldl Change.apply db with
    tenants := after.tenants, sequence := after.sequence }
  tenants : statement.manages = false → after.tenants = db.tenants
  sequence : statement.draws = false → after.sequence = db.sequence

/-- Every statement has its effect. -/
theorem exec_effect {codec : Codec V J} {now : Time} {statement : Statement V} {db after : Database J}
    {answer : statement.Answer} (ran : statement.exec codec now db = .ok (answer, after)) :
    statement.Effect codec now db after := by
  cases statement with
  | insertTuple tenantID tuple attrsJSON =>
    obtain ⟨row, built, ran⟩ := Except.of_bind_ok ran
    obtain ⟨tuples, stored, ran⟩ := Except.of_bind_ok ran
    obtain ⟨-, -, ran⟩ := Except.of_bind_ok ran
    obtain rfl := (Prod.mk.inj (Except.ok.inj ran)).2
    refine ⟨?_, fun _ => rfl, fun _ => rfl⟩
    simp [Statement.changes, built, Change.apply, stored]
  | refreshExpiredTuple tenantID tuple attrsJSON =>
    obtain ⟨-, -, ran⟩ := Except.of_bind_ok ran
    obtain ⟨columns, built, ran⟩ := Except.of_bind_ok ran
    obtain rfl := (Prod.mk.inj (Except.ok.inj ran)).2
    refine ⟨?_, fun _ => rfl, fun _ => rfl⟩
    simp only [Statement.changes, built]
    split
    · rfl
    · -- No row is found, so none is refreshed.
      rename_i absent
      have kept : db.tuples.refresh (identityOf tenantID tuple) now columns = db.tuples :=
        TupleTable.ext (map_unchosen (Bool.eq_false_iff.mpr absent))
      simp [kept]
  | insertChangelog tenantID entry metaJSON =>
    obtain ⟨row, built, ran⟩ := Except.of_bind_ok ran
    obtain ⟨-, -, ran⟩ := Except.of_bind_ok ran
    obtain rfl := (Prod.mk.inj (Except.ok.inj ran)).2
    refine ⟨?_, fun _ => rfl, nofun⟩
    simp [Statement.changes, built, Change.apply]
  | deleteTuple tenantID tuple =>
    obtain ⟨-, -, ran⟩ := Except.of_bind_ok ran
    obtain rfl := (Prod.mk.inj (Except.ok.inj ran)).2
    refine ⟨?_, fun _ => rfl, fun _ => rfl⟩
    simp only [Statement.changes]
    split
    · rfl
    · rename_i absent
      have kept : db.tuples.markDeleted (identityOf tenantID tuple) now = db.tuples :=
        TupleTable.ext (map_unchosen (Bool.eq_false_iff.mpr absent))
      simp [kept]
  | selectTenantStatus tenantID =>
    obtain ⟨-, -, ran⟩ := Except.of_bind_ok ran
    obtain rfl := (Prod.mk.inj (Except.ok.inj ran)).2
    exact ⟨rfl, fun _ => rfl, fun _ => rfl⟩
  | selectTenant tenantID =>
    obtain ⟨-, -, ran⟩ := Except.of_bind_ok ran
    obtain rfl := (Prod.mk.inj (Except.ok.inj ran)).2
    exact ⟨rfl, fun _ => rfl, fun _ => rfl⟩
  | selectChangelog tenantID sinceSeq limit =>
    obtain ⟨-, rfl⟩ := exec_selectChangelog ran
    exact ⟨rfl, fun _ => rfl, fun _ => rfl⟩
  | insertTenant tenant configJSON created =>
    obtain ⟨row, -, -, rfl⟩ := exec_insertTenant ran
    exact ⟨rfl, nofun, fun _ => rfl⟩
  | updateTenant tenant configJSON =>
    obtain ⟨-, -, ran⟩ := Except.of_bind_ok ran
    obtain ⟨columns, -, ran⟩ := Except.of_bind_ok ran
    obtain rfl := (Prod.mk.inj (Except.ok.inj ran)).2
    exact ⟨rfl, nofun, fun _ => rfl⟩

/-- A statement that runs has not exhausted the sequence. -/
theorem exec_of_run {codec : Codec V J} {now : Time} {statement : Statement V} {db after : Database J}
    {answer : statement.Answer} (ran : statement.run codec now db = .ok (answer, after)) :
    statement.exec codec now db = .ok (answer, after) ∧
      (statement.draws = true → db.sequence + 1 < 2 ^ 63) := by
  -- The first branch is an error, so the second one was taken.
  unfold Statement.run at ran
  split at ran
  · cases ran
  · rename_i room
    simp only [Bool.and_eq_true, decide_eq_true_eq, not_and, not_le] at room
    exact ⟨ran, room⟩

/-- A statement runs as it is while the sequence has room. -/
theorem run_of_room {codec : Codec V J} {now : Time} {statement : Statement V} {db : Database J}
    (room : db.sequence + 1 < 2 ^ 63) :
    statement.run codec now db = statement.exec codec now db := by
  -- With room for one more value the check does not fire.
  unfold Statement.run
  rw [if_neg]
  simp only [Bool.and_eq_true, decide_eq_true_eq, not_and, not_le]
  exact fun _ => room

/-- After a statement a transaction sees what the statement made of what it saw before. -/
theorem visible_after {codec : Codec V J} {work : OpenWork J} {statement : Statement V}
    {committed after : Database J} {answer : statement.Answer}
    (ran : statement.run codec work.began (work.visible committed) = .ok (answer, after))
    (kept : after.tenants = committed.tenants) :
    OpenWork.visible
      { work with
        changes := work.changes ++ statement.changes codec work.began (work.visible committed) }
      { committed with sequence := after.sequence } = after := by
  have made := (exec_effect (exec_of_run ran).1).changes
  have tenants := visible_tenants { work with
    changes := work.changes ++ statement.changes codec work.began (work.visible committed) } committed
  rw [← kept] at tenants
  simp only [OpenWork.visible, List.foldl_append, foldl_apply_sequence] at made tenants ⊢
  -- What the changes make of the committed data has the tenants and the drawn value of the result.
  generalize List.foldl Change.apply (List.foldl Change.apply committed work.changes) _ = seen
    at made tenants ⊢
  calc { seen with sequence := after.sequence }
    _ = { seen with tenants := after.tenants, sequence := after.sequence } := by rw [← tenants]
    _ = after := made.symm

/-! ### Requests -/

/-- What a request of a session did, unless it has to wait. -/
inductive Cluster.Moves [DecidableEq ι] (codec : Codec V J) (i : ι) (choice : Choice)
    (g : Cluster ι J) : Request (Statement V) → Cluster ι J → Prop
  | keeps {request : Request (Statement V)} : Cluster.Moves codec i choice g request g
  | auto {statement : Statement V} {answer : statement.Answer} {committed : Database J}
      (up : choice.failure = none)
      (ran : statement.run codec choice.now g.committed = .ok (answer, committed)) :
      Cluster.Moves codec i choice g (.auto statement) { g with committed }
  | start : Cluster.Moves codec i choice g .start
      (g.setWork i (some { began := choice.now, changes := [], failed := false }))
  | fails {statement : Statement V} {work : OpenWork J} (opened : g.work i = some work) :
      Cluster.Moves codec i choice g (.exec statement)
        (g.setWork i (some { work with failed := true }))
  | exec {statement : Statement V} {work : OpenWork J} (opened : g.work i = some work)
      (sound : work.failed = false) {answer : statement.Answer} {after : Database J}
      (ran : statement.run codec work.began (work.visible g.committed) = .ok (answer, after)) :
      Cluster.Moves codec i choice g (.exec statement)
        { g.setWork i (some { work with
            changes := work.changes ++
              statement.changes codec work.began (work.visible g.committed) }) with
          committed := { g.committed with sequence := after.sequence } }
  | ends {request : Request (Statement V)} : Cluster.Moves codec i choice g request (g.setWork i none)
  | commit {work : OpenWork J} (opened : g.work i = some work) (sound : work.failed = false) :
      Cluster.Moves codec i choice g .commit
        { g.setWork i none with committed := work.visible g.committed }

/-- Every request that is answered does one of these. -/
theorem serve_moves [Fintype ι] [DecidableEq ι] {codec : Codec V J} {i : ι} {choice : Choice}
    {g after : Cluster ι J} {request : Request (Statement V)}
    {reply : request.Reply Statement.Answer Err}
    (served : g.serve codec i choice request = some (reply, after)) :
    g.Moves codec i choice request after := by
  -- The branches are those of the definition, and most of them end with an answer only.
  cases request with
  | auto statement =>
    simp only [Cluster.serve] at served
    split at served
    · obtain rfl := (Prod.mk.inj (Option.some.inj served)).2
      exact .keeps
    · rename_i up
      obtain rfl : (g.execAuto codec choice statement).2 = after :=
        congrArg Prod.snd (Option.some.inj served)
      unfold Cluster.execAuto
      split
      · exact .keeps
      · rename_i ran
        exact .auto up ran
  | start =>
    simp only [Cluster.serve] at served
    split at served
    · obtain rfl := (Prod.mk.inj (Option.some.inj served)).2
      exact .keeps
    · obtain rfl := (Prod.mk.inj (Option.some.inj served)).2
      exact .start
  | exec statement =>
    simp only [Cluster.serve] at served
    split at served
    · obtain rfl := (Prod.mk.inj (Option.some.inj served)).2
      exact .keeps
    · rename_i work opened
      split at served
      · obtain rfl := (Prod.mk.inj (Option.some.inj served)).2
        exact .keeps
      · rename_i sound
        split at served
        · obtain rfl := (Prod.mk.inj (Option.some.inj served)).2
          exact .fails opened
        · split at served
          · cases served
          · obtain rfl : (g.execWithin codec i work statement).2 = after :=
              congrArg Prod.snd (Option.some.inj served)
            unfold Cluster.execWithin
            dsimp only
            split
            · exact .fails opened
            · rename_i ran
              exact .exec opened (Bool.eq_false_iff.mpr sound) ran
  | commit =>
    simp only [Cluster.serve] at served
    split at served
    · obtain rfl := (Prod.mk.inj (Option.some.inj served)).2
      exact .keeps
    · rename_i work opened
      split at served
      · obtain rfl := (Prod.mk.inj (Option.some.inj served)).2
        exact .ends
      · rename_i sound
        split at served
        · obtain rfl := (Prod.mk.inj (Option.some.inj served)).2
          exact .ends
        · obtain rfl := (Prod.mk.inj (Option.some.inj served)).2
          exact .commit opened (Bool.eq_false_iff.mpr sound)
  | rollback =>
    simp only [Cluster.serve] at served
    split at served
    · obtain rfl := (Prod.mk.inj (Option.some.inj served)).2
      exact .keeps
    · obtain rfl := (Prod.mk.inj (Option.some.inj served)).2
      exact .ends

/-- A statement on its own that is answered ran on what is committed. -/
theorem serve_auto [Fintype ι] [DecidableEq ι] {codec : Codec V J} {i : ι} {choice : Choice}
    {g after : Cluster ι J} {statement : Statement V} {answer : statement.Answer}
    (served : g.serve codec i choice (.auto statement) = some (.ok answer, after)) :
    choice.failure = none ∧ ∃ committed, after = { g with committed } ∧
      statement.exec codec choice.now g.committed = .ok (answer, committed) := by
  -- An error of the environment or of the statement would have been the answer.
  simp only [Cluster.serve] at served
  split at served
  · cases served
  · rename_i up
    have answered := Option.some.inj served
    unfold Cluster.execAuto at answered
    split at answered
    · cases answered
    · rename_i found committed ran
      obtain ⟨same, rfl⟩ := Prod.mk.inj answered
      obtain rfl := Except.ok.inj same
      exact ⟨up, committed, rfl, (exec_of_run ran).1⟩

end ZanGuard.Postgres
