import ZanGuard.Proofs.Storage.Reads

/-! The lookup across tenants and the one within a tenant: when they agree, in both stores. -/

namespace ZanGuard

variable {V J : Type}

/-- A test and a narrower one agree on a list when the narrower one never fails alone. -/
theorem any_eq_any_and_iff {α : Type} (xs : List α) (test also : α → Bool) :
    (xs.any test = xs.any fun x => test x && also x) ↔
      ((∃ x ∈ xs, test x = true ∧ also x = false) → ∃ x ∈ xs, test x = true ∧ also x = true) := by
  rw [Bool.eq_iff_iff]
  simp only [List.any_eq_true, Bool.and_eq_true]
  constructor
  · rintro agree ⟨x, member, passes, -⟩
    exact agree.mp ⟨x, member, passes⟩
  · intro covered
    refine ⟨?_, fun ⟨x, member, passes, _⟩ => ⟨x, member, passes⟩⟩
    rintro ⟨x, member, passes⟩
    -- An element that passes the first test passes the second as well, or is covered.
    cases both : also x with
    | true => exact ⟨x, member, passes, both⟩
    | false => exact covered ⟨x, member, passes, both⟩

section Lookups

variable (objectType objectID relation subjectType subjectID : String) (now : Time)

/-- Whether a live tuple relates an object and a subject, be it as a userset of the subject. -/
def Memory.relates (t : RelationTuple V) : Bool :=
  t.objectType == objectType && t.objectID == objectID && t.relation == relation &&
    t.subjectType == subjectType && t.subjectID == subjectID && !Memory.tupleIsExpiredAt t now

/-- A tuple for a userset of the subject comes with one for the subject itself. -/
def Memory.Store.DirectToo (s : Memory.Store V) (tenantID : String) : Prop :=
  (∃ t ∈ s.tuplesOf tenantID,
    Memory.relates objectType objectID relation subjectType subjectID now t = true ∧
      t.subjectRelation ≠ "") →
    ∃ t ∈ s.tuplesOf tenantID,
      Memory.relates objectType objectID relation subjectType subjectID now t = true ∧
        t.subjectRelation = ""

/-- Whether a live row of a tenant relates an object and a subject. -/
def Postgres.relates (tenantID : String) (row : Postgres.TupleRow J) : Bool :=
  row.liveFor tenantID && row.objectType.text == objectType && row.objectID.text == objectID &&
    row.relation.text == relation && row.subjectType.text == subjectType &&
    row.subjectID.text == subjectID && !row.expired now

/-- A row for a userset of the subject comes with one for the subject itself. -/
def Postgres.Database.DirectToo (db : Postgres.Database J) (tenantID : String) : Prop :=
  (∃ row ∈ db.tuples.rows,
    Postgres.relates objectType objectID relation subjectType subjectID now tenantID row = true ∧
      Postgres.Varchar.coalesce row.subjectRelation ≠ "") →
    ∃ row ∈ db.tuples.rows,
      Postgres.relates objectType objectID relation subjectType subjectID now tenantID row = true ∧
        Postgres.Varchar.coalesce row.subjectRelation = ""

variable {objectType objectID relation subjectType subjectID now}

/-- In memory the two lookups agree exactly where no userset counts that should not. -/
theorem Memory.checkDirectCrossTenant_iff (s : Memory.Store V) (tc : TenantContext V)
    (clock : Memory.Clock) :
    s.checkDirectCrossTenant tc.tenantID objectType objectID relation subjectType subjectID clock =
        s.checkDirect (some tc) objectType objectID relation subjectType subjectID (clock 0) ↔
      (s.checkTenantReadable tc.tenantID = .ok () →
        s.DirectToo objectType objectID relation subjectType subjectID (clock 0) tc.tenantID) := by
  unfold Memory.Store.checkDirectCrossTenant Memory.Store.checkDirect Memory.Store.reading
  cases readable : s.checkTenantReadable tc.tenantID with
  | error e => simp [tenantIDFromCtx, readable, bind, Except.bind]
  | ok granted =>
    -- The two tests differ in the comparison of the subject relation.
    have narrow : (fun t : RelationTuple V => t.objectType == objectType && t.objectID == objectID &&
        t.relation == relation && t.subjectType == subjectType && t.subjectID == subjectID &&
        t.subjectRelation == "" && !Memory.tupleIsExpiredAt t (clock 0)) =
        fun t => Memory.relates objectType objectID relation subjectType subjectID (clock 0) t &&
          t.subjectRelation == "" := by
      funext t
      unfold Memory.relates
      rw [Bool.and_right_comm]
    have tests := any_eq_any_and_iff (s.tuplesOf tc.tenantID)
      (Memory.relates objectType objectID relation subjectType subjectID (clock 0))
      (fun t => t.subjectRelation == "")
    simp only [tenantIDFromCtx, readable, bind, Except.bind, pure, Except.pure, narrow,
      Except.ok.injEq, true_implies]
    -- An element that only the wider test passes is a userset.
    refine tests.trans ?_
    simp only [beq_iff_eq, beq_eq_false_iff_ne]
    rfl

/-- The query across tenants selects the live rows that relate object and subject. -/
theorem Postgres.checkDirectCrossTenantQuery_selects {tenantID : String}
    {row : Postgres.TupleRow J} :
    (Postgres.checkDirectCrossTenantQuery tenantID objectType objectID relation subjectType
        subjectID).selects Postgres.tupleColumns now row =
      Postgres.relates objectType objectID relation subjectType subjectID now tenantID row := by
  rw [Bool.eq_iff_iff, Sql.Query.selects_iff]
  -- One clause after the other; there is none for the subject relation.
  simp only [Postgres.checkDirectCrossTenantQuery, List.forall_mem_cons, Postgres.unexpired_eval,
    Postgres.notDeleted_eval]
  simp [Sql.Condition.eval, Sql.argument, Postgres.tupleColumns, Postgres.TupleRow.text,
    Postgres.relates, Postgres.TupleRow.liveFor]
  tauto

/-- The query within a tenant selects those of them whose subject is no userset. -/
theorem Postgres.checkDirectQuery_narrows {tenantID : String} {row : Postgres.TupleRow J} :
    (Postgres.checkDirectQuery tenantID objectType objectID relation subjectType
        subjectID).selects Postgres.tupleColumns now row =
      (Postgres.relates objectType objectID relation subjectType subjectID now tenantID row &&
        Postgres.Varchar.coalesce row.subjectRelation == "") := by
  -- The clause that is added asks for no subject relation, be it NULL or empty.
  rw [Bool.eq_iff_iff, Postgres.checkDirectQuery_selects]
  simp [Postgres.relates]
  tauto

/-- A list is not empty after a selection when an element is selected. -/
theorem not_isEmpty_filter {α : Type} (xs : List α) (test : α → Bool) :
    (!(xs.filter test).isEmpty) = xs.any test := by
  rw [Bool.eq_iff_iff, Bool.not_eq_true', List.isEmpty_eq_false_iff, ← List.length_pos_iff,
    List.length_filter_pos_iff, List.any_eq_true]

/-- In Postgres the two lookups agree exactly where no userset counts that should not. -/
theorem Postgres.checkDirectCrossTenant_iff (db : Postgres.Database J) (tc : TenantContext V) :
    db.checkDirectCrossTenant tc.tenantID objectType objectID relation subjectType subjectID now =
        db.checkDirect (some tc) objectType objectID relation subjectType subjectID now ↔
      (db.ensureTenantReadable tc.tenantID = .ok () →
        db.DirectToo objectType objectID relation subjectType subjectID now tc.tenantID) := by
  unfold Postgres.Database.checkDirectCrossTenant Postgres.Database.checkDirect
  cases readable : db.ensureTenantReadable tc.tenantID with
  | error e => simp [tenantIDFromCtx, readable, bind, Except.bind]
  | ok granted =>
    -- Both queries are accepted, and answered from the rows they select.
    have wide : db.select now (Postgres.checkDirectCrossTenantQuery tc.tenantID objectType objectID
        relation subjectType subjectID) = .ok (db.tuples.rows.filter
          (Postgres.relates objectType objectID relation subjectType subjectID now tc.tenantID)) :=
      Postgres.select_of_counted rfl (fun _ => Postgres.checkDirectCrossTenantQuery_selects) db
    have narrow : db.select now (Postgres.checkDirectQuery tc.tenantID objectType objectID relation
        subjectType subjectID) = .ok (db.tuples.rows.filter fun row =>
          Postgres.relates objectType objectID relation subjectType subjectID now tc.tenantID row &&
            Postgres.Varchar.coalesce row.subjectRelation == "") :=
      Postgres.select_of_counted rfl (fun _ => Postgres.checkDirectQuery_narrows) db
    have tests := any_eq_any_and_iff db.tuples.rows
      (Postgres.relates objectType objectID relation subjectType subjectID now tc.tenantID)
      (fun row => Postgres.Varchar.coalesce row.subjectRelation == "")
    simp only [tenantIDFromCtx, readable, wide, narrow, bind, Except.bind, pure, Except.pure,
      not_isEmpty_filter, Except.ok.injEq, true_implies]
    refine tests.trans ?_
    simp only [beq_iff_eq, beq_eq_false_iff_ne]
    rfl

/--
The lookup across tenants answers as the one within the tenant exactly where every live userset of
the subject comes with a tuple for the subject itself, in both stores.
-/
theorem crossTenant_agrees_iff (s : Memory.Store V) (db : Postgres.Database J)
    (tc : TenantContext V) (objectType objectID relation subjectType subjectID : String)
    (clock : Memory.Clock) :
    (s.checkDirectCrossTenant tc.tenantID objectType objectID relation subjectType subjectID clock =
        s.checkDirect (some tc) objectType objectID relation subjectType subjectID (clock 0) ↔
      (s.checkTenantReadable tc.tenantID = .ok () →
        s.DirectToo objectType objectID relation subjectType subjectID (clock 0) tc.tenantID)) ∧
    (db.checkDirectCrossTenant tc.tenantID objectType objectID relation subjectType subjectID
          (clock 0) =
        db.checkDirect (some tc) objectType objectID relation subjectType subjectID (clock 0) ↔
      (db.ensureTenantReadable tc.tenantID = .ok () →
        db.DirectToo objectType objectID relation subjectType subjectID (clock 0) tc.tenantID)) :=
  ⟨Memory.checkDirectCrossTenant_iff s tc clock, Postgres.checkDirectCrossTenant_iff db tc⟩

end Lookups

/-- The members of a group view a document. -/
def groupTuple : RelationTuple Bool :=
  { fact "doc" "1" "viewer" "group" "eng" with tenantID := "acme", subjectRelation := "member" }

/-- The row of that tuple. -/
def groupRow : Postgres.TupleRow Unit :=
  { Postgres.annRow with
    subjectType := ⟨"group", by decide⟩
    subjectID := ⟨"eng", by decide⟩
    subjectRelation := some ⟨"member", by decide⟩
    expiresAt := none }

/-- A database with that row only. -/
def groupDatabase : Postgres.Database Unit :=
  { Postgres.annDatabase with tuples := ⟨[groupRow], List.pairwise_singleton _ _⟩ }

/-- Across tenants the group itself counts as a viewer, and within the tenant it does not. -/
theorem group_granted_across_tenants :
    ((acmeStore [groupTuple]).checkDirectCrossTenant "acme" "doc" "1" "viewer" "group" "eng"
        fun _ => 0) = .ok true ∧
      (acmeStore [groupTuple]).checkDirect (some acme) "doc" "1" "viewer" "group" "eng" 0 =
        .ok false ∧
      groupDatabase.checkDirectCrossTenant "acme" "doc" "1" "viewer" "group" "eng" 0 = .ok true ∧
      groupDatabase.checkDirect (some acme) "doc" "1" "viewer" "group" "eng" 0 = .ok false := by
  decide

end ZanGuard
