import Mathlib.Data.List.Forall2
import ZanGuard.Proofs.Engine.Sound
import ZanGuard.Proofs.Storage.Regrant
import ZanGuard.Storage.PostgresReads

/-! The two stores answer reads alike, when they hold the same tuples of a tenant. -/

namespace ZanGuard.Postgres

open Memory

variable {V J : Type}

/-! ### Databases and stores that hold the same -/

/-- Attribute maps with the same entries; nil and empty maps are not told apart. -/
def SameAttrs (first second : AnyMap V) : Prop :=
  (first.getD ∅).entries.Perm (second.getD ∅).entries

/-- Tuples with the same attributes and equal other fields. -/
def SameTuple (first second : RelationTuple V) : Prop :=
  { second with attributes := first.attributes } = first ∧
    SameAttrs first.attributes second.attributes

/-- A row holds the fields of a tuple, an empty text as NULL or as it is. -/
structure TupleRow.Matches (unmarshal : J → Except String (AnyMap V)) (row : TupleRow J)
    (t : RelationTuple V) : Prop where
  tenantID : row.tenantID.text = t.tenantID
  objectType : row.objectType.text = t.objectType
  objectID : row.objectID.text = t.objectID
  relation : row.relation.text = t.relation
  subjectType : row.subjectType.text = t.subjectType
  subjectID : row.subjectID.text = t.subjectID
  subjectRelation : Varchar.coalesce row.subjectRelation = t.subjectRelation
  subjectTenantID : Varchar.coalesce row.subjectTenantID = t.subjectTenantID
  sourceSystem : Varchar.coalesce row.sourceSystem = t.sourceSystem
  externalID : Varchar.coalesce row.externalID = t.externalID
  attributes : ∃ attrs, unmarshal row.attributes = .ok attrs ∧ SameAttrs attrs t.attributes
  expiresAt : row.expiresAt = t.expiresAt
  createdAt : row.createdAt = t.createdAt
  updatedAt : row.updatedAt = t.updatedAt

/-- A row of a tenant that is not deleted. -/
def TupleRow.liveFor (row : TupleRow J) (tenantID : String) : Bool :=
  row.deletedAt = none && row.tenantID.text = tenantID

/-- A database and a store hold the same status and, in some order, the same tuples of a tenant. -/
structure Related (unmarshal : J → Except String (AnyMap V)) (tenantID : String)
    (db : Database J) (s : Memory.Store V) : Prop where
  status : db.statusOf tenantID = s.statusOf tenantID
  tuples : ∃ order, order.Perm (s.tuplesOf tenantID) ∧
    List.Forall₂ (TupleRow.Matches unmarshal) (db.tuples.rows.filter (·.liveFor tenantID)) order

/-- Answers with equal errors, or with results in a relation. -/
inductive Agree {α β : Type} (same : α → β → Prop) : Except Err α → Except Err β → Prop
  | error (e : Err) : Agree same (.error e) (.error e)
  | ok {a : α} {b : β} (related : same a b) : Agree same (.ok a) (.ok b)

/-- Answers whose results are equal are equal. -/
theorem Agree.eq {α : Type} {first second : Except Err α} (agree : Agree (· = ·) first second) :
    first = second := by
  cases agree with
  | error e => rfl
  | ok same => rw [same]

/-- Subject trees with the same subject, and the same children up to their order. -/
def SameTree (first second : SubjectTree) : Prop :=
  first.subject = second.subject ∧ first.children.Perm second.children

/-- Lists of tuples that are the same up to their order. -/
def SameTuples (first second : List (RelationTuple V)) : Prop :=
  ∃ order, order.Perm second ∧ List.Forall₂ SameTuple first order

/-! ### What the queries select -/

section Clauses

variable {now : Time} {row : TupleRow J}

/-- The clause on `expires_at` says that a row has not expired. -/
theorem unexpired_eval {args : List String} :
    unexpired.eval tupleColumns now args row = some true ↔ row.expired now = false := by
  -- Either there is no expiry, or it is compared with the clock.
  unfold unexpired TupleRow.expired
  simp only [Sql.Condition.eval, Sql.Truth.or_eq_true, tupleColumns, TupleRow.instant]
  cases row.expiresAt with
  | none => simp
  | some expiresAt => simp

/-- The clause on `deleted_at` says that a row is not deleted. -/
theorem notDeleted_eval {args : List String} :
    notDeleted.eval tupleColumns now args row = some true ↔ row.deletedAt = none := by
  simp [notDeleted, Sql.Condition.eval, tupleColumns, TupleRow.instant]

/-- The clause on `subject_relation` says that a row has no userset for its subject. -/
theorem directSubject_eval {args : List String} :
    directSubject.eval tupleColumns now args row = some true ↔
      Varchar.coalesce row.subjectRelation = "" := by
  -- A userset relation that is NULL counts as empty.
  unfold directSubject Varchar.coalesce
  simp only [Sql.Condition.eval, Sql.Truth.or_eq_true, tupleColumns, TupleRow.text]
  cases row.subjectRelation with
  | none => simp
  | some value => simp

/-- The query of a count selects the live rows that have not expired. -/
theorem countTuplesQuery_selects {tenantID : String} :
    (countTuplesQuery tenantID).selects tupleColumns now row = true ↔
      row.liveFor tenantID = true ∧ row.expired now = false := by
  -- Three clauses, of which one has a parameter.
  rw [Sql.Query.selects_iff]
  simp only [countTuplesQuery, List.forall_mem_cons, unexpired_eval, notDeleted_eval]
  simp [Sql.Condition.eval, Sql.argument, tupleColumns, TupleRow.text, TupleRow.liveFor,
    and_comm, and_assoc]

/-- The query of a listing selects the live rows of an object and relation. -/
theorem listQuery_selects {tenantID objectType objectID relation : String} :
    (listQuery tenantID objectType objectID relation).selects tupleColumns now row = true ↔
      row.liveFor tenantID = true ∧ row.expired now = false ∧ row.objectType.text = objectType ∧
        row.objectID.text = objectID ∧ row.relation.text = relation := by
  -- The clauses one by one, the parameters by their numbers.
  rw [Sql.Query.selects_iff]
  simp only [listQuery, List.forall_mem_cons, unexpired_eval, notDeleted_eval]
  simp [Sql.Condition.eval, Sql.argument, tupleColumns, TupleRow.text, TupleRow.liveFor]
  tauto

/-- The query of a direct check selects the live rows that relate object and subject. -/
theorem checkDirectQuery_selects
    {tenantID objectType objectID relation subjectType subjectID : String} :
    (checkDirectQuery tenantID objectType objectID relation subjectType subjectID).selects
        tupleColumns now row = true ↔
      row.liveFor tenantID = true ∧ row.expired now = false ∧ row.objectType.text = objectType ∧
        row.objectID.text = objectID ∧ row.relation.text = relation ∧
        row.subjectType.text = subjectType ∧ row.subjectID.text = subjectID ∧
        Varchar.coalesce row.subjectRelation = "" := by
  -- As for a listing, with three clauses for the subject.
  rw [Sql.Query.selects_iff]
  simp only [checkDirectQuery, List.forall_mem_cons, unexpired_eval, notDeleted_eval,
    directSubject_eval]
  simp [Sql.Condition.eval, Sql.argument, tupleColumns, TupleRow.text, TupleRow.liveFor]
  tauto

/-- A query whose placeholders are counted is answered with the rows that it selects. -/
theorem select_of_counted {query : TupleQuery}
    (counted : query.placeholders = List.range' 1 query.args.length) {test : TupleRow J → Bool}
    (selects : ∀ row, query.selects tupleColumns now row = test row) (db : Database J) :
    db.select now query = .ok (db.tuples.rows.filter test) := by
  -- The driver accepts as many arguments as there are placeholders.
  unfold Database.select Sql.Query.run
  rw [if_pos (Sql.Query.bound_of_counted counted)]
  exact congrArg Except.ok (List.filter_congr fun row _ => selects row)

/-- What is known of a query that is being put together. -/
structure Assembly.Means (a : Assembly) (now : Time) (selected : TupleRow J → Prop) : Prop where
  counted : a.query.placeholders = List.range' 1 a.query.args.length
  next : a.argN = a.query.args.length + 1
  selects : ∀ row, a.query.selects tupleColumns now row = true ↔ selected row

/-- A field of the filter narrows the query to the rows that have it, unless it is empty. -/
theorem Assembly.Means.filterBy {a : Assembly} {selected : TupleRow J → Prop}
    (means : a.Means now selected) (column : TextColumn) (value : String) :
    (a.filterBy column value).Means now fun row =>
      selected row ∧ (value ≠ "" → row.text column = some value) := by
  unfold Assembly.filterBy
  split
  · -- The clause gets the next number, and the value comes last among the arguments.
    rename_i set
    refine ⟨?_, ?_, fun row => ?_⟩
    · rw [means.next]
      exact Sql.Query.andEquals_counted means.counted column value
    · simp [means.next, Sql.Query.andEquals]
    · simp only [means.next]
      rw [Sql.Query.andEquals_selects means.counted, means.selects]
      simp [set, tupleColumns]
  · -- An empty field adds no clause.
    rename_i unset
    refine ⟨means.counted, means.next, fun row => ?_⟩
    rw [means.selects]
    simp [unset]

/-- The clauses before those of the filter select the live rows, the expired ones if asked for. -/
theorem base_means (now : Time) (tenantID : String) (expiredToo : Bool) :
    Assembly.Means (J := J) {
      query := if !expiredToo then
          { conditions := [.equals .tenantID 1, notDeleted] ++ [unexpired], args := [tenantID] }
        else { conditions := [.equals .tenantID 1, notDeleted], args := [tenantID] }
      argN := 2 } now fun row =>
        row.liveFor tenantID = true ∧ (expiredToo = true ∨ row.expired now = false) := by
  -- There is one placeholder, for the tenant, with or without the clause on the expiry.
  cases expiredToo with
  | true =>
    refine ⟨rfl, rfl, fun row => ?_⟩
    rw [Sql.Query.selects_iff]
    simp only [Bool.not_true, Bool.false_eq_true, if_false, List.forall_mem_cons, notDeleted_eval]
    simp [Sql.Condition.eval, Sql.argument, tupleColumns, TupleRow.text, TupleRow.liveFor, and_comm]
  -- Here the clause on the expiry is there as well.
  | false =>
    refine ⟨rfl, rfl, fun row => ?_⟩
    rw [Sql.Query.selects_iff]
    simp only [Bool.not_false, if_true, List.cons_append, List.nil_append, List.forall_mem_cons,
      notDeleted_eval, unexpired_eval]
    simp [Sql.Condition.eval, Sql.argument, tupleColumns, TupleRow.text, TupleRow.liveFor, and_comm,
      and_assoc]

/-- A row has the fields a filter sets. -/
def TupleRow.passes (row : TupleRow J) (f : TupleFilter) : Prop :=
  (f.objectType ≠ "" → row.objectType.text = f.objectType) ∧
  (f.objectID ≠ "" → row.objectID.text = f.objectID) ∧
  (f.relation ≠ "" → row.relation.text = f.relation) ∧
  (f.subjectType ≠ "" → row.subjectType.text = f.subjectType) ∧
  (f.subjectID ≠ "" → row.subjectID.text = f.subjectID) ∧
  (f.subjectRelation ≠ "" → row.text .subjectRelation = some f.subjectRelation)

/--
The query of a filter counts its placeholders, and selects the rows that pass the filter.

The last field leaves the number of the next placeholder behind, but no clause comes after it.
-/
theorem readTuplesQuery_means (now : Time) (tenantID : String) (filter : Option TupleFilter) :
    let query := readTuplesQuery tenantID filter
    query.placeholders = List.range' 1 query.args.length ∧
      ∀ row : TupleRow J, query.selects tupleColumns now row = true ↔
        (row.liveFor tenantID = true ∧
          (filter.any (·.includeExpired) = true ∨ row.expired now = false)) ∧
        ∀ f ∈ filter, row.passes f := by
  cases filter with
  | none =>
    have base := base_means (J := J) now tenantID false
    refine ⟨base.counted, fun row => ?_⟩
    simpa [readTuplesQuery] using base.selects row
  | some f =>
    -- One field after the other, in the order of the source.
    have base := base_means (J := J) now tenantID f.includeExpired
    have whole := (((((base.filterBy .objectType f.objectType).filterBy .objectID
      f.objectID).filterBy .relation f.relation).filterBy .subjectType
      f.subjectType).filterBy .subjectID f.subjectID).filterBy .subjectRelation f.subjectRelation
    have last : ∀ a : Assembly, (a.filterBy .subjectRelation f.subjectRelation).query =
        if f.subjectRelation ≠ "" then
          a.query.andEquals .subjectRelation a.argN f.subjectRelation
        else a.query := by
      intro a
      unfold Assembly.filterBy
      split <;> rfl
    obtain ⟨counted, -, selects⟩ := whole
    simp only [last] at counted selects
    refine ⟨counted, fun row => (selects row).trans ?_⟩
    simp only [Option.mem_def, Option.some.injEq, forall_eq', TupleRow.passes, Option.any_some,
      and_assoc]
    simp [TupleRow.text]

end Clauses

/-! ### Reads of related stores -/

section Related

variable {unmarshal : J → Except String (AnyMap V)} {tenantID : String} {db : Database J}
  {s : Memory.Store V} {now : Time}

/-- A row that is no tuple's is not selected, so what is selected corresponds as well. -/
theorem Related.select (related : Related unmarshal tenantID db s) {query : TupleQuery}
    (counted : query.placeholders = List.range' 1 query.args.length)
    {keeps : RelationTuple V → Bool}
    (only : ∀ row : TupleRow J, query.selects tupleColumns now row = true →
      row.liveFor tenantID = true)
    (same : ∀ (row : TupleRow J) t, row.Matches unmarshal t → row.liveFor tenantID = true →
      (query.selects tupleColumns now row = true ↔ keeps t = true)) :
    ∃ rows order, db.select now query = .ok rows ∧
      order.Perm ((s.tuplesOf tenantID).filter keeps) ∧
      List.Forall₂ (TupleRow.Matches unmarshal) rows order := by
  obtain ⟨order, permuted, matched⟩ := related.tuples
  refine ⟨db.tuples.rows.filter (query.selects tupleColumns now), order.filter keeps, ?_,
    permuted.filter keeps, ?_⟩
  · exact select_of_counted counted (fun _ => rfl) db
  · -- Selecting among the live rows is selecting among all rows.
    have narrowed : db.tuples.rows.filter (query.selects tupleColumns now) =
        (db.tuples.rows.filter (·.liveFor tenantID)).filter (query.selects tupleColumns now) := by
      rw [List.filter_filter]
      refine List.filter_congr fun row _ => ?_
      cases selected : query.selects tupleColumns now row with
      | false => rfl
      | true => rw [only row selected, Bool.and_self]
    have all_live : ∀ row ∈ db.tuples.rows.filter (·.liveFor tenantID),
        row.liveFor tenantID = true := fun row member => (List.mem_filter.mp member).2
    have both := List.forall₂_and_left _ _ |>.mpr ⟨all_live, matched⟩
    rw [narrowed]
    refine List.Forall₂.imp (fun _ _ pair => pair.2) (List.rel_filter ?_ both)
    rintro row t ⟨live, fields⟩
    exact same row t fields live

/-- A read of the database for a tenant that both stores hold alike passes the same check. -/
theorem Related.readable (related : Related unmarshal tenantID db s) :
    db.ensureTenantReadable tenantID = s.checkTenantReadable tenantID := by
  -- Both look up the same status, and answer it with the same error.
  have status := related.status
  unfold Database.ensureTenantReadable Store.checkTenantReadable
  rw [status]
  unfold Store.statusOf
  cases s.tenants.lookup tenantID with
  | none => rfl
  | some t => rfl

/-- The check of a read answers what the client's own query of the status comes to. -/
theorem ensureTenantReadable_alone (codec : Codec V J) {status : TenantStatus}
    (found : db.statusOf tenantID = some status) :
    Transaction.Client.from (server codec now) (Postgres.ensureTenantReadable tenantID) (.idle db) =
      (db.ensureTenantReadable tenantID, .idle db) := by
  have read : Transaction.Client.from (server codec now) (tenantStatus tenantID) (.idle db) =
      (.ok status, .idle db) := tenantStatus_from (exec_selectTenantStatus codec now found)
  unfold Postgres.ensureTenantReadable Database.ensureTenantReadable
  rw [Transaction.Client.from_bind_ok _ _ read, found]
  dsimp only
  -- Only a deleted tenant is refused.
  by_cases deleted : status = .deleted
  · rw [if_pos deleted, if_pos deleted]
    rfl
  · rw [if_neg deleted, if_neg deleted]
    rfl

/-- A row has expired when its tuple has. -/
theorem TupleRow.Matches.expired {row : TupleRow J} {t : RelationTuple V}
    (fields : row.Matches unmarshal t) : row.expired now = tupleIsExpiredAt t now := by
  -- Both compare the same instant, from the two sides.
  unfold TupleRow.expired tupleIsExpiredAt
  rw [fields.expiresAt]
  cases t.expiresAt with
  | none => rfl
  | some expiresAt =>
    show decide (expiresAt ≤ now) = !decide (expiresAt > now)
    rw [← decide_not, decide_eq_decide, gt_iff_lt, not_lt]

/-- A row is scanned into a tuple that is the same. -/
theorem TupleRow.Matches.scan {row : TupleRow J} {t : RelationTuple V}
    (fields : row.Matches unmarshal t) : ∃ u, row.scan unmarshal = .ok u ∧ SameTuple u t := by
  -- Every column is taken over as it is, but for the decoded attributes.
  obtain ⟨attrs, read, same⟩ := fields.attributes
  refine ⟨{ t with attributes := attrs }, ?_, rfl, same⟩
  simp only [TupleRow.scan, read, fields.tenantID, fields.objectType, fields.objectID,
    fields.relation, fields.subjectType, fields.subjectID, fields.subjectRelation,
    fields.subjectTenantID, fields.sourceSystem, fields.externalID, fields.expiresAt,
    fields.createdAt, fields.updatedAt]
  rfl

/-- Rows are scanned into tuples that are the same, one by one. -/
theorem scan_all {rows : List (TupleRow J)} {tuples : List (RelationTuple V)}
    (matched : List.Forall₂ (TupleRow.Matches unmarshal) rows tuples) :
    ∃ scanned, rows.mapM (TupleRow.scan unmarshal) = .ok scanned ∧
      List.Forall₂ SameTuple scanned tuples := by
  -- The induction is on the correspondence, one row at a time.
  induction matched with
  | nil => exact ⟨[], rfl, .nil⟩
  | cons fields _ ih =>
    -- The first row is scanned, and then the others.
    obtain ⟨u, first, same⟩ := fields.scan
    obtain ⟨others, later, rest⟩ := ih
    refine ⟨u :: others, ?_, .cons same rest⟩
    rw [List.mapM_cons, first]
    simp only [later, bind, Except.bind]
    rfl

/-- Columns that hold what the tuples hold are the same list. -/
theorem map_eq_of_matches {α : Type} {rows : List (TupleRow J)} {tuples : List (RelationTuple V)}
    (matched : List.Forall₂ (TupleRow.Matches unmarshal) rows tuples) {read : TupleRow J → α}
    {field : RelationTuple V → α}
    (same : ∀ row t, row.Matches unmarshal t → read row = field t) :
    rows.map read = tuples.map field := by
  -- The induction is on the correspondence.
  induction matched with
  | nil => rfl
  | cons fields _ ih => rw [List.map_cons, List.map_cons, same _ _ fields, ih]

/-- A row passes a filter when its tuple does. -/
theorem TupleRow.Matches.passes {row : TupleRow J} {t : RelationTuple V}
    (fields : row.Matches unmarshal t) (filter : Option TupleFilter) :
    (∀ f ∈ filter, row.passes f) ↔ matchesTupleFilter t filter = true := by
  cases filter with
  | none => simp [matchesTupleFilter]
  | some f =>
    -- A column that is NULL is no text, and the empty text is not asked for.
    have userset : (f.subjectRelation ≠ "" → row.text .subjectRelation = some f.subjectRelation) ↔
        (f.subjectRelation ≠ "" → t.subjectRelation = f.subjectRelation) := by
      refine imp_congr_right fun set => ?_
      rw [← fields.subjectRelation]
      unfold TupleRow.text Varchar.coalesce
      cases row.subjectRelation with
      | none => simpa using fun same : "" = f.subjectRelation => set same.symm
      | some value => simp
    simp only [Option.mem_def, Option.some.injEq, forall_eq', TupleRow.passes, userset,
      fields.objectType, fields.objectID, fields.relation, fields.subjectType, fields.subjectID,
      matchesTupleFilter, Bool.and_eq_true, Bool.or_eq_true, beq_iff_eq, and_assoc]
    simp only [imp_iff_not_or, not_not, ne_eq]

/-- A row is selected by a listing when its tuple is live and of the object and relation. -/
theorem listQuery_matches {objectType objectID relation : String} {row : TupleRow J}
    {t : RelationTuple V} (fields : row.Matches unmarshal t) (live : row.liveFor tenantID = true) :
    (listQuery tenantID objectType objectID relation).selects tupleColumns now row = true ↔
      (t.objectType == objectType && t.objectID == objectID && t.relation == relation &&
        !tupleIsExpiredAt t now) = true := by
  rw [listQuery_selects, fields.expired, fields.objectType, fields.objectID, fields.relation]
  simp [live]
  tauto

/-- The rows of a listing correspond to the live tuples of the object and relation. -/
theorem Related.list (related : Related unmarshal tenantID db s)
    (objectType objectID relation : String) (now : Time) :
    ∃ rows order, db.select now (listQuery tenantID objectType objectID relation) = .ok rows ∧
      order.Perm (s.liveTuples tenantID objectType objectID relation now) ∧
      List.Forall₂ (TupleRow.Matches unmarshal) rows order :=
  related.select rfl (fun _ selected => (listQuery_selects.mp selected).1)
    fun _ _ fields live => listQuery_matches fields live

end Related

/-! ### The six reads -/

section Reads

variable {unmarshal : J → Except String (AnyMap V)} {db : Database J} {s : Memory.Store V}

/-- Two reads agree when both checks do, and their bodies for the tenant of the context. -/
theorem agree_of_readable {α β : Type} {same : α → β → Prop} {ctx : Context V}
    (related : ∀ tc ∈ ctx, Related unmarshal tc.tenantID db s)
    {body : String → Except Err α} {other : String → Except Err β}
    (inside : ∀ tc ∈ ctx, Agree same (body tc.tenantID) (other tc.tenantID)) :
    Agree same
      (do
        let tenantID ← tenantIDFromCtx ctx
        db.ensureTenantReadable tenantID
        body tenantID)
      (s.reading ctx other) := by
  -- Without a tenant both fail, and else the checks come first.
  cases ctx with
  -- Without a tenant neither reads anything.
  | none => exact .error _
  | some tc =>
    have check := (related tc rfl).readable
    simp only [Store.reading, tenantIDFromCtx, bind, Except.bind, check]
    cases s.checkTenantReadable tc.tenantID with
    -- A tenant that cannot be read ends both with the same error.
    | error e => exact .error e
    | ok _ => exact inside tc rfl

variable {ctx : Context V} (related : ∀ tc ∈ ctx, Related unmarshal tc.tenantID db s)
include related

/-- A query with a filter selects the rows of the tuples that pass the filter. -/
theorem readTuples_alike (filter : Option TupleFilter) (clock : Clock) :
    Agree SameTuples (db.readTuples unmarshal ctx filter (clock 0))
      (s.readTuples ctx filter clock) := by
  refine agree_of_readable related fun tc given => ?_
  obtain ⟨counted, selects⟩ := readTuplesQuery_means (J := J) (clock 0) tc.tenantID filter
  let keeps : RelationTuple V → Bool := fun t =>
    (filter.any (·.includeExpired) || !tupleIsExpiredAt t (clock 0)) && matchesTupleFilter t filter
  have same : ∀ (row : TupleRow J) t, row.Matches unmarshal t → row.liveFor tc.tenantID = true →
      ((readTuplesQuery tc.tenantID filter).selects tupleColumns (clock 0) row = true ↔
        keeps t = true) := by
    intro row t fields live
    rw [selects, fields.passes, fields.expired]
    simp [live, keeps]
  -- The rows that are selected are scanned one by one, and no scan fails.
  obtain ⟨rows, order, selected, permuted, matched⟩ := (related tc given).select counted
    (fun row chosen => ((selects row).mp chosen).1.1) same
  obtain ⟨scanned, read, same⟩ := scan_all matched
  simp only [selected, bind, Except.bind, read]
  exact .ok ⟨order, permuted, same⟩

/-- A direct check finds a row exactly when it finds a tuple. -/
theorem checkDirect_alike (objectType objectID relation subjectType subjectID : String)
    (now : Time) :
    db.checkDirect ctx objectType objectID relation subjectType subjectID now =
      s.checkDirect ctx objectType objectID relation subjectType subjectID now := by
  refine (agree_of_readable related fun tc given => ?_).eq
  have counted : (checkDirectQuery tc.tenantID objectType objectID relation subjectType
      subjectID).placeholders = List.range' 1 6 := rfl
  let keeps : RelationTuple V → Bool := fun t =>
    t.objectType == objectType && t.objectID == objectID && t.relation == relation &&
      t.subjectType == subjectType && t.subjectID == subjectID && t.subjectRelation == "" &&
      !tupleIsExpiredAt t now
  have same : ∀ (row : TupleRow J) t, row.Matches unmarshal t → row.liveFor tc.tenantID = true →
      ((checkDirectQuery tc.tenantID objectType objectID relation subjectType subjectID).selects
        tupleColumns now row = true ↔ keeps t = true) := by
    intro row t fields live
    rw [checkDirectQuery_selects, fields.expired, fields.objectType, fields.objectID,
      fields.relation, fields.subjectType, fields.subjectID, fields.subjectRelation]
    simp [live, keeps]
    tauto
  obtain ⟨rows, order, selected, permuted, matched⟩ := (related tc given).select counted
    (fun _ chosen => (checkDirectQuery_selects.mp chosen).1) same
  simp only [selected, bind, Except.bind]
  refine .ok ?_
  -- Both sides say that something is selected.
  have long : rows.length = ((s.tuplesOf tc.tenantID).filter keeps).length :=
    matched.length_eq.trans permuted.length_eq
  show (!rows.isEmpty) = (s.tuplesOf tc.tenantID).any keeps
  rw [Bool.eq_iff_iff, Bool.not_eq_true', List.isEmpty_eq_false_iff, ← List.length_pos_iff, long,
    List.length_filter_pos_iff, List.any_eq_true]

/-- The related objects are read from the rows of the same tuples. -/
theorem listRelatedObjects_alike (objectType objectID relation : String) (now : Time) :
    Agree List.Perm (db.listRelatedObjects ctx objectType objectID relation now)
      (s.listRelatedObjects ctx objectType objectID relation now) := by
  refine agree_of_readable related fun tc given => ?_
  -- The columns of the answer hold what the tuples hold.
  obtain ⟨rows, order, selected, permuted, matched⟩ :=
    (related tc given).list objectType objectID relation now
  have read : rows.map (fun row => ({ type := row.subjectType.text, id := row.subjectID.text } :
      ObjectRef)) = order.map fun t => { type := t.subjectType, id := t.subjectID } :=
    map_eq_of_matches matched fun row t fields => by rw [fields.subjectType, fields.subjectID]
  simp only [selected, bind, Except.bind, pure, Except.pure, read]
  exact .ok (permuted.map _)

/-- So are the subjects. -/
theorem listSubjects_alike (objectType objectID relation : String) (now : Time) :
    Agree List.Perm (db.listSubjects ctx objectType objectID relation now)
      (s.listSubjects ctx objectType objectID relation now) := by
  refine agree_of_readable related fun tc given => ?_
  -- As for the objects, with the userset relation on top.
  obtain ⟨rows, order, selected, permuted, matched⟩ :=
    (related tc given).list objectType objectID relation now
  have read : rows.map (fun row => ({
        type := row.subjectType.text
        id := row.subjectID.text
        relation := Varchar.coalesce row.subjectRelation } : SubjectRef)) =
      order.map fun t =>
        { type := t.subjectType, id := t.subjectID, relation := t.subjectRelation } :=
    map_eq_of_matches matched fun row t fields => by
      rw [fields.subjectType, fields.subjectID, fields.subjectRelation]
  simp only [selected, bind, Except.bind, pure, Except.pure, read]
  exact .ok (permuted.map _)

/-- The tree of a database is made of its subjects, and that of a store of the same tuples. -/
theorem expand_alike (objectType objectID relation : String) (now : Time) :
    Agree SameTree (db.expand ctx objectType objectID relation now)
      (s.expand ctx objectType objectID relation now) := by
  have listed := listSubjects_alike related objectType objectID relation now
  have tree : s.expand ctx objectType objectID relation now =
      (s.listSubjects ctx objectType objectID relation now).map fun subjects =>
        { subject := { type := objectType, id := objectID, relation }, children := subjects } := by
    unfold Store.expand Store.listSubjects Store.reading
    cases tenantIDFromCtx ctx with
    | error e => rfl
    | ok tenantID =>
      simp only [bind, Except.bind]
      cases s.checkTenantReadable tenantID <;> rfl
  rw [tree]
  unfold Database.expand
  -- The two listings are all that the two trees depend on.
  generalize db.listSubjects ctx objectType objectID relation now = first at listed ⊢
  generalize s.listSubjects ctx objectType objectID relation now = second at listed ⊢
  cases listed with
  | error e => exact .error e
  | ok permuted => exact .ok ⟨rfl, permuted⟩

/-- As many rows are counted as tuples. -/
theorem countTuples_alike (clock : Clock) :
    db.countTuples ctx (clock 0) = s.countTuples ctx clock := by
  -- The count is the length of what is selected.
  refine (agree_of_readable related fun tc given => ?_).eq
  have counted : (countTuplesQuery tc.tenantID).placeholders = List.range' 1 1 := rfl
  have same : ∀ (row : TupleRow J) t, row.Matches unmarshal t → row.liveFor tc.tenantID = true →
      ((countTuplesQuery tc.tenantID).selects tupleColumns (clock 0) row = true ↔
        (!tupleIsExpiredAt t (clock 0)) = true) := by
    intro row t fields live
    rw [countTuplesQuery_selects, fields.expired]
    simp [live]
  obtain ⟨rows, order, selected, permuted, matched⟩ := (related tc given).select counted
    (fun _ chosen => (countTuplesQuery_selects.mp chosen).1) same
  simp only [selected, bind, Except.bind, pure, Except.pure]
  refine .ok ?_
  rw [List.countP_eq_length_filter, matched.length_eq, permuted.length_eq]

end Reads

/--
A database and a store answer the reads in a context alike.

Lists are the same up to their order, nil and empty attributes are not told apart, and errors are
equal.
-/
structure ReadsAlike (unmarshal : J → Except String (AnyMap V)) (db : Database J)
    (s : Memory.Store V) (ctx : Context V) : Prop where
  readTuples (filter : Option TupleFilter) (clock : Clock) :
    Agree SameTuples (db.readTuples unmarshal ctx filter (clock 0)) (s.readTuples ctx filter clock)
  checkDirect (objectType objectID relation subjectType subjectID : String) (now : Time) :
    db.checkDirect ctx objectType objectID relation subjectType subjectID now =
      s.checkDirect ctx objectType objectID relation subjectType subjectID now
  listSubjects (objectType objectID relation : String) (now : Time) :
    Agree List.Perm (db.listSubjects ctx objectType objectID relation now)
      (s.listSubjects ctx objectType objectID relation now)
  listRelatedObjects (objectType objectID relation : String) (now : Time) :
    Agree List.Perm (db.listRelatedObjects ctx objectType objectID relation now)
      (s.listRelatedObjects ctx objectType objectID relation now)
  expand (objectType objectID relation : String) (now : Time) :
    Agree SameTree (db.expand ctx objectType objectID relation now)
      (s.expand ctx objectType objectID relation now)
  countTuples (clock : Clock) : db.countTuples ctx (clock 0) = s.countTuples ctx clock

/-- A database and a store that hold the same tuples of a tenant answer its reads alike. -/
theorem reads_alike (unmarshal : J → Except String (AnyMap V)) (db : Database J)
    (s : Memory.Store V) (ctx : Context V)
    (related : ∀ tc ∈ ctx, Related unmarshal tc.tenantID db s) : ReadsAlike unmarshal db s ctx where
  readTuples := readTuples_alike related
  checkDirect := checkDirect_alike related
  listSubjects := listSubjects_alike related
  listRelatedObjects := listRelatedObjects_alike related
  expand := expand_alike related
  countTuples := countTuples_alike related

/-- A row for a grant that expires, without attributes. -/
def annRow : TupleRow Unit where
  tenantID := ⟨"acme", fits_acme⟩
  objectType := ⟨"doc", fits_doc⟩
  objectID := ⟨"1", fits_one⟩
  relation := ⟨"viewer", fits_viewer⟩
  subjectType := ⟨"user", fits_user⟩
  subjectID := ⟨"ann", by decide⟩
  subjectRelation := none
  subjectTenantID := none
  sourceSystem := none
  externalID := none
  attributes := ()
  expiresAt := some 5
  createdAt := 0
  updatedAt := 0
  deletedAt := none

/-- The database of an active tenant with that row, and a deleted one beside it. -/
def annDatabase : Database Unit where
  tenants := [{ id := ⟨"acme", fits_acme⟩, status := .active, deletedAt := none }]
  tuples := ⟨[{ annRow with deletedAt := some 1 }, annRow], by
    refine List.pairwise_pair.mpr fun deleted => ?_
    cases deleted⟩
  changelog := []
  sequence := 0

/-- The tuple of that row. -/
def annTuple : RelationTuple Bool :=
  { fact "doc" "1" "viewer" "user" "ann" with tenantID := "acme", expiresAt := some 5 }

/-- It is read from the database as from a store that holds the tuple. -/
theorem reads_alike_ann :
    ReadsAlike (fun _ => .ok (some ∅)) annDatabase (acmeStore [annTuple]) (some acme) := by
  refine reads_alike _ annDatabase (acmeStore [annTuple]) (some acme) ?_
  intro tc given
  obtain rfl : acme = tc := Option.some.inj given
  -- The row that is not deleted matches the tuple, whose nil attributes are read as an empty map.
  have matched : annRow.Matches (fun _ => .ok (some ∅)) annTuple :=
    ⟨rfl, rfl, rfl, rfl, rfl, rfl, rfl, rfl, rfl, rfl, ⟨some ∅, rfl, List.Perm.refl _⟩, rfl, rfl,
      rfl⟩
  exact ⟨by decide +kernel, [annTuple], List.Perm.refl _, .cons matched .nil⟩

end ZanGuard.Postgres
