import ZanGuard.Proofs.Storage.Batch
import ZanGuard.Proofs.Storage.Sequences

/-! When the text that identifies a tuple is as good as its six fields. -/

namespace ZanGuard

open Memory

variable {V P : Type}

namespace Memory

/-! ### Stored tuples have distinct texts -/

/-- No two stored tuples of a tenant have the same text. -/
def Store.DistinctKeys (s : Store V) (tenantID : String) : Prop :=
  ((s.tuplesOf tenantID).map tupleIdentityKey).Nodup

section Distinct

variable {tenantID : String} {s : Store V}

/-- Creating a tenant keeps the tuples, or opens an empty bucket. -/
theorem createTenant_tuplesOf (s : Store V) (tenant : Tenant V) (clock : Clock) :
    (s.createTenant tenant clock).2.tuplesOf tenantID = s.tuplesOf tenantID ∨
      (s.createTenant tenant clock).2.tuplesOf tenantID = [] := by
  -- A tenant that is there already is refused, and a new one starts without tuples.
  unfold Store.createTenant
  split
  · -- The record is there.
    exact .inl rfl
  · simp only [Store.initTenant]
    split
    · -- The buckets are there.
      exact .inl rfl
    · by_cases mine : tenantID = tenant.id
      · subst mine
        exact .inr (by simp [Store.tuplesOf])
      · exact .inl (by simp [Store.tuplesOf, AList.lookup_insert_ne mine])

/-- Texts stay distinct when the tuples stay, or are all gone. -/
theorem Store.DistinctKeys.of_tuples {after : Store V} (distinct : s.DistinctKeys tenantID)
    (tuples : after.tuplesOf tenantID = s.tuplesOf tenantID ∨ after.tuplesOf tenantID = []) :
    after.DistinctKeys tenantID := by
  -- The invariant looks at the tuples only.
  unfold Store.DistinctKeys
  obtain same | empty := tuples
  · rw [same]
    exact distinct
  · rw [empty]
    exact List.nodup_nil

/-- A batch write keeps the texts distinct. -/
theorem writeTuplesLocked_distinct (distinct : s.DistinctKeys tenantID)
    (tuples : List (RelationTuple V)) (clock : Clock) :
    (s.writeTuplesLocked tenantID tuples clock).2.DistinctKeys tenantID := by
  -- A refused batch changes nothing, and a staged one finds its places.
  unfold Store.writeTuplesLocked
  split
  · -- The batch is empty.
    exact distinct
  · simp only
    split
    · -- The batch is refused.
      exact distinct
    · -- The batch is staged, placed and logged, and the log does not touch the tuples.
      rename_i staged ok
      obtain ⟨places, -⟩ := placeTuples_staged distinct rfl ok
      generalize placeTuples _ _ _ staged = both at places
      obtain ⟨kept, -⟩ := logInserts_replay
        { s with tuples := s.tuples.insert tenantID (both.1 ++ both.2) } tenantID clock 1 staged
      have stored : ({ s with tuples := s.tuples.insert tenantID (both.1 ++ both.2) } :
          Store V).tuplesOf tenantID = both.1 ++ both.2 := by
        simp [Store.tuplesOf]
      rw [Store.DistinctKeys, kept, stored]
      exact places

/-- A deletion keeps the texts distinct. -/
theorem deleteTuple_distinct (distinct : s.DistinctKeys tenantID) (tuple t : RelationTuple V)
    (timestamp : Time) :
    ({ s with
      tuples := s.tuples.insert tenantID ((s.tuplesOf tenantID).eraseP (sameIdentity · tuple))
    }.appendTupleChangelogUnsafe tenantID .delete t "api" timestamp).DistinctKeys tenantID := by
  -- What is left is a part of what there was.
  have left : ((s.tuplesOf tenantID).eraseP (sameIdentity · tuple)).Sublist (s.tuplesOf tenantID) :=
    List.eraseP_sublist
  simpa [Store.DistinctKeys, Store.appendTupleChangelogUnsafe, Store.tuplesOf] using
    distinct.sublist (left.map tupleIdentityKey)

/-- A write keeps the texts distinct if its body does so for the tenant of the context. -/
theorem writing_distinct (distinct : s.DistinctKeys tenantID) {ctx : Context V}
    (owned : ctx.map (·.tenantID) = some tenantID) {body : String → Except Err Unit × Store V}
    (inside : (body tenantID).2.DistinctKeys tenantID) :
    (s.writing ctx body).2.DistinctKeys tenantID := by
  -- A write that is refused leaves the store as it was.
  cases ctx with
  | none => exact distinct
  | some tc =>
    obtain rfl : tc.tenantID = tenantID := by simpa using owned
    simp only [Store.writing, tenantIDFromCtx]
    split
    · exact distinct
    · exact inside

end Distinct

end Memory

section Step

variable {tenantID : String}

/-- An operation keeps the texts of a tenant's tuples distinct. -/
theorem step_distinct (lang : ExprLang V P) {sys : System V P}
    (distinct : sys.store.DistinctKeys tenantID) (op : Op V P) :
    (sys.step lang op).2.store.DistinctKeys tenantID := by
  -- An operation of the tenant itself goes through its own lemma.
  by_cases owned : op.owner = some tenantID
  · cases op with
    | createTenant tenant clock => exact distinct.of_tuples (createTenant_tuplesOf _ tenant clock)
    | updateTenant tenant clock =>
      exact distinct.of_tuples
        (.inl (congrArg TenantData.tuples (updateTenant_data sys.store tenant clock)))
    | writeTuple ctx tuple clock =>
      exact writing_distinct distinct owned (writeTuplesLocked_distinct distinct [tuple] clock)
    | writeTuples ctx tuples clock =>
      exact writing_distinct distinct owned (writeTuplesLocked_distinct distinct tuples clock)
    | deleteTuple ctx tuple clock =>
      refine writing_distinct distinct owned ?_
      dsimp only
      split
      · -- Nothing is found to delete.
        exact distinct
      · exact deleteTuple_distinct distinct tuple _ (clock 0)
    | setObjectAttributes ctx objectType objectID attrs =>
      refine writing_distinct distinct owned ?_
      split
      · exact distinct
      · exact distinct
    | setSubjectAttributes ctx subjectType subjectID attrs =>
      refine writing_distinct distinct owned ?_
      split
      · exact distinct
      · exact distinct
    | appendChangelog ctx entry clock => exact writing_distinct distinct owned distinct
    -- A purge leaves no tuples at all.
    | purgeTenantData ctx =>
      obtain ⟨tc, rfl, rfl⟩ := Option.map_eq_some_iff.mp owned
      exact distinct.of_tuples
        (.inr (congrArg TenantData.tuples (purgeTenantData_data sys.store tc)))
    | _ => exact distinct
  · -- An operation of another tenant does not reach these tuples.
    exact distinct.of_tuples (.inl (congrArg TenantData.tuples (step_foreign_data lang owned)))

/-- A command keeps the texts of a tenant's tuples distinct. -/
theorem obey_distinct (lang : ExprLang V P) {sys : System V P}
    (distinct : sys.store.DistinctKeys tenantID) (command : Command V P) :
    (sys.obey lang command).2.store.DistinctKeys tenantID := by
  -- The lifecycle calls keep all tuples, and the rest but the operations read.
  have kept : ∀ (clock : Clock) (check : TenantStatus → Except Err Unit) (status : TenantStatus)
      (id : String), ((Manager.transition (tupleStore clock) check status id).run.run
        sys.store).2.DistinctKeys tenantID := fun clock check status id =>
    distinct.of_tuples (.inl (congrArg TenantData.tuples
      (transition_data sys.store clock check status id)))
  cases command with
  -- The manager creates a tenant through the store, or stops before.
  | create id displayName mode clock =>
    obtain same | ⟨tenant, same⟩ := create_run sys.store (fun n => clock (n + 1)) id displayName mode
      (clock 0)
    · simp only [System.obey, System.manage, same]
      exact distinct
    · simp only [System.obey, System.manage, same]
      exact distinct.of_tuples (createTenant_tuplesOf _ tenant _)
  | activate id clock => exact kept clock _ _ id
  | suspend id clock => exact kept clock _ _ id
  | delete id clock => exact kept clock _ _ id
  | op op => exact step_distinct lang distinct op
  | _ => exact distinct

/-- In every state that is reached, the texts of a tenant's tuples are distinct. -/
theorem final_distinct (lang : ExprLang V P) (cfg : Config) (commands : List (Command V P))
    (tenantID : String) :
    ((deployment lang).final (System.new cfg) commands).store.DistinctKeys tenantID := by
  -- At first there is no tuple at all.
  have start : (System.new cfg : System V P).store.DistinctKeys tenantID := List.nodup_nil
  -- Whatever is commanded, the invariant is kept.
  have preserved : ∀ (sys : System V P) (command : Command V P), True →
      sys.store.DistinctKeys tenantID →
        ((deployment lang).step sys command).2.store.DistinctKeys tenantID :=
    fun _ command _ distinct => obey_distinct lang distinct command
  let inv : System V P → Prop := fun sys => sys.store.DistinctKeys tenantID
  have kept : inv ((deployment lang).final (System.new cfg) commands) :=
    Machine.final_invariant preserved start fun _ _ => trivial
  exact kept

end Step

namespace Memory

/-! ### Writing one tuple -/

section Write

variable {now : Time} {tenantID : String} {s : Store V} {t : RelationTuple V}

/-- Tuples that agree in the six fields have the same text. -/
theorem key_of_sameIdentity {u t : RelationTuple V} (same : sameIdentity u t = true) :
    tupleIdentityKey u = tupleIdentityKey t := by
  -- The text is made of the six fields.
  simp only [sameIdentity, Bool.and_eq_true, beq_iff_eq] at same
  obtain ⟨⟨⟨⟨⟨objectType, objectID⟩, relation⟩, subjectType⟩, subjectID⟩, subjectRelation⟩ := same
  simp only [tupleIdentityKey, objectType, objectID, relation, subjectType, subjectID,
    subjectRelation]

/-- Writing one tuple puts it, and is refused when its text is taken. -/
theorem writeTuplesLocked_single (s : Store V) (tenantID : String) (t : RelationTuple V)
    (clock : Clock) :
    (Free (clock 0) (s.tuplesOf tenantID) (tupleIdentityKey t) →
      (s.writeTuplesLocked tenantID [t] clock).1 = .ok () ∧
        (s.writeTuplesLocked tenantID [t] clock).2.tuplesOf tenantID =
          putTuple (clock 0) (s.tuplesOf tenantID) (stageTuple tenantID (clock 0) t)) ∧
      (¬ Free (clock 0) (s.tuplesOf tenantID) (tupleIdentityKey t) →
        s.writeTuplesLocked tenantID [t] clock = (.error .duplicateTuple, s)) := by
  constructor
  · -- A free text is not filed, so the one tuple of the batch is staged.
    intro free
    have unfiled := free_iff.mp free
    have staged : stageTuples tenantID (clock 0)
        (indexOf (clock 0) (s.tuplesOf tenantID)).existingKeys [] [t] =
          .ok [stageTuple tenantID (clock 0) t] := by
      refine stageTuples_eq ?_ (List.nodup_singleton _)
      intro u member
      rw [List.mem_singleton.mp member]
      exact ⟨unfiled, List.not_mem_nil⟩
    -- The tuple goes where its text is filed, or to the end.
    have placed : ∀ both, placeTuples (indexOf (clock 0) (s.tuplesOf tenantID)).expiredIndexes
        (s.tuplesOf tenantID) [] [stageTuple tenantID (clock 0) t] = both →
          both.1 ++ both.2 =
            putTuple (clock 0) (s.tuplesOf tenantID) (stageTuple tenantID (clock 0) t) := by
      rintro both rfl
      simp only [placeTuples, expiredIndexes_eq, putTuple]
      cases List.findIdx? _ (s.tuplesOf tenantID) with
      -- The tuple comes last.
      | none => rfl
      -- The tuple replaces the one at a place, and nothing is appended.
      | some i => exact List.append_nil _
    unfold Store.writeTuplesLocked
    simp only [List.isEmpty_cons, Bool.false_eq_true, if_false, staged]
    refine ⟨trivial, ?_⟩
    rw [← placed _ rfl, (logInserts_replay _ tenantID clock 1 _).1]
    simp [Store.tuplesOf]
  · -- A taken text is filed, so staging refuses it.
    intro taken
    have filed : tupleIdentityKey t ∈
        (indexOf (clock 0) (s.tuplesOf tenantID)).existingKeys := by
      by_contra unfiled
      exact taken (free_iff.mpr unfiled)
    have refused : stageTuples tenantID (clock 0)
        (indexOf (clock 0) (s.tuplesOf tenantID)).existingKeys [] [t] = .error .duplicateTuple := by
      simp only [stageTuples, if_pos filed]
      rfl
    unfold Store.writeTuplesLocked
    simp only [List.isEmpty_cons, Bool.false_eq_true, if_false, refused]

/-- Putting a tuple leaves the tuples with another text where they are. -/
theorem getElem?_putTuple {stored : List (RelationTuple V)} {u : RelationTuple V} {i : Nat}
    (there : stored[i]? = some u) (other : tupleIdentityKey u ≠ tupleIdentityKey t) :
    (putTuple now stored t)[i]? = some u := by
  unfold putTuple
  split
  · -- The slot that is taken over holds the text of the new tuple.
    rename_i j found
    have apart : j ≠ i := by
      rintro rfl
      obtain ⟨bound, here, -⟩ := List.findIdx?_eq_some_iff_getElem.mp found
      rw [List.getElem?_eq_getElem bound] at there
      obtain rfl := Option.some.inj there
      exact other (beq_iff_eq.mp (Bool.and_eq_true_iff.mp here).2)
    rw [List.getElem?_set_ne apart]
    exact there
  · -- Appending leaves all places as they are.
    obtain ⟨bound, -⟩ := List.getElem?_eq_some_iff.mp there
    rw [List.getElem?_append_left bound]
    exact there

/-- A tuple that was put is there. -/
theorem mem_putTuple (stored : List (RelationTuple V)) (t : RelationTuple V) :
    t ∈ putTuple now stored t := by
  -- It takes the place of the tuple that was found, or comes last.
  unfold putTuple
  split
  · rename_i i found
    exact List.mem_set (List.findIdx?_eq_some_iff_getElem.mp found).1 t
  · exact List.mem_append_right _ (List.mem_singleton_self t)

end Write

end Memory

/-! ### When duplicates are found exactly -/

/--
A tuple is refused as a duplicate exactly when a live stored tuple has its six fields.

Where it is written, every stored tuple that differs from it in a field stays in its place.
-/
def DuplicatesExact (s : Store V) (tc : TenantContext V) (t : RelationTuple V) (clock : Clock) :
    Prop :=
  ((s.writeTuple (some tc) t clock).1 = .error .duplicateTuple ↔
    ∃ u ∈ s.tuplesOf tc.tenantID, tupleIsExpiredAt u (clock 0) = false ∧ sameIdentity u t = true) ∧
  ((s.writeTuple (some tc) t clock).1 = .ok () →
    ∀ (i : Nat) u, (s.tuplesOf tc.tenantID)[i]? = some u → sameIdentity u t = false →
      ((s.writeTuple (some tc) t clock).2.tuplesOf tc.tenantID)[i]? = some u)

/-- The stored tuples with the text of a tuple agree with it in the six fields. -/
def Unmistakable (s : Store V) (tenantID : String) (t : RelationTuple V) : Prop :=
  ∀ u ∈ s.tuplesOf tenantID, tupleIdentityKey u = tupleIdentityKey t → sameIdentity u t = true

instance (s : Store V) (tenantID : String) (t : RelationTuple V) :
    Decidable (Unmistakable s tenantID t) :=
  inferInstanceAs (Decidable (∀ u ∈ s.tuplesOf tenantID, _ → _))

/--
In every state that is reached, duplicates of a tuple are found exactly when its text is its own.

The tenant is active, and the clock and the tuple are arbitrary.
-/
theorem duplicates_exact_iff (lang : ExprLang V P) (cfg : Config) (commands : List (Command V P))
    (tc : TenantContext V) (tenant : Tenant V) (t : RelationTuple V) (clock : Clock)
    (stored : ((deployment lang).final (System.new cfg) commands).store.tenants.lookup tc.tenantID =
      some tenant) (active : tenant.status = .active) :
    DuplicatesExact ((deployment lang).final (System.new cfg) commands).store tc t clock ↔
      Unmistakable ((deployment lang).final (System.new cfg) commands).store tc.tenantID t := by
  have distinct := final_distinct lang cfg commands tc.tenantID
  generalize ((deployment lang).final (System.new cfg) commands).store = s at stored distinct
  have locked : s.writeTuple (some tc) t clock = s.writeTuplesLocked tc.tenantID [t] clock :=
    Store.writing_active stored active _
  obtain ⟨writes, refuses⟩ := writeTuplesLocked_single s tc.tenantID t clock
  unfold DuplicatesExact
  rw [locked]
  constructor
  · -- If duplicates are exact, no stored tuple shares the text and differs in a field.
    rintro ⟨refused, kept⟩ u member same
    by_contra differs
    have differs : sameIdentity u t = false := by simpa using differs
    obtain ⟨i, there⟩ := List.mem_iff_getElem?.mp member
    by_cases free : Free (clock 0) (s.tuplesOf tc.tenantID) (tupleIdentityKey t)
    · -- The tuple is written over the other one, or stands beside it with the same text.
      obtain ⟨ok, put⟩ := writes free
      have after := writeTuplesLocked_distinct distinct [t] clock
      have old := List.mem_of_getElem? (kept ok i u there differs)
      rw [Store.DistinctKeys] at after
      rw [put] at after old
      have one : u = stageTuple tc.tenantID (clock 0) t :=
        List.inj_on_of_nodup_map after old (mem_putTuple _ _) same
      subst one
      simp [sameIdentity, stageTuple] at differs
    · -- The tuple is refused, so some live tuple has its fields, and with them its text.
      obtain ⟨v, among, -, fields⟩ := refused.mp (congrArg Prod.fst (refuses free))
      have one : u = v :=
        List.inj_on_of_nodup_map distinct member among (same.trans (key_of_sameIdentity fields).symm)
      rw [one, fields] at differs
      cases differs
  · -- If the text is the tuple's own, both halves follow from what a single write does.
    intro exact_
    constructor
    · constructor
      · intro refused
        -- What is refused is not free, so a live tuple has its text.
        by_contra none_live
        have free : Free (clock 0) (s.tuplesOf tc.tenantID) (tupleIdentityKey t) := by
          intro u member same
          by_contra live
          exact none_live ⟨u, member, by simpa using live, exact_ u member same⟩
        rw [(writes free).1] at refused
        cases refused
      · -- A live tuple with the fields has the text, so the text is not free.
        rintro ⟨u, member, live, fields⟩
        have taken : ¬ Free (clock 0) (s.tuplesOf tc.tenantID) (tupleIdentityKey t) := by
          intro free
          rw [free u member (key_of_sameIdentity fields)] at live
          cases live
        rw [refuses taken]
    · -- What is written was free, and is put over no tuple that differs in a field.
      intro ok i u there differs
      have free : Free (clock 0) (s.tuplesOf tc.tenantID) (tupleIdentityKey t) := by
        by_contra taken
        rw [refuses taken] at ok
        cases ok
      rw [(writes free).2]
      refine getElem?_putTuple there fun same => ?_
      rw [exact_ u (List.mem_of_getElem? there) same] at differs
      cases differs

/-- A tenant writes a tuple of an object whose type has a colon. -/
def colonRun : List (Command Bool Bool) :=
  [.op (.createTenant acme.tenant fun _ => 1),
   .op (.writeTuple (some acme) (fact "a:b" "c" "viewer" "user" "u") fun _ => 2)]

/-- A tuple with another text is not mistaken for it. -/
theorem duplicates_exact_iff_colonRun :
    DuplicatesExact ((deployment literalLang).final (System.new defaultConfig) colonRun).store acme
        (fact "a" "c" "viewer" "user" "u") (fun _ => 3) ↔
      Unmistakable ((deployment literalLang).final (System.new defaultConfig) colonRun).store "acme"
        (fact "a" "c" "viewer" "user" "u") :=
  duplicates_exact_iff literalLang defaultConfig colonRun acme { acme.tenant with
    createdAt := 1, updatedAt := 1 } _ _ (by decide +kernel) rfl

/-- A tuple whose object ID has the colon instead is refused, and no stored tuple has its fields. -/
theorem colon_taken_for_duplicate :
    ¬ DuplicatesExact ((deployment literalLang).final (System.new defaultConfig) colonRun).store
      acme (fact "a" "b:c" "viewer" "user" "u") fun _ => 3 := by
  -- The write is refused, and yet no stored tuple has its six fields.
  rintro ⟨refused, -⟩
  have duplicate := refused.mp (by decide +kernel)
  revert duplicate
  decide +kernel

end ZanGuard
