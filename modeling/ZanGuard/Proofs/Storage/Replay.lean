import ZanGuard.Lib.Keyed
import ZanGuard.Proofs.Storage.Isolation

/-! The stored tuples of a tenant are what its changelog replays to. -/

namespace ZanGuard.Memory

open Keyed

variable {V P : Type}

/-- What one changelog entry does to a map from identity keys to tuples. -/
def replayEntry (map : String → Option (RelationTuple V)) (entry : ChangelogEntry V) :
    String → Option (RelationTuple V) :=
  match entry.operation with
  | .insert => Function.update map (tupleIdentityKey entry.tuple) (some entry.tuple)
  | .delete => Function.update map (tupleIdentityKey entry.tuple) none
  | .update | .other _ => map

/-- Fold a changelog in order, from the empty map. -/
def replay (log : List (ChangelogEntry V)) : String → Option (RelationTuple V) :=
  log.foldl replayEntry fun _ => none

/-- Tuples with distinct keys that are what a changelog replays to. -/
structure FoldOf (tuples : List (RelationTuple V)) (log : List (ChangelogEntry V)) : Prop where
  distinct : (tuples.map tupleIdentityKey).Nodup
  replayed : get tupleIdentityKey tuples = replay log

theorem FoldOf.empty : FoldOf ([] : List (RelationTuple V)) [] where
  distinct := by simp
  replayed := rfl

section Index

variable {now : Time}

/-- Whether a stored tuple has expired under a key. -/
def expiredUnder (now : Time) (key : String) (t : RelationTuple V) : Bool :=
  tupleIsExpiredAt t now && tupleIdentityKey t == key

/-- A key is filed as existing when a live stored tuple has it. -/
theorem mem_existingKeys {index : TupleIndex} {i : Nat} {stored : List (RelationTuple V)}
    {k : String} :
    k ∈ (TupleIndex.build now index i stored).existingKeys ↔
      k ∈ index.existingKeys ∨
        ∃ t ∈ stored, tupleIsExpiredAt t now = false ∧ tupleIdentityKey t = k := by
  -- By induction on the stored tuples, with the index built so far.
  induction stored generalizing index i with
  | nil => simp [TupleIndex.build]
  | cons t rest ih =>
    rw [TupleIndex.build, ih]
    cases expired : tupleIsExpiredAt t now with
    | true =>
      -- An expired tuple is filed under its position and adds no existing key.
      have filed : (index.file now i t).existingKeys = index.existingKeys := by
        simp only [TupleIndex.file, expired, if_true]
        split <;> rfl
      simp [filed, expired]
    | false =>
      have filed : (index.file now i t).existingKeys =
          tupleIdentityKey t :: index.existingKeys := by
        simp [TupleIndex.file, expired]
      rw [filed]
      simp only [List.mem_cons, exists_eq_or_imp, expired, true_and]
      constructor
      · rintro ((rfl | old) | later)
        · exact .inr (.inl rfl)
        · exact .inl old
        · exact .inr (.inr later)
      · rintro (old | rfl | later)
        · exact .inl (.inr old)
        · exact .inl (.inl rfl)
        · exact .inr later

/-- A key is filed under the position of the first expired tuple that has it. -/
theorem expiredIndexes_lookup {index : TupleIndex} {i : Nat} {stored : List (RelationTuple V)}
    {k : String} :
    (TupleIndex.build now index i stored).expiredIndexes.lookup k =
      (index.expiredIndexes.lookup k).or ((stored.findIdx? (expiredUnder now k)).map (· + i)) := by
  -- By induction on the stored tuples; positions count on from the first one.
  induction stored generalizing index i with
  | nil => simp [TupleIndex.build]
  | cons t rest ih =>
    rw [TupleIndex.build, ih, List.findIdx?_cons]
    have shift : ∀ found : Option Nat,
        (found.map (· + 1)).map (· + i) = found.map (· + (i + 1)) := by
      intro found
      rw [Option.map_map]
      refine congrArg (Option.map · found) (funext fun j => ?_)
      simp only [Function.comp_apply]
      omega
    by_cases here : expiredUnder now k t = true
    · -- The tuple is filed here unless an earlier one has its key.
      obtain ⟨expired, same⟩ := Bool.and_eq_true_iff.mp here
      obtain rfl := beq_iff_eq.mp same
      rw [if_pos here]
      cases before : index.expiredIndexes.lookup (tupleIdentityKey t) with
      | some j => simp [TupleIndex.file, expired, before]
      | none => simp [TupleIndex.file, expired, before]
    · -- A live tuple is not filed, and another key does not matter.
      have kept : (index.file now i t).expiredIndexes.lookup k =
          index.expiredIndexes.lookup k := by
        simp only [TupleIndex.file]
        split
        · rename_i expired
          have other : k ≠ tupleIdentityKey t := by
            rintro rfl
            exact here (by simp [expiredUnder, expired])
          split
          · rfl
          · exact AList.lookup_insert_ne other
        · rfl
      rw [if_neg here, kept, shift]

end Index

/-- A batch that was staged has distinct keys, none of them existing or met before. -/
theorem stageTuples_ok {tenantID : String} {now : Time} {existing batch : List String}
    {tuples staged : List (RelationTuple V)}
    (ok : stageTuples tenantID now existing batch tuples = .ok staged) :
    (staged.map tupleIdentityKey).Nodup ∧
      ∀ t ∈ staged, tupleIdentityKey t ∉ existing ∧ tupleIdentityKey t ∉ batch := by
  -- By induction on the batch, with the keys met so far.
  induction tuples generalizing batch staged with
  | nil =>
    obtain rfl := Except.ok.inj ok
    simp
  | cons tuple rest ih =>
    simp only [stageTuples] at ok
    by_cases live : tupleIdentityKey tuple ∈ existing
    · simp [live, throw, throwThe, MonadExceptOf.throw, bind, Except.bind] at ok
    · by_cases twice : tupleIdentityKey tuple ∈ batch
      · simp [live, twice, throw, throwThe, MonadExceptOf.throw, bind, Except.bind] at ok
      · rw [if_neg live, if_neg twice] at ok
        cases later : stageTuples tenantID now existing (tupleIdentityKey tuple :: batch) rest with
        | error e => simp [later, bind, Except.bind] at ok
        | ok others =>
          simp only [later, bind, Except.bind, pure, Except.pure, Except.ok.injEq] at ok
          subst ok
          obtain ⟨distinct, fresh⟩ := ih later
          -- Staging rewrites the tenant and the timestamps, which are not part of the key.
          have key : tupleIdentityKey (stageTuple tenantID now tuple) = tupleIdentityKey tuple := rfl
          constructor
          · rw [List.map_cons, List.nodup_cons, key]
            refine ⟨?_, distinct⟩
            intro member
            obtain ⟨t, among, same⟩ := List.mem_map.mp member
            exact (fresh t among).2 (same ▸ List.mem_cons_self)
          · intro t member
            rcases List.mem_cons.mp member with rfl | member
            · exact ⟨live, twice⟩
            · exact ⟨(fresh t member).1, fun old => (fresh t member).2 (List.mem_cons_of_mem _ old)⟩

/-- Placing a batch puts every tuple of it into the map, and keeps the keys distinct. -/
theorem placeTuples_spec {expiredIndexes : StringMap Nat} {keys : List String}
    {slots appends staged : List (RelationTuple V)} (kept : slots.map tupleIdentityKey = keys)
    (positions : ∀ k i, expiredIndexes.lookup k = some i → keys[i]? = some k)
    (unfiled : ∀ t ∈ staged, expiredIndexes.lookup (tupleIdentityKey t) = none →
      tupleIdentityKey t ∉ keys)
    (distinct : ((slots ++ appends).map tupleIdentityKey).Nodup)
    (batch : (staged.map tupleIdentityKey).Nodup)
    (fresh : ∀ t ∈ staged, tupleIdentityKey t ∉ appends.map tupleIdentityKey) :
    let placed := placeTuples expiredIndexes slots appends staged
    ((placed.1 ++ placed.2).map tupleIdentityKey).Nodup ∧
      get tupleIdentityKey (placed.1 ++ placed.2) =
        putAll tupleIdentityKey (get tupleIdentityKey (slots ++ appends)) staged := by
  -- By induction on the batch: a tuple replaces an expired one or goes to the end.
  induction staged generalizing slots appends with
  | nil => exact ⟨distinct, rfl⟩
  | cons t rest ih =>
    rw [List.map_cons, List.nodup_cons] at batch
    have unfiledRest : ∀ u ∈ rest, expiredIndexes.lookup (tupleIdentityKey u) = none →
        tupleIdentityKey u ∉ keys := fun u member => unfiled u (List.mem_cons_of_mem _ member)
    simp only [placeTuples]
    cases filed : expiredIndexes.lookup (tupleIdentityKey t) with
    | some i =>
      -- The slot holds a tuple with this key, so replacing it keeps the keys of the list.
      have there := positions _ i filed
      have same : (slots.map tupleIdentityKey)[i]? = some (tupleIdentityKey t) := by
        rw [kept, there]
      have unchanged := map_key_set same
      obtain ⟨old, held, key⟩ : ∃ old, slots[i]? = some old ∧
          tupleIdentityKey old = tupleIdentityKey t := by
        simpa using same
      have bound : i < slots.length := (List.getElem?_eq_some_iff.mp held).1
      have whole : slots.set i t ++ appends = (slots ++ appends).set i t :=
        (List.set_append_left i t bound).symm
      have heldWhole : (slots ++ appends)[i]? = some old := by
        rw [List.getElem?_append_left bound, held]
      have step := ih (unchanged.trans kept) unfiledRest
        (by rw [List.map_append, unchanged, ← List.map_append]; exact distinct) batch.2
        (fun u member => fresh u (List.mem_cons_of_mem _ member))
      refine ⟨step.1, step.2.trans ?_⟩
      rw [whole, get_set distinct heldWhole key]
      rfl
    | none =>
      -- No stored tuple has this key, and no tuple of the batch before this one.
      have missing : tupleIdentityKey t ∉ (slots ++ appends).map tupleIdentityKey := by
        rw [List.map_append, List.mem_append, kept]
        rintro (stored | appended)
        · exact unfiled t List.mem_cons_self filed stored
        · exact fresh t List.mem_cons_self appended
      have distinctNext : ((slots ++ (appends ++ [t])).map tupleIdentityKey).Nodup := by
        rw [← List.append_assoc, List.map_append, List.nodup_append]
        refine ⟨distinct, by simp, ?_⟩
        intro k member other single
        obtain rfl : other = tupleIdentityKey t := by simpa using single
        exact fun same => missing (same ▸ member)
      have freshNext : ∀ u ∈ rest, tupleIdentityKey u ∉ (appends ++ [t]).map tupleIdentityKey := by
        intro u member
        rw [List.map_append, List.mem_append]
        rintro (appended | single)
        · exact fresh u (List.mem_cons_of_mem _ member) appended
        · have same : tupleIdentityKey u = tupleIdentityKey t := by simpa using single
          exact batch.1 (List.mem_map.mpr ⟨u, member, same⟩)
      have step := ih kept unfiledRest distinctNext batch.2 freshNext
      refine ⟨step.1, step.2.trans ?_⟩
      rw [← List.append_assoc, get_append_new missing]
      rfl

/-- Adding an entry to a log adds its effect to the replay. -/
theorem replay_append (log : List (ChangelogEntry V)) (entry : ChangelogEntry V) :
    replay (log ++ [entry]) = replayEntry (replay log) entry := by
  simp [replay]

/-- Logging one change adds one entry and keeps the tuples. -/
theorem appendTupleChangelogUnsafe_log (s : Store V) (tenantID : String) (op : ChangeOp)
    (tuple : RelationTuple V) (source : String) (timestamp : Time) :
    (s.appendTupleChangelogUnsafe tenantID op tuple source timestamp).tuplesOf tenantID =
        s.tuplesOf tenantID ∧
      ∃ entry, entry.operation = op ∧ entry.tuple = tuple ∧
        (s.appendTupleChangelogUnsafe tenantID op tuple source timestamp).changelogOf tenantID =
          s.changelogOf tenantID ++ [entry] := by
  let entry : ChangelogEntry V :=
    { sequence := s.seqOf tenantID + 1, tenantID, operation := op, tuple, timestamp, source }
  refine ⟨rfl, entry, rfl, rfl, ?_⟩
  simp [entry, Store.appendTupleChangelogUnsafe, Store.changelogOf]

/-- Logging a batch adds its tuples to the replay and keeps the stored ones. -/
theorem logInserts_replay (s : Store V) (tenantID : String) (clock : Clock) (i : Nat)
    (staged : List (RelationTuple V)) :
    (s.logInserts tenantID clock i staged).tuplesOf tenantID = s.tuplesOf tenantID ∧
      replay ((s.logInserts tenantID clock i staged).changelogOf tenantID) =
        putAll tupleIdentityKey (replay (s.changelogOf tenantID)) staged := by
  -- By induction on the batch; each entry puts its tuple under its key.
  induction staged generalizing s i with
  | nil => exact ⟨rfl, rfl⟩
  | cons t rest ih =>
    obtain ⟨tuples, entry, op, tuple, log⟩ :=
      appendTupleChangelogUnsafe_log s tenantID .insert t "api" (clock i)
    obtain ⟨kept, replayed⟩ :=
      ih (s.appendTupleChangelogUnsafe tenantID .insert t "api" (clock i)) (i + 1)
    refine ⟨kept.trans tuples, replayed.trans ?_⟩
    rw [log, replay_append, replayEntry, op, tuple]
    rfl

/-- A staged batch finds its place among stored tuples with distinct keys. -/
theorem placeTuples_staged {tenantID : String} {now : Time}
    {stored tuples staged : List (RelationTuple V)}
    (distinct : (stored.map tupleIdentityKey).Nodup) {index : TupleIndex}
    (built : index = TupleIndex.build now { existingKeys := [], expiredIndexes := ∅ } 0 stored)
    (ok : stageTuples tenantID now index.existingKeys [] tuples = .ok staged) :
    let placed := placeTuples index.expiredIndexes stored [] staged
    ((placed.1 ++ placed.2).map tupleIdentityKey).Nodup ∧
      get tupleIdentityKey (placed.1 ++ placed.2) =
        putAll tupleIdentityKey (get tupleIdentityKey stored) staged := by
  obtain ⟨batch, fresh⟩ := stageTuples_ok ok
  -- A filed position holds its key, and an unfiled key of the batch is stored nowhere.
  have positions : ∀ k i, index.expiredIndexes.lookup k = some i →
      (stored.map tupleIdentityKey)[i]? = some k := by
    intro k i filed
    simp only [built, expiredIndexes_lookup, AList.lookup_empty, Option.none_or, Nat.add_zero,
      Option.map_id_fun', id] at filed
    obtain ⟨bound, here, -⟩ := List.findIdx?_eq_some_iff_getElem.mp filed
    have same := beq_iff_eq.mp (Bool.and_eq_true_iff.mp here).2
    simp [List.getElem?_eq_getElem bound, same]
  have unfiled : ∀ t ∈ staged, index.expiredIndexes.lookup (tupleIdentityKey t) = none →
      tupleIdentityKey t ∉ stored.map tupleIdentityKey := by
    intro t member missing held
    obtain ⟨old, among, same⟩ := List.mem_map.mp held
    simp only [built, expiredIndexes_lookup, AList.lookup_empty, Option.none_or,
      Option.map_eq_none_iff] at missing
    rw [built] at fresh
    cases expired : tupleIsExpiredAt old now with
    | true =>
      have none := List.findIdx?_eq_none_iff.mp missing old among
      simp [expiredUnder, expired, same] at none
    | false => exact (fresh t member).1 (mem_existingKeys.mpr (.inr ⟨old, among, expired, same⟩))
  have whole : ((stored ++ []).map tupleIdentityKey).Nodup := by rwa [List.append_nil]
  have placed := placeTuples_spec rfl positions unfiled whole batch (by simp)
  rwa [List.append_nil] at placed

/-- A batch write keeps the stored tuples the fold of the log. -/
theorem writeTuplesLocked_fold {s : Store V} {tenantID : String}
    (fold : FoldOf (s.tuplesOf tenantID) (s.changelogOf tenantID))
    (tuples : List (RelationTuple V)) (clock : Clock) :
    FoldOf ((s.writeTuplesLocked tenantID tuples clock).2.tuplesOf tenantID)
      ((s.writeTuplesLocked tenantID tuples clock).2.changelogOf tenantID) := by
  -- A refused batch changes neither the tuples nor the log.
  unfold Store.writeTuplesLocked
  split
  · exact fold
  · simp only
    split
    · exact fold
    · rename_i staged ok
      obtain ⟨distinct, placed⟩ := placeTuples_staged fold.distinct rfl ok
      generalize placeTuples _ _ _ staged = both at distinct placed
      -- The log is written after the tuples, and replays to the same puts.
      obtain ⟨kept, replayed⟩ := logInserts_replay
        { s with tuples := s.tuples.insert tenantID (both.1 ++ both.2) } tenantID clock 1 staged
      have stored : ({ s with tuples := s.tuples.insert tenantID (both.1 ++ both.2) } :
          Store V).tuplesOf tenantID = both.1 ++ both.2 := by
        simp [Store.tuplesOf]
      refine ⟨?_, ?_⟩
      · rw [kept, stored]
        exact distinct
      · rw [kept, stored, replayed, placed, fold.replayed]
        rfl

/-- A deletion keeps the stored tuples the fold of the log. -/
theorem deleteTuple_fold {s : Store V} {tenantID : String}
    (fold : FoldOf (s.tuplesOf tenantID) (s.changelogOf tenantID)) {tuple t : RelationTuple V}
    (found : (s.tuplesOf tenantID).find? (sameIdentity · tuple) = some t) (timestamp : Time) :
    let s' := { s with
      tuples := s.tuples.insert tenantID ((s.tuplesOf tenantID).eraseP (sameIdentity · tuple)) }
    FoldOf ((s'.appendTupleChangelogUnsafe tenantID .delete t "api" timestamp).tuplesOf tenantID)
      ((s'.appendTupleChangelogUnsafe tenantID .delete t "api" timestamp).changelogOf tenantID) := by
  -- Erasing the first match erases the key, since keys are distinct.
  intro s'
  obtain ⟨kept, entry, op, same, log⟩ :=
    appendTupleChangelogUnsafe_log s' tenantID .delete t "api" timestamp
  have stored : s'.tuplesOf tenantID = (s.tuplesOf tenantID).eraseP (sameIdentity · tuple) := by
    simp [s', Store.tuplesOf]
  have logged : s'.changelogOf tenantID = s.changelogOf tenantID := rfl
  refine ⟨?_, ?_⟩
  · rw [kept, stored]
    exact fold.distinct.sublist (List.eraseP_sublist.map _)
  · -- The logged tuple is the one that was erased, whatever else the caller passed in.
    rw [kept, stored, log, logged, replay_append, replayEntry, op, same,
      get_eraseP fold.distinct found, fold.replayed]

/-- A write keeps the fold of every tenant if its body does for the tenant of the context. -/
theorem writing_fold {s : Store V} {ctx : Context V} {body : String → Except Err Unit × Store V}
    {tenantID : String} (fold : FoldOf (s.tuplesOf tenantID) (s.changelogOf tenantID))
    (owned : ctx.map (·.tenantID) = some tenantID)
    (bodyFold : FoldOf ((body tenantID).2.tuplesOf tenantID)
      ((body tenantID).2.changelogOf tenantID)) :
    FoldOf ((s.writing ctx body).2.tuplesOf tenantID)
      ((s.writing ctx body).2.changelogOf tenantID) := by
  cases ctx with
  | none => exact fold
  | some tc =>
    obtain rfl : tc.tenantID = tenantID := by simpa using owned
    simp only [Store.writing, tenantIDFromCtx]
    split
    · exact fold
    · exact bodyFold

end ZanGuard.Memory

namespace ZanGuard

open Memory

variable {V P : Type}

/-- Every tenant's stored tuples are the fold of its changelog. -/
def System.FoldsLogs (sys : System V P) : Prop :=
  ∀ tenantID, FoldOf (sys.store.tuplesOf tenantID) (sys.store.changelogOf tenantID)

/-- The one call that writes changelog entries without writing tuples. -/
def Op.AppendsEntry : Op V P → Prop
  | .appendChangelog _ _ _ => True
  | _ => False

/-- A call that does not append entries by hand keeps the stored tuples the fold of the log. -/
theorem step_foldsLogs (lang : ExprLang V P) {sys : System V P} {op : Op V P}
    (plain : ¬ op.AppendsEntry) (folds : sys.FoldsLogs) :
    (System.step lang sys op).2.FoldsLogs := by
  -- Only the owner of the call can change this tenant's buckets.
  intro tenantID
  have fold := folds tenantID
  by_cases owned : op.owner = some tenantID
  · cases op with
    | createTenant t clock =>
      simp only [System.step, System.mutate, Store.createTenant]
      split
      · exact fold
      · obtain rfl : t.id = tenantID := by simpa [Op.owner] using owned
        simp only [Store.initTenant]
        split
        · exact fold
        · -- The new buckets are both empty, and an empty log replays to nothing.
          simpa [Store.tuplesOf, Store.changelogOf] using FoldOf.empty
    | updateTenant t clock =>
      simp only [System.step, System.mutate, Store.updateTenant]
      split
      · exact fold
      · exact fold
    | writeTuple ctx tuple clock =>
      exact writing_fold fold owned (writeTuplesLocked_fold fold _ _)
    | writeTuples ctx tuples clock =>
      exact writing_fold fold owned (writeTuplesLocked_fold fold _ _)
    | deleteTuple ctx tuple clock =>
      refine writing_fold fold owned ?_
      simp only
      split
      · exact fold
      · rename_i t found
        exact deleteTuple_fold fold found (clock 0)
    | setObjectAttributes ctx objectType objectID attrs =>
      refine writing_fold fold owned ?_
      split
      · exact fold
      · exact fold
    | setSubjectAttributes ctx subjectType subjectID attrs =>
      refine writing_fold fold owned ?_
      split
      · exact fold
      · exact fold
    | appendChangelog ctx entry clock => exact absurd trivial plain
    | purgeTenantData ctx =>
      cases ctx with
      | none => exact fold
      | some tc =>
        obtain rfl : tc.tenantID = tenantID := by simpa [Op.owner] using owned
        simpa [System.step, System.mutate, Store.purgeTenantData, tenantIDFromCtx, Store.tuplesOf,
          Store.changelogOf] using FoldOf.empty
    | _ => exact fold
  · -- Another tenant's call leaves this tenant's buckets as they were.
    obtain ⟨-, stored, -, -, logged, -⟩ := slice_eq_iff.mp (step_foreign sys lang owned).slice
    have tuples : (System.step lang sys op).2.store.tuplesOf tenantID =
        sys.store.tuplesOf tenantID := by simp only [Store.tuplesOf, stored]
    have log : (System.step lang sys op).2.store.changelogOf tenantID =
        sys.store.changelogOf tenantID := by simp only [Store.changelogOf, logged]
    rw [tuples, log]
    exact fold

/-- After every run, stored tuples have distinct keys and are what the changelog folds to. -/
theorem store_is_fold_of_changelog (lang : ExprLang V P) (cfg : Config) (ops : List (Op V P))
    (plain : ∀ op ∈ ops, ¬ op.AppendsEntry) (tenantID : String) :
    let store := ((system lang).final (System.new cfg) ops).store
    ((store.tuplesOf tenantID).map tupleIdentityKey).Nodup ∧
      ∀ key, (store.tuplesOf tenantID).find? (fun t => tupleIdentityKey t = key) =
        replay (store.changelogOf tenantID) key := by
  -- The invariant holds of the empty deployment and is kept by every call of the run.
  have start : (System.new cfg : System V P).FoldsLogs := fun _ => FoldOf.empty
  have folds := Machine.final_invariant (m := system lang)
    (fun sys op plain folds => step_foldsLogs lang plain folds) start plain
  exact ⟨(folds tenantID).distinct, fun key => congrFun (folds tenantID).replayed key⟩

/-- A tuple is written, expires, is written again into its old slot, and another is deleted. -/
def regrantRun : List (Op Bool Bool) :=
  [.createTenant acme.tenant fun _ => 1,
   .writeTuples (some acme) [{ fact "doc" "1" "viewer" "user" "u" with expiresAt := some 5 },
     fact "doc" "2" "viewer" "user" "u"] fun _ => 2,
   .writeTuple (some acme) (fact "doc" "1" "viewer" "user" "u") fun _ => 3,
   .writeTuple (some acme) (fact "doc" "1" "viewer" "user" "u") fun _ => 6,
   .deleteTuple (some acme) (fact "doc" "2" "viewer" "user" "u") fun _ => 7]

/-- The regrant run ends with one tuple, which is what its log of four entries folds to. -/
theorem store_is_fold_of_changelog_regrantRun :
    let store := ((system literalLang).final (System.new defaultConfig) regrantRun).store
    ((store.tuplesOf "acme").length = 1 ∧ (store.changelogOf "acme").length = 4) ∧
      ((store.tuplesOf "acme").map tupleIdentityKey).Nodup ∧
      ∀ key, (store.tuplesOf "acme").find? (fun t => tupleIdentityKey t = key) =
        replay (store.changelogOf "acme") key := by
  refine ⟨by decide, store_is_fold_of_changelog literalLang defaultConfig regrantRun ?_ "acme"⟩
  intro op member appends
  simp only [regrantRun, List.mem_cons, List.not_mem_nil, or_false] at member
  rcases member with rfl | rfl | rfl | rfl | rfl <;> exact appends

end ZanGuard
