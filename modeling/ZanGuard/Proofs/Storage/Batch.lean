import ZanGuard.Proofs.Storage.Replay

/-! A batch write is a run of single writes at one instant, or it changes nothing. -/

namespace ZanGuard.Memory

variable {V : Type} {now : Time} {tenantID : String}

/-- Write tuples one after another, and stop at the first that is refused. -/
def Store.writeEach (s : Store V) (ctx : Context V) (clock : Clock) :
    List (RelationTuple V) → Except Err Unit × Store V
  | [] => (.ok (), s)
  | tuple :: rest =>
    match s.writeTuple ctx tuple clock with
    | (.ok (), after) => after.writeEach ctx clock rest
    | (.error e, after) => (.error e, after)

/-- No live stored tuple has a key. -/
def Free (now : Time) (stored : List (RelationTuple V)) (key : String) : Prop :=
  ∀ t ∈ stored, tupleIdentityKey t = key → tupleIsExpiredAt t now = true

/-- A batch with distinct keys, none of which a live stored tuple has. -/
def Writable (now : Time) (stored batch : List (RelationTuple V)) : Prop :=
  (batch.map tupleIdentityKey).Nodup ∧ ∀ tuple ∈ batch, Free now stored (tupleIdentityKey tuple)

/-- Where one staged tuple goes: over the first expired tuple with its key, or to the end. -/
def putTuple (now : Time) (stored : List (RelationTuple V)) (t : RelationTuple V) :
    List (RelationTuple V) :=
  match stored.findIdx? (expiredUnder now (tupleIdentityKey t)) with
  | some i => stored.set i t
  | none => stored ++ [t]

/-- The index a batch write makes of the stored tuples. -/
abbrev indexOf (now : Time) (stored : List (RelationTuple V)) : TupleIndex :=
  TupleIndex.build now { existingKeys := [], expiredIndexes := ∅ } 0 stored

/-- A key is free exactly when it is not filed as existing. -/
theorem free_iff {stored : List (RelationTuple V)} {key : String} :
    Free now stored key ↔ key ∉ (indexOf now stored).existingKeys := by
  rw [mem_existingKeys]
  constructor
  · -- Nothing is in the index before the stored tuples are filed.
    rintro free (old | ⟨t, among, live, same⟩)
    · exact absurd old List.not_mem_nil
    · rw [free t among same] at live
      cases live
  · intro missing t among same
    by_contra live
    exact missing (.inr ⟨t, among, by simpa using live, same⟩)

/-- The position a key is filed under is the first expired tuple that has it. -/
theorem expiredIndexes_eq (stored : List (RelationTuple V)) (key : String) :
    (indexOf now stored).expiredIndexes.lookup key =
      stored.findIdx? (expiredUnder now key) := by
  rw [expiredIndexes_lookup]
  simp

/-! ### Placing -/

/-- Putting a tuple keeps the slots of every other key where they are. -/
theorem findIdx?_putTuple (stored : List (RelationTuple V)) (t : RelationTuple V) {key : String}
    (other : tupleIdentityKey t ≠ key) :
    (putTuple now stored t).findIdx? (expiredUnder now key) =
      stored.findIdx? (expiredUnder now key) := by
  have passed : expiredUnder now key t = false := by simp [expiredUnder, other]
  unfold putTuple
  split
  · -- The tuple that made room had the same key, so it was passed over as well.
    rename_i i found
    obtain ⟨bound, here, -⟩ := List.findIdx?_eq_some_iff_getElem.mp found
    have key_eq := beq_iff_eq.mp (Bool.and_eq_true_iff.mp here).2
    have before : expiredUnder now key stored[i] = false := by
      simp [expiredUnder, key_eq, other]
    rw [List.set_eq_take_append_cons_drop, if_pos bound]
    conv_rhs => rw [← List.take_append_drop i stored, List.drop_eq_getElem_cons bound]
    simp only [List.findIdx?_append, List.findIdx?_cons, passed, before]
  · simp [List.findIdx?_append, List.findIdx?_cons, passed]

/-- Putting a tuple over an expired one, or at the end, frees or takes no other key. -/
theorem free_putTuple {stored : List (RelationTuple V)} {t : RelationTuple V} {key : String}
    (other : tupleIdentityKey t ≠ key) (free : Free now stored key) :
    Free now (putTuple now stored t) key := by
  intro u among same
  -- A tuple of the new list is the one that was put or an old one.
  have origin : u = t ∨ u ∈ stored := by
    unfold putTuple at among
    split at among
    · exact (List.mem_or_eq_of_mem_set among).symm
    · rcases List.mem_append.mp among with old | new
      · exact .inr old
      · exact .inl (List.mem_singleton.mp new)
  rcases origin with rfl | old
  · exact absurd same other
  · exact free u old same

/-- Placing a batch with distinct keys puts its tuples one after another. -/
theorem placeTuples_eq_foldl {expiredIndexes : StringMap Nat}
    {slots appends staged : List (RelationTuple V)}
    (filed : ∀ t ∈ staged, expiredIndexes.lookup (tupleIdentityKey t) =
      (slots ++ appends).findIdx? (expiredUnder now (tupleIdentityKey t)))
    (within : ∀ t ∈ staged, ∀ i, expiredIndexes.lookup (tupleIdentityKey t) = some i →
      i < slots.length)
    (distinct : (staged.map tupleIdentityKey).Nodup) :
    let placed := placeTuples expiredIndexes slots appends staged
    placed.1 ++ placed.2 = staged.foldl (putTuple now) (slots ++ appends) := by
  -- The index was made before the batch; it stays right for every key that is still to come.
  induction staged generalizing slots appends with
  | nil => rfl
  | cons t rest ih =>
    rw [List.map_cons, List.nodup_cons] at distinct
    have apart : ∀ u ∈ rest, tupleIdentityKey t ≠ tupleIdentityKey u := by
      intro u member same
      exact distinct.1 (List.mem_map.mpr ⟨u, member, same.symm⟩)
    have here := filed t List.mem_cons_self
    simp only [placeTuples, List.foldl_cons]
    cases place : expiredIndexes.lookup (tupleIdentityKey t) with
    | some i =>
      have bound := within t List.mem_cons_self i place
      have put : putTuple now (slots ++ appends) t = slots.set i t ++ appends := by
        rw [putTuple, ← here, place]
        exact List.set_append_left i t bound
      rw [put]
      refine ih ?_ ?_ distinct.2
      · intro u member
        rw [← put, findIdx?_putTuple _ _ (apart u member)]
        exact filed u (List.mem_cons_of_mem _ member)
      · intro u member j found
        rw [List.length_set]
        exact within u (List.mem_cons_of_mem _ member) j found
    | none =>
      have put : putTuple now (slots ++ appends) t = slots ++ (appends ++ [t]) := by
        rw [putTuple, ← here, place]
        exact List.append_assoc _ _ _
      rw [put]
      refine ih ?_ ?_ distinct.2
      · intro u member
        rw [← put, findIdx?_putTuple _ _ (apart u member)]
        exact filed u (List.mem_cons_of_mem _ member)
      · exact fun u member => within u (List.mem_cons_of_mem _ member)

/-! ### Staging -/

/-- A batch is staged exactly when its keys are distinct, free and not met before. -/
theorem stageTuples_eq {existing batch : List String} {tuples : List (RelationTuple V)}
    (fresh : ∀ t ∈ tuples, tupleIdentityKey t ∉ existing ∧ tupleIdentityKey t ∉ batch)
    (distinct : (tuples.map tupleIdentityKey).Nodup) :
    stageTuples tenantID now existing batch tuples =
      .ok (tuples.map (stageTuple tenantID now)) := by
  -- By induction on the tuples, with the keys met so far.
  induction tuples generalizing batch with
  | nil => rfl
  | cons tuple rest ih =>
    rw [List.map_cons, List.nodup_cons] at distinct
    obtain ⟨live, twice⟩ := fresh tuple List.mem_cons_self
    have later : ∀ t ∈ rest, tupleIdentityKey t ∉ existing ∧
        tupleIdentityKey t ∉ tupleIdentityKey tuple :: batch := by
      intro t member
      obtain ⟨free, unmet⟩ := fresh t (List.mem_cons_of_mem _ member)
      refine ⟨free, ?_⟩
      rw [List.mem_cons]
      rintro (same | met)
      · exact distinct.1 (List.mem_map.mpr ⟨t, member, same⟩)
      · exact unmet met
    simp only [stageTuples, live, twice, if_false, ih later distinct.2, bind, Except.bind, pure,
      Except.pure, List.map_cons]

/-- A batch that is staged has distinct keys, none of them existing or met before. -/
theorem stageTuples_fresh {existing batch : List String} {tuples staged : List (RelationTuple V)}
    (ok : stageTuples tenantID now existing batch tuples = .ok staged) :
    (tuples.map tupleIdentityKey).Nodup ∧
      ∀ t ∈ tuples, tupleIdentityKey t ∉ existing ∧ tupleIdentityKey t ∉ batch := by
  induction tuples generalizing batch staged with
  | nil => simp
  | cons tuple rest ih =>
    simp only [stageTuples] at ok
    -- Both refusals throw, so neither was met.
    by_cases live : tupleIdentityKey tuple ∈ existing
    · simp [live, throw, throwThe, MonadExceptOf.throw, bind, Except.bind] at ok
    by_cases twice : tupleIdentityKey tuple ∈ batch
    · simp [live, twice, throw, throwThe, MonadExceptOf.throw, bind, Except.bind] at ok
    rw [if_neg live, if_neg twice] at ok
    cases later : stageTuples tenantID now existing (tupleIdentityKey tuple :: batch) rest with
    | error e => simp [later, bind, Except.bind] at ok
    | ok others =>
      obtain ⟨distinct, fresh⟩ := ih later
      constructor
      · rw [List.map_cons, List.nodup_cons]
        refine ⟨?_, distinct⟩
        -- A later tuple with the same key would have met this one.
        intro again
        obtain ⟨t, member, same⟩ := List.mem_map.mp again
        apply (fresh t member).2
        rw [same]
        exact List.mem_cons_self
      · intro t member
        rcases List.mem_cons.mp member with rfl | member
        · exact ⟨live, twice⟩
        · obtain ⟨free, unmet⟩ := fresh t member
          exact ⟨free, fun met => unmet (List.mem_cons_of_mem _ met)⟩

/-- Staging rewrites only fields that are not part of the key. -/
theorem map_key_stageTuple (tenantID : String) (now : Time) (tuples : List (RelationTuple V)) :
    (tuples.map (stageTuple tenantID now)).map tupleIdentityKey = tuples.map tupleIdentityKey := by
  rw [List.map_map]
  rfl

/-! ### Writing -/

/-- A batch is refused exactly when it is not writable, and then nothing changes. -/
theorem writeTuplesLocked_refused {s : Store V} {batch : List (RelationTuple V)}
    (refused : ¬ Writable now (s.tuplesOf tenantID) batch) :
    ∃ e, s.writeTuplesLocked tenantID batch (fun _ => now) = (.error e, s) := by
  unfold Store.writeTuplesLocked
  split
  · -- The empty batch is always writable.
    rename_i empty
    rw [List.isEmpty_iff] at empty
    subst empty
    exact absurd ⟨List.nodup_nil, by simp⟩ refused
  · dsimp only
    split
    · exact ⟨_, rfl⟩
    · rename_i staged ok
      obtain ⟨distinct, fresh⟩ := stageTuples_fresh ok
      refine absurd ⟨distinct, ?_⟩ refused
      intro t member
      exact free_iff.mpr (fresh t member).1

/-- The state after a batch: its tuples put one after another, then logged one after another. -/
def Store.putAll (s : Store V) (tenantID : String) (now : Time) (staged : List (RelationTuple V)) :
    Store V :=
  { s with
    tuples := s.tuples.insert tenantID (staged.foldl (putTuple now) (s.tuplesOf tenantID))
  }.logInserts tenantID (fun _ => now) 1 staged

/-- A writable batch is put as it stands. -/
theorem writeTuplesLocked_put {s : Store V} {batch : List (RelationTuple V)}
    (some_tuple : batch ≠ []) (writable : Writable now (s.tuplesOf tenantID) batch) :
    s.writeTuplesLocked tenantID batch (fun _ => now) =
      (.ok (), s.putAll tenantID now (batch.map (stageTuple tenantID now))) := by
  obtain ⟨distinct, free⟩ := writable
  have staged : stageTuples tenantID now (indexOf now (s.tuplesOf tenantID)).existingKeys [] batch =
      .ok (batch.map (stageTuple tenantID now)) := by
    apply stageTuples_eq _ distinct
    intro t member
    exact ⟨free_iff.mp (free t member), List.not_mem_nil⟩
  -- The index of the batch is the one every single write would make.
  have filed : ∀ t ∈ batch.map (stageTuple tenantID now),
      (indexOf now (s.tuplesOf tenantID)).expiredIndexes.lookup (tupleIdentityKey t) =
        (s.tuplesOf tenantID ++ []).findIdx? (expiredUnder now (tupleIdentityKey t)) := by
    intro t _
    rw [List.append_nil]
    exact expiredIndexes_eq _ _
  have within : ∀ t ∈ batch.map (stageTuple tenantID now), ∀ i,
      (indexOf now (s.tuplesOf tenantID)).expiredIndexes.lookup (tupleIdentityKey t) = some i →
        i < (s.tuplesOf tenantID).length := by
    intro t _ i found
    rw [expiredIndexes_eq] at found
    exact (List.findIdx?_eq_some_iff_getElem.mp found).1
  rw [← map_key_stageTuple tenantID now] at distinct
  have placed := placeTuples_eq_foldl filed within distinct
  rw [List.append_nil] at placed
  unfold Store.writeTuplesLocked
  rw [if_neg (by simpa using some_tuple)]
  simp only [staged, Store.putAll, ← placed]

/-- Logging does not depend on the number of the reading when the clock stands still. -/
theorem Store.logInserts_still (s : Store V) (i j : Nat) (staged : List (RelationTuple V)) :
    s.logInserts tenantID (fun _ => now) i staged =
      s.logInserts tenantID (fun _ => now) j staged := by
  induction staged generalizing s i j with
  | nil => rfl
  | cons t rest ih => exact ih _ (i + 1) (j + 1)

/-- The tuples after one was put. -/
theorem Store.tuplesOf_putAll (s : Store V) (t : RelationTuple V) :
    (s.putAll tenantID now [t]).tuplesOf tenantID = putTuple now (s.tuplesOf tenantID) t := by
  simp [Store.putAll, Store.logInserts, Store.appendTupleChangelogUnsafe, Store.tuplesOf]

/-- Putting a tuple and then the others is putting them all. -/
theorem Store.putAll_cons (s : Store V) (t : RelationTuple V) (rest : List (RelationTuple V)) :
    (s.putAll tenantID now [t]).putAll tenantID now rest = s.putAll tenantID now (t :: rest) := by
  -- Only the last of the stored lists counts, and the log does not read the tuples.
  rw [Store.putAll, Store.tuplesOf_putAll, Store.logInserts_still _ 1 2]
  simp only [Store.putAll, Store.logInserts, Store.appendTupleChangelogUnsafe, Store.seqOf,
    Store.changelogOf, List.foldl_cons, List.foldl_nil, AList.insert_insert]

/-- After the first tuple of a writable batch the others are writable. -/
theorem Writable.tail {stored rest : List (RelationTuple V)} {t : RelationTuple V}
    (writable : Writable now stored (t :: rest)) :
    Writable now (putTuple now stored (stageTuple tenantID now t)) rest := by
  -- The tuple that was put takes its own key, which no other of the batch has.
  obtain ⟨distinct, free⟩ := writable
  rw [List.map_cons, List.nodup_cons] at distinct
  refine ⟨distinct.2, ?_⟩
  intro u member
  apply free_putTuple _ (free u (List.mem_cons_of_mem _ member))
  intro same
  exact distinct.1 (List.mem_map.mpr ⟨u, member, same.symm⟩)

/-- A write for an active tenant passes its guard. -/
theorem Store.writing_active {s : Store V} {tc : TenantContext V} {tenant : Tenant V}
    (stored : s.tenants.lookup tc.tenantID = some tenant) (active : tenant.status = .active)
    (body : String → Except Err Unit × Store V) :
    s.writing (some tc) body = body tc.tenantID := by
  simp [Store.writing, tenantIDFromCtx, Store.checkTenantWritable, stored, active]

/-- Logging leaves the tenant records alone. -/
@[simp] theorem Store.logInserts_tenants (s : Store V) (clock : Clock) (i : Nat)
    (staged : List (RelationTuple V)) :
    (s.logInserts tenantID clock i staged).tenants = s.tenants := by
  induction staged generalizing s i with
  | nil => rfl
  | cons t rest ih => exact ih _ (i + 1)

/-- Writing one by one ends where putting the whole batch ends. -/
theorem writeEach_eq {s : Store V} {tc : TenantContext V} {tenant : Tenant V}
    (stored : s.tenants.lookup tc.tenantID = some tenant) (active : tenant.status = .active)
    {batch : List (RelationTuple V)} (writable : Writable now (s.tuplesOf tc.tenantID) batch) :
    s.writeEach (some tc) (fun _ => now) batch =
      s.writeTuplesLocked tc.tenantID batch (fun _ => now) := by
  -- By induction on the batch; the first write is the batch of one.
  induction batch generalizing s with
  | nil => rfl
  | cons t rest ih =>
    have alone : Writable now (s.tuplesOf tc.tenantID) [t] := by
      refine ⟨List.nodup_singleton _, ?_⟩
      intro u member
      rw [List.mem_singleton.mp member]
      exact writable.2 t List.mem_cons_self
    have first := writeTuplesLocked_put (List.cons_ne_nil t []) alone
    simp only [Store.writeEach, Store.writeTuple, Store.writing_active stored active, first]
    cases rest with
    | nil => exact first.symm
    | cons u others =>
      have later : Writable now ((s.putAll tc.tenantID now
          [stageTuple tc.tenantID now t]).tuplesOf tc.tenantID) (u :: others) := by
        rw [Store.tuplesOf_putAll]
        exact writable.tail
      have kept : (s.putAll tc.tenantID now [stageTuple tc.tenantID now t]).tenants.lookup
          tc.tenantID = some tenant := by
        simpa [Store.putAll] using stored
      rw [List.map_cons, List.map_nil, ih kept later,
        writeTuplesLocked_put (List.cons_ne_nil u others) later,
        writeTuplesLocked_put (List.cons_ne_nil t _) writable, Store.putAll_cons]
      rfl

/--
A batch for an active tenant is written exactly when its keys are distinct and free.

It then ends in the state of writing its tuples one by one at the same instant; a refused batch
leaves the store as it was.
-/
theorem batch_write_is_sequential (s : Store V) (tc : TenantContext V) (tenant : Tenant V)
    (batch : List (RelationTuple V)) (now : Time)
    (stored : s.tenants.lookup tc.tenantID = some tenant) (active : tenant.status = .active) :
    let outcome := s.writeTuples (some tc) batch fun _ => now
    (outcome.1 = .ok () ↔ Writable now (s.tuplesOf tc.tenantID) batch) ∧
      (outcome.1 = .ok () → outcome = s.writeEach (some tc) (fun _ => now) batch) ∧
      ∀ e, outcome.1 = .error e → outcome.2 = s := by
  intro outcome
  have locked : outcome = s.writeTuplesLocked tc.tenantID batch (fun _ => now) :=
    Store.writing_active stored active _
  -- A batch is written when its keys are distinct and free, and refused as a whole otherwise.
  by_cases writable : Writable now (s.tuplesOf tc.tenantID) batch
  · have ok : outcome.1 = .ok () := by
      rw [locked]
      cases batch with
      | nil => rfl
      | cons t rest => rw [writeTuplesLocked_put (List.cons_ne_nil t rest) writable]
    refine ⟨iff_of_true ok writable, fun _ => ?_, ?_⟩
    · rw [locked, writeEach_eq stored active writable]
    · intro e failed
      rw [ok] at failed
      cases failed
  · obtain ⟨e, refused⟩ := writeTuplesLocked_refused writable
    rw [locked, refused]
    refine ⟨iff_of_false (by simp) writable, by simp, ?_⟩
    intro _ _
    rfl

/-- A store of an active tenant that holds one grant past its expiry. -/
def expiredGrant : Store Bool :=
  { (Store.new : Store Bool) with
    tenants := AList.singleton "acme" { id := "acme", status := .active }
    tuples := AList.singleton "acme" [{
      objectType := "doc", objectID := "1", relation := "viewer"
      subjectType := "user", subjectID := "ann", expiresAt := some 5 }] }

/-- A batch that grants it again, and once more to somebody else. -/
def renewal : List (RelationTuple Bool) :=
  [{ objectType := "doc", objectID := "1", relation := "viewer"
     subjectType := "user", subjectID := "bob" },
   { objectType := "doc", objectID := "1", relation := "viewer"
     subjectType := "user", subjectID := "ann" }]

theorem batch_write_is_sequential_renewal :
    (expiredGrant.writeTuples (some { tenantID := "acme", tenant := { id := "acme" } }) renewal
      fun _ => 7).1 = .ok () :=
  (batch_write_is_sequential expiredGrant _ { id := "acme", status := .active } renewal 7 rfl
    rfl).1.mpr (by
      refine ⟨by decide, ?_⟩
      intro tuple _ t among _
      rw [List.mem_singleton.mp among]
      rfl)

end ZanGuard.Memory
