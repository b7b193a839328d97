import ZanGuard.Proofs.Engine.Snapshot
import ZanGuard.Proofs.Storage.Batch

/-! What a batch write leaves behind, and what it leaves alone. -/

namespace ZanGuard.Memory

variable {V : Type}

/-- Logging leaves the tuples alone. -/
theorem logInserts_tuples (s : Store V) (tenantID : String) (clock : Clock) (i : Nat)
    (staged : List (RelationTuple V)) : (s.logInserts tenantID clock i staged).tuples = s.tuples := by
  -- The induction is on the batch, one entry at a time.
  induction staged generalizing s i with
  | nil => rfl
  | cons t rest ih => exact ih _ (i + 1)

/-- A batch leaves records and attributes alone, and a bucket of tuples in its place. -/
theorem writeTuplesLocked_frame (s : Store V) (tenantID : String) (tuples : List (RelationTuple V))
    (clock : Clock) :
    SameFrame s (s.writeTuplesLocked tenantID tuples clock).2 ∧
      ((s.tuples.lookup tenantID).isSome = true →
        ((s.writeTuplesLocked tenantID tuples clock).2.tuples.lookup tenantID).isSome = true) := by
  unfold Store.writeTuplesLocked
  split
  · exact ⟨⟨rfl, rfl, rfl⟩, id⟩
  · dsimp only
    split
    · exact ⟨⟨rfl, rfl, rfl⟩, id⟩
    · -- The log is written after the tuples, and touches neither.
      have placed : ∀ tuples, SameFrame s { s with tuples } := fun _ => ⟨rfl, rfl, rfl⟩
      refine ⟨(placed _).trans (logInserts_frame _ tenantID clock 1 _), fun _ => ?_⟩
      rw [logInserts_tuples]
      simp

/-- Putting a tuple keeps every live one. -/
theorem mem_putTuple_of_live {now : Time} {stored : List (RelationTuple V)} {t u : RelationTuple V}
    (there : u ∈ stored) (live : tupleIsExpiredAt u now = false) : u ∈ putTuple now stored t := by
  unfold putTuple
  split
  · rename_i i found
    obtain ⟨bound, expired, -⟩ := List.findIdx?_eq_some_iff_getElem.mp found
    obtain ⟨j, inside, rfl⟩ := List.getElem_of_mem there
    -- The slot that is taken over holds an expired tuple.
    have apart : i ≠ j := by
      rintro rfl
      exact absurd ((Bool.and_eq_true_iff.mp expired).1.symm.trans live) Bool.noConfusion
    rw [List.mem_iff_getElem]
    refine ⟨j, by simpa using inside, ?_⟩
    rw [List.getElem_set_ne apart]
  · exact List.mem_append_left _ there

/-- Putting tuples one by one keeps every live one. -/
theorem mem_foldl_putTuple_of_live {now : Time} {stored : List (RelationTuple V)}
    (staged : List (RelationTuple V)) {u : RelationTuple V} (there : u ∈ stored)
    (live : tupleIsExpiredAt u now = false) : u ∈ staged.foldl (putTuple now) stored := by
  -- The induction is on the tuples that are put.
  induction staged generalizing stored with
  | nil => exact there
  | cons t rest ih => exact ih (mem_putTuple_of_live there live)

/-- The tuples after a batch write: none was touched, or the staged ones were put one by one. -/
theorem tuplesOf_writeTuplesLocked (s : Store V) (tenantID : String)
    (batch : List (RelationTuple V)) (clock : Clock) :
    (s.writeTuplesLocked tenantID batch clock).2.tuplesOf tenantID = s.tuplesOf tenantID ∨
      ∃ staged : List (RelationTuple V), (s.writeTuplesLocked tenantID batch clock).2.tuplesOf tenantID =
        staged.foldl (putTuple (clock 0)) (s.tuplesOf tenantID) := by
  unfold Store.writeTuplesLocked
  split
  · exact .inl rfl
  · dsimp only
    split
    · exact .inl rfl
    · rename_i staged ok
      have filed : ∀ t ∈ staged,
          (indexOf (clock 0) (s.tuplesOf tenantID)).expiredIndexes.lookup (tupleIdentityKey t) =
            (s.tuplesOf tenantID ++ []).findIdx?
              (expiredUnder (clock 0) (tupleIdentityKey t)) := by
        intro t _
        rw [List.append_nil]
        exact expiredIndexes_eq _ _
      have within : ∀ t ∈ staged, ∀ i,
          (indexOf (clock 0) (s.tuplesOf tenantID)).expiredIndexes.lookup (tupleIdentityKey t) =
            some i → i < (s.tuplesOf tenantID).length := by
        intro t _ i found
        rw [expiredIndexes_eq] at found
        exact (List.findIdx?_eq_some_iff_getElem.mp found).1
      have placed := placeTuples_eq_foldl filed within (stageTuples_ok ok).1
      rw [List.append_nil] at placed
      -- The log is written after the tuples are in place.
      refine .inr ⟨staged, ?_⟩
      rw [← placed, (logInserts_replay _ tenantID clock 1 staged).1]
      simp [Store.tuplesOf]

/-- A batch write keeps every tuple that is live when it is made. -/
theorem writeTuplesLocked_keeps {s : Store V} {tenantID : String} {batch : List (RelationTuple V)}
    {clock : Clock} {u : RelationTuple V} (there : u ∈ s.tuplesOf tenantID)
    (live : tupleIsExpiredAt u (clock 0) = false) :
    u ∈ (s.writeTuplesLocked tenantID batch clock).2.tuplesOf tenantID := by
  rcases tuplesOf_writeTuplesLocked s tenantID batch clock with same | ⟨staged, put⟩
  · rw [same]
    exact there
  · rw [put]
    exact mem_foldl_putTuple_of_live staged there live

end ZanGuard.Memory
