import ZanGuard.Lib.Fallible
import ZanGuard.Proofs.Storage.Isolation

/-! The log of a tenant grows at its end only, under consecutive sequence numbers. -/

namespace ZanGuard.Memory

variable {V : Type}

/-- The entries are numbered from one, and the counter holds the number of the last one. -/
structure Store.Numbered (s : Store V) (tenantID : String) : Prop where
  entries : (s.changelogOf tenantID).map (·.sequence.toNat) =
    List.range' 1 (s.changelogOf tenantID).length
  counter : (s.seqOf tenantID).toNat = (s.changelogOf tenantID).length

/-- Without entries and with a counter at zero there is nothing to number. -/
theorem Store.Numbered.of_empty {s : Store V} {tenantID : String}
    (log : s.changelogOf tenantID = []) (counter : s.seqOf tenantID = 0) : s.Numbered tenantID := by
  refine ⟨by rw [log]; rfl, ?_⟩
  rw [log, counter]
  rfl

/-- Entries numbered from a number on that lie after another one are the last of them. -/
theorem filter_newer {log : List (ChangelogEntry V)} {first : Nat}
    (numbers : log.map (·.sequence.toNat) = List.range' (first + 1) log.length) (since : Nat) :
    log.filter (fun e => decide (since < e.sequence.toNat)) = log.drop (since - first) := by
  -- The induction is on the entries, each of which has the number after the one before it.
  induction log generalizing first with
  | nil => simp
  | cons e rest ih =>
    simp only [List.map_cons, List.length_cons, List.range'_succ, List.cons.injEq] at numbers
    obtain ⟨own, later⟩ := numbers
    have rest_newer := ih later
    by_cases newer : since < e.sequence.toNat
    · -- From here on every entry is newer.
      have none_before : since - first = 0 := by omega
      have none_later : since - (first + 1) = 0 := by omega
      rw [none_later, List.drop_zero] at rest_newer
      simp only [List.filter_cons, newer, decide_true, if_true, rest_newer, none_before,
        List.drop_zero]
    · have skipped : since - first = since - (first + 1) + 1 := by omega
      simp only [List.filter_cons, newer, decide_false, Bool.false_eq_true, if_false, rest_newer,
        skipped, List.drop_succ_cons]

/-- The entries after a sequence number are those after as many entries. -/
theorem Store.Numbered.newer {s : Store V} {tenantID : String} (numbered : s.Numbered tenantID)
    (since : UInt64) :
    (s.changelogOf tenantID).filter (fun e => decide (e.sequence > since)) =
      (s.changelogOf tenantID).drop since.toNat := by
  -- The entries are numbered from one, so a number is also a position.
  have from_one : (s.changelogOf tenantID).map (·.sequence.toNat) =
      List.range' (0 + 1) (s.changelogOf tenantID).length := numbered.entries
  have dropped := filter_newer from_one since.toNat
  rw [Nat.sub_zero] at dropped
  rw [← dropped]
  refine List.filter_congr fun e _ => ?_
  simp only [gt_iff_lt, UInt64.lt_iff_toNat_lt]

/-- A page that is read holds the first of the entries after a sequence number. -/
theorem readChangelog_ok {s : Store V} {tc : TenantContext V} {since : UInt64} {limit : Int}
    {entries : List (ChangelogEntry V)} (answered : s.readChangelog (some tc) since limit = .ok entries) :
    s.checkTenantReadable tc.tenantID = .ok () ∧ entries =
      (let newer := (s.changelogOf tc.tenantID).filter fun e => decide (e.sequence > since)
       if limit > 0 then newer.take limit.toNat else newer) := by
  -- A read that succeeds has passed both checks.
  obtain ⟨owner, found, answered⟩ := Except.of_bind_ok answered
  obtain rfl : tc.tenantID = owner := Except.ok.inj found
  obtain ⟨_, readable, answered⟩ := Except.of_bind_ok answered
  exact ⟨readable, (Except.ok.inj answered).symm⟩

/-- As many tuples are staged as a batch has. -/
theorem stageTuples_length {tenantID : String} {now : Time} {existing batch : List String}
    {tuples staged : List (RelationTuple V)}
    (ok : stageTuples tenantID now existing batch tuples = .ok staged) :
    staged.length = tuples.length := by
  -- The induction is on the batch, with the keys met so far.
  induction tuples generalizing batch staged with
  | nil =>
    obtain rfl := Except.ok.inj ok
    rfl
  | cons tuple rest ih =>
    -- A batch that is staged has met neither refusal.
    simp only [stageTuples] at ok
    split at ok
    · cases ok
    · split at ok
      · cases ok
      · obtain ⟨others, later, ok⟩ := Except.of_bind_ok ok
        obtain rfl := Except.ok.inj ok
        rw [List.length_cons, List.length_cons, ih later]

/-- What a call may do to the log of a tenant: add so many entries at its end at most. -/
structure LogGrows (tenantID : String) (count : Nat) (s after : Store V) : Prop where
  grows : s.changelogOf tenantID <+: after.changelogOf tenantID
  few : (after.changelogOf tenantID).length ≤ (s.changelogOf tenantID).length + count
  /-- The counter does not wrap around while the log stays shorter than it can count. -/
  numbered : s.Numbered tenantID → (after.changelogOf tenantID).length < 2 ^ 64 →
    after.Numbered tenantID

/-- A log and a counter that stay as they are. -/
theorem LogGrows.same {tenantID : String} {s after : Store V} (count : Nat)
    (log : after.changelogOf tenantID = s.changelogOf tenantID)
    (counter : after.seqOf tenantID = s.seqOf tenantID) : LogGrows tenantID count s after := by
  refine ⟨log.symm ▸ List.prefix_rfl, by rw [log]; exact Nat.le_add_right _ _, ?_⟩
  intro numbered _
  exact ⟨by rw [log]; exact numbered.entries, by rw [log, counter]; exact numbered.counter⟩

/-- What writing for a tenant may do: it leaves the tenant records alone, and adds to the log. -/
structure Logged (tenantID : String) (count : Nat) (s after : Store V) : Prop
    extends LogGrows tenantID count s after where
  tenants : after.tenants = s.tenants

namespace Logged

variable {tenantID : String} {count more : Nat} {s middle after : Store V}

/-- Nothing happened. -/
theorem refl (s : Store V) : Logged tenantID count s s :=
  ⟨.same count rfl rfl, rfl⟩

/-- One thing after the other. -/
theorem trans (first : Logged tenantID count s middle) (second : Logged tenantID more middle after) :
    Logged tenantID (count + more) s after := by
  -- Each part adds its own entries, and the second one adds them after those of the first.
  have few := first.few
  have fewer := second.few
  refine ⟨⟨first.grows.trans second.grows, by omega, ?_⟩, second.tenants.trans first.tenants⟩
  intro numbered short
  -- The log was no longer in between.
  have shorter := second.grows.length_le
  exact second.numbered (first.numbered numbered (by omega)) short

/-- A change of what belongs to another tenant. -/
theorem foreign (tenants : after.tenants = s.tenants)
    (same : after.slice tenantID = s.slice tenantID) : Logged tenantID count s after := by
  -- The log and the counter of a tenant are part of what belongs to it.
  obtain ⟨-, -, -, -, changelog, sequence⟩ := slice_eq_iff.mp same
  refine ⟨.same count ?_ ?_, tenants⟩
  · simp only [Store.changelogOf, changelog]
  · simp only [Store.seqOf, sequence]

/-- Tuples that change leave the log alone. -/
theorem tuples (s : Store V) (buckets : StringMap (List (RelationTuple V))) :
    Logged tenantID count s { s with tuples := buckets } :=
  ⟨.same count rfl rfl, rfl⟩

/-- One entry is added at the end, under the next number. -/
theorem entry {owner : String} {e : ChangelogEntry V} (tenants : after.tenants = s.tenants)
    (next : e.sequence = s.seqOf owner + 1)
    (counters : after.seqCounter = s.seqCounter.insert owner (s.seqOf owner + 1))
    (logs : after.changelog = s.changelog.insert owner (s.changelogOf owner ++ [e])) :
    Logged tenantID 1 s after := by
  by_cases mine : tenantID = owner
  · subst mine
    have log : after.changelogOf tenantID = s.changelogOf tenantID ++ [e] := by
      simp [Store.changelogOf, logs]
    have counter : after.seqOf tenantID = s.seqOf tenantID + 1 := by
      simp [Store.seqOf, counters]
    refine ⟨⟨by rw [log]; exact List.prefix_append _ _, by simp [log], ?_⟩, tenants⟩
    intro numbered short
    rw [log, List.length_append, List.length_singleton] at short
    -- The counter has room for one more.
    have number : (s.seqOf tenantID + 1).toNat = (s.changelogOf tenantID).length + 1 := by
      have held := numbered.counter
      rw [UInt64.toNat_add, held]
      simp only [UInt64.reduceToNat]
      omega
    constructor
    · rw [log, List.map_append, List.length_append, List.length_singleton, numbered.entries,
        List.range'_append_1.symm]
      simp [next, number, Nat.add_comm]
    · rw [counter, number, log, List.length_append, List.length_singleton]
  · -- The entry goes to the log of another tenant, which has a counter of its own.
    refine ⟨.same 1 ?_ ?_, tenants⟩
    · simp only [Store.changelogOf, logs, AList.lookup_insert_ne mine]
    · simp only [Store.seqOf, counters, AList.lookup_insert_ne mine]

/-- One change of a tuple is logged. -/
theorem append (s : Store V) (owner : String) (op : ChangeOp) (tuple : RelationTuple V)
    (source : String) (timestamp : Time) :
    Logged tenantID 1 s (s.appendTupleChangelogUnsafe owner op tuple source timestamp) :=
  entry rfl rfl rfl rfl

/-- A batch is logged entry by entry. -/
theorem logInserts (s : Store V) (owner : String) (clock : Clock) (i : Nat)
    (staged : List (RelationTuple V)) :
    Logged tenantID staged.length s (s.logInserts owner clock i staged) := by
  -- The induction is on the batch, one entry at a time.
  induction staged generalizing s i with
  | nil => exact refl s
  | cons t rest ih =>
    rw [List.length_cons, Nat.add_comm]
    exact (append s owner .insert t "api" (clock i)).trans (ih _ (i + 1))

/-- A batch is refused, or stored and logged. -/
theorem writeTuplesLocked (s : Store V) (owner : String) (batch : List (RelationTuple V))
    (clock : Clock) : Logged tenantID batch.length s (s.writeTuplesLocked owner batch clock).2 := by
  -- A batch that is empty or refused changes nothing.
  unfold Store.writeTuplesLocked
  split
  · exact refl s
  · simp only
    split
    · exact refl s
    · rename_i staged ok
      -- As many tuples are staged as the batch has.
      rw [← stageTuples_length ok, ← Nat.zero_add staged.length]
      exact (tuples s _).trans (logInserts _ owner clock 1 _)

/-- A write does what its body does, or nothing. -/
theorem writing {ctx : Context V} {body : String → Except Err Unit × Store V}
    (inside : ∀ owner, Logged tenantID count s (body owner).2) :
    Logged tenantID count s (s.writing ctx body).2 := by
  -- A write that is refused leaves the store as it is.
  unfold Store.writing
  split
  · exact refl s
  · split
    · exact refl s
    · exact inside _

end Logged

/-- A deletion is logged when it finds its tuple. -/
theorem deleteTuple_logged {tenantID : String} (s : Store V) (ctx : Context V)
    (tuple : RelationTuple V) (clock : Clock) :
    Logged tenantID 1 s (s.deleteTuple ctx tuple clock).2 := by
  -- Without the tuple there is nothing to log.
  refine Logged.writing fun owner => ?_
  dsimp only
  split
  · exact .refl s
  · rw [← Nat.zero_add 1]
    exact (Logged.tuples s _).trans (.append _ owner .delete _ "api" _)

/-- An entry that a caller has made is added under the next number as well. -/
theorem appendChangelog_logged {tenantID : String} (s : Store V) (ctx : Context V)
    (entry : ChangelogEntry V) (clock : Clock) :
    Logged tenantID 1 s (s.appendChangelog ctx entry clock).2 :=
  Logged.writing fun _ => .entry rfl rfl rfl rfl

end ZanGuard.Memory
