import ZanGuard.Proofs.Storage.Sequences

/-! A reader that pages through the changelog of a tenant while others write. -/

namespace ZanGuard

open Memory

variable {V P : Type}

/-- A deployment, and a reader with what it has received of the log of a tenant. -/
structure Followed (V P : Type) where
  sys : System V P
  lastSeq : UInt64
  received : List (ChangelogEntry V)

/-- A command of somebody, or a call of the reader for its next page. -/
inductive Followed.Event (V P : Type) where
  | command (asked : Command V P)
  | poll (limit : Int)

/-- Go on to the sequence number of the last entry of a page. -/
def Followed.receive (f : Followed V P) (page : List (ChangelogEntry V)) : Followed V P :=
  { f with
    lastSeq := (page.getLast?.map (·.sequence)).getD f.lastSeq
    received := f.received ++ page }

/-- Carry out a command, or hand the reader of a tenant its page. -/
def Followed.step (lang : ExprLang V P) (tc : TenantContext V) (f : Followed V P) :
    Followed.Event V P → Except Err (List (ChangelogEntry V)) × Followed V P
  | .command asked => (.ok [], { f with sys := (f.sys.obey lang asked).2 })
  | .poll limit =>
    match f.sys.store.readChangelog (some tc) f.lastSeq limit with
    | .error e => (.error e, f)
    | .ok page => (.ok page, f.receive page)

/-- A followed deployment as a machine. -/
def following (lang : ExprLang V P) (tc : TenantContext V) :
    Machine (Followed V P) (Followed.Event V P) (Except Err (List (ChangelogEntry V))) where
  step := Followed.step lang tc

/-- A deployment nobody has called yet, with a reader at the start of the log. -/
def Followed.new (cfg : Config) : Followed V P :=
  { sys := .new cfg, lastSeq := 0, received := [] }

/-- No purge of the tenant, and no page without a limit. -/
def Followed.Event.Plain (tenantID : String) : Followed.Event V P → Prop
  | .command asked => ¬ asked.Purges tenantID
  | .poll limit => limit > 0

instance (tenantID : String) : (event : Followed.Event V P) → Decidable (event.Plain tenantID)
  | .command asked => inferInstanceAs (Decidable (¬ asked.Purges tenantID))
  | .poll limit => inferInstanceAs (Decidable (limit > 0))

/-- The reader has received the entries up to its sequence number, each of them once. -/
structure UpTo (tenantID : String) (f : Followed V P) : Prop where
  idle : f.sys.store.Idle tenantID
  numbered : f.sys.store.Numbered tenantID
  reached : f.lastSeq.toNat ≤ (f.sys.store.changelogOf tenantID).length
  received : f.received = (f.sys.store.changelogOf tenantID).take f.lastSeq.toNat

section Step

variable {tc : TenantContext V} {tenantID : String} {f : Followed V P}

/-- The number of an entry is its position. -/
theorem Memory.Store.Numbered.sequence_at {s : Store V} {tenantID : String}
    (numbered : s.Numbered tenantID) {i : Nat} (within : i < (s.changelogOf tenantID).length) :
    (s.changelogOf tenantID)[i].sequence.toNat = i + 1 := by
  -- The numbers of the log are counted from one.
  have there : ((s.changelogOf tenantID).map (·.sequence.toNat))[i]? = some (i + 1) := by
    rw [numbered.entries, List.getElem?_range' within, Nat.add_comm, Nat.one_mul]
  simpa [within] using there

/-- A page of a positive size holds the first entries of those that the reader does not have. -/
theorem page_eq (numbered : f.sys.store.Numbered tc.tenantID) {limit : Int} (positive : limit > 0)
    {page : List (ChangelogEntry V)}
    (answered : f.sys.store.readChangelog (some tc) f.lastSeq limit = .ok page) :
    page = ((f.sys.store.changelogOf tc.tenantID).drop f.lastSeq.toNat).take limit.toNat := by
  -- A read of the memory store sorts nothing: the log is in order already.
  obtain ⟨-, rfl⟩ := readChangelog_ok answered
  simp only [if_pos positive, numbered.newer]

/-- The reader goes on by as many numbers as the page has entries. -/
theorem lastSeq_receive (numbered : f.sys.store.Numbered tenantID) {page : List (ChangelogEntry V)}
    (next : page <+: (f.sys.store.changelogOf tenantID).drop f.lastSeq.toNat) :
    (f.receive page).lastSeq.toNat = f.lastSeq.toNat + page.length := by
  unfold Followed.receive
  cases last : page.getLast? with
  | none =>
    -- Without entries there is nothing to go on to.
    rw [List.getLast?_eq_none_iff.mp last]
    rfl
  | some e =>
    have some_entry : page ≠ [] := by
      rintro rfl
      cases last
    have positive : 0 < page.length := List.length_pos_iff.mpr some_entry
    -- The last entry of the page stands in the log as far behind the reader as the page is long.
    have place : (f.sys.store.changelogOf tenantID)[f.lastSeq.toNat + (page.length - 1)]? = some e := by
      obtain ⟨rest, split⟩ := next
      rw [← List.getElem?_drop, ← split, List.getElem?_append_left (by omega),
        ← List.getLast?_eq_getElem?, last]
    obtain ⟨within, there⟩ := List.getElem?_eq_some_iff.mp place
    -- Its number is its position, counted from one.
    have number := numbered.sequence_at within
    rw [there] at number
    simp only [Option.map_some, Option.getD_some]
    omega

/-- After a page the reader is as far as the page reaches, and has received what is before. -/
theorem UpTo.receive (upTo : UpTo tenantID f) {page : List (ChangelogEntry V)}
    (next : page <+: (f.sys.store.changelogOf tenantID).drop f.lastSeq.toNat) :
    UpTo tenantID (f.receive page) := by
  -- The reader moves by the length of the page, and the page ends within the log.
  have moved := lastSeq_receive upTo.numbered next
  have reached := upTo.reached
  have long := next.length_le
  rw [List.length_drop] at long
  refine ⟨upTo.idle, upTo.numbered, ?_, ?_⟩
  · -- It goes no further than the log.
    rw [moved]
    show _ ≤ (f.sys.store.changelogOf tenantID).length
    omega
  · -- The entries of the page follow those the reader had.
    show f.received ++ page = (f.sys.store.changelogOf tenantID).take (f.receive page).lastSeq.toNat
    rw [moved, List.take_add, ← List.prefix_iff_eq_take.mp next, ← upTo.received]

/-- A command moves the log on, and the reader stays where it is. -/
theorem UpTo.command (upTo : UpTo tenantID f) (lang : ExprLang V P) {asked : Command V P}
    (unpurged : ¬ asked.Purges tenantID)
    (short : ((f.sys.obey lang asked).2.store.changelogOf tenantID).length < 2 ^ 64) :
    UpTo tenantID { f with sys := (f.sys.obey lang asked).2 } := by
  -- The log only grows, since nothing is purged.
  have grown := (obey_turn lang f.sys unpurged).grows upTo.idle
  have reached := upTo.reached
  refine ⟨obey_idle lang upTo.idle asked, grown.numbered upTo.numbered short,
    reached.trans grown.grows.length_le, ?_⟩
  -- What has been received stands at the head of both logs.
  obtain ⟨new, same⟩ := grown.grows
  rw [← same, List.take_append_of_le_length reached]
  exact upTo.received

/-- A log that is short enough at the end of a run was so all along. -/
theorem final_grows (lang : ExprLang V P) (f : Followed V P) {events : List (Followed.Event V P)}
    (plain : ∀ event ∈ events, event.Plain tc.tenantID) (idle : f.sys.store.Idle tc.tenantID) :
    (f.sys.store.changelogOf tc.tenantID).length ≤
      (((following lang tc).final f events).sys.store.changelogOf tc.tenantID).length := by
  -- The induction is on the run; a poll does not touch the store.
  induction events generalizing f with
  | nil => exact Nat.le_refl _
  | cons event rest ih =>
    -- What holds of the run holds of the rest of it.
    have later : ∀ event ∈ rest, event.Plain tc.tenantID :=
      fun event member => plain event (List.mem_cons_of_mem _ member)
    have now := plain event List.mem_cons_self
    cases event with
    -- A command adds to the log, or leaves it as it is.
    | command asked =>
      have grown := ((obey_turn lang f.sys now).grows idle).grows.length_le
      have rest_grows := ih ((following lang tc).step f (.command asked)).2 later
        (obey_idle lang idle asked)
      exact grown.trans rest_grows
    -- A poll reads the store and leaves it alone.
    | poll limit =>
      have same : ((following lang tc).step f (.poll limit)).2.sys = f.sys := by
        simp only [following, Followed.step]
        split <;> rfl
      have rest_grows := ih ((following lang tc).step f (.poll limit)).2 later
        (by rw [same]; exact idle)
      rw [same] at rest_grows
      exact rest_grows

/-- All along a run the reader has received what is before it in the log. -/
theorem UpTo.final (lang : ExprLang V P) {events : List (Followed.Event V P)}
    (plain : ∀ event ∈ events, event.Plain tc.tenantID)
    (short : (((following lang tc).final f events).sys.store.changelogOf tc.tenantID).length <
      2 ^ 64)
    (upTo : UpTo tc.tenantID f) : UpTo tc.tenantID ((following lang tc).final f events) := by
  -- The induction is on the run, from whatever state it has reached.
  induction events generalizing f with
  | nil => exact upTo
  | cons event rest ih =>
    have later : ∀ event ∈ rest, event.Plain tc.tenantID :=
      fun event member => plain event (List.mem_cons_of_mem _ member)
    have now := plain event List.mem_cons_self
    refine ih later short ?_
    -- The log is short enough at the command as well, since it only grows from there.
    cases event with
    | command asked =>
      have shorter := final_grows lang ((following lang tc).step f (.command asked)).2 later
        (obey_idle lang upTo.idle asked)
      exact upTo.command lang now (Nat.lt_of_le_of_lt shorter short)
    | poll limit =>
      cases answered : f.sys.store.readChangelog (some tc) f.lastSeq limit with
      -- A poll that fails leaves the reader where it was.
      | error e =>
        simp only [following, Followed.step, answered]
        exact upTo
      -- A page is what comes next in the log.
      | ok page =>
        simp only [following, Followed.step, answered]
        refine upTo.receive ?_
        rw [page_eq upTo.numbered now answered]
        exact List.take_prefix _ _

end Step

/--
A reader that pages through the changelog receives every entry once and in order.

Others may give any commands but a purge of the tenant, and the reader any positive limits.
-/
theorem paging_is_exact (lang : ExprLang V P) (cfg : Config) (tc : TenantContext V)
    (events : List (Followed.Event V P)) (plain : ∀ event ∈ events, event.Plain tc.tenantID)
    (short : (((following lang tc).final (.new cfg) events).sys.store.changelogOf
      tc.tenantID).length < 2 ^ 64) :
    let f := (following lang tc).final (.new cfg) events
    let log := f.sys.store.changelogOf tc.tenantID
    log.map (·.sequence.toNat) = List.range' 1 log.length ∧
      (∀ latest, f.sys.store.latestSequence (some tc) = .ok latest → latest.toNat = log.length) ∧
      f.lastSeq.toNat ≤ log.length ∧ f.received = log.take f.lastSeq.toNat ∧
      ∀ limit > 0, f.sys.store.readChangelog (some tc) f.lastSeq limit = .ok [] →
        f.lastSeq.toNat = log.length := by
  intro f log
  -- At first there is no log, and nothing has been received of it.
  have start : UpTo tc.tenantID (.new cfg : Followed V P) :=
    ⟨fun _ => rfl, .of_empty rfl rfl, Nat.le_refl _, rfl⟩
  have upTo := start.final lang plain short
  refine ⟨upTo.numbered.entries, ?_, upTo.reached, upTo.received, ?_⟩
  · -- The counter stands at the number of the last entry.
    intro latest answered
    obtain ⟨owner, found, answered⟩ := Except.of_bind_ok answered
    obtain rfl : tc.tenantID = owner := Except.ok.inj found
    obtain ⟨-, -, answered⟩ := Except.of_bind_ok answered
    obtain rfl := Except.ok.inj answered
    exact upTo.numbered.counter
  · intro limit positive answered
    -- A page is empty only when nothing is left, since its limit is positive.
    have empty := page_eq upTo.numbered positive answered
    have nothing := congrArg List.length empty
    rw [List.length_take, List.length_drop, List.length_nil] at nothing
    have reached : f.lastSeq.toNat ≤ log.length := upTo.reached
    have left : min limit.toNat (log.length - f.lastSeq.toNat) = 0 := nothing.symm
    omega

/-- Two tuples are written, and one more after the reader has had its first page. -/
def pagedRun : List (Followed.Event Bool Bool) :=
  [.command (.op (.createTenant acme.tenant fun _ => 1)),
   .command (.op (.writeTuples (some acme) [fact "doc" "1" "viewer" "user" "u",
     fact "doc" "2" "viewer" "user" "u"] fun _ => 2)),
   .poll 1,
   .command (.op (.deleteTuple (some acme) (fact "doc" "2" "viewer" "user" "u") fun _ => 3)),
   .poll 5]

/-- The reader of that run ends with the three entries there are. -/
theorem paging_is_exact_pagedRun :
    let f := (following literalLang acme).final (.new defaultConfig) pagedRun
    let log := f.sys.store.changelogOf "acme"
    log.map (·.sequence.toNat) = List.range' 1 log.length ∧
      (∀ latest, f.sys.store.latestSequence (some acme) = .ok latest → latest.toNat = log.length) ∧
      f.lastSeq.toNat ≤ log.length ∧ f.received = log.take f.lastSeq.toNat ∧
      ∀ limit > 0, f.sys.store.readChangelog (some acme) f.lastSeq limit = .ok [] →
        f.lastSeq.toNat = log.length :=
  paging_is_exact literalLang defaultConfig acme pagedRun (by decide +kernel) (by decide +kernel)

end ZanGuard
