import ZanGuard.Lib.Pages
import ZanGuard.Proofs.Storage.Suspension

/-! Readers of the changelog that follow its end: when no committed entry is behind them. -/

namespace ZanGuard.Postgres

open Transaction

variable {V J ι : Type}

/-! ### Entries and the values drawn for them -/

/-- The rows that changes add to the changelog. -/
def entriesOf (changes : List (Change J)) : List (ChangelogRow J) :=
  changes.filterMap fun
    | .insertChangelog row => some row
    | _ => none

/-- Changes add their entries one after the other. -/
theorem entriesOf_append (changes more : List (Change J)) :
    entriesOf (changes ++ more) = entriesOf changes ++ entriesOf more :=
  List.filterMap_append

/-- The changelog a transaction sees ends with its own entries. -/
theorem foldl_apply_changelog (changes : List (Change J)) (db : Database J) :
    (changes.foldl Change.apply db).changelog = db.changelog ++ entriesOf changes := by
  -- The induction is on the changes, of which only new entries concern the changelog.
  induction changes generalizing db with
  | nil => simp [entriesOf]
  | cons change rest ih =>
    rw [List.foldl_cons, ih]
    cases change with
    | insertTuple row =>
      -- A tuple is added or left out, and the changelog is the same in both cases.
      have kept : (Change.apply db (.insertTuple row)).changelog = db.changelog := by
        simp only [Change.apply]
        split <;> rfl
      rw [kept]
      rfl
    | insertChangelog row => simp [Change.apply, entriesOf]
    | _ => rfl

/-- A statement that draws nothing adds no entry. -/
theorem entriesOf_changes {codec : Codec V J} {now : Time} {db : Database J} {statement : Statement V}
    (silent : statement.draws = false) : entriesOf (statement.changes codec now db) = [] := by
  -- Every change of such a statement is about tuples.
  cases statement with
  | insertTuple tenantID tuple attrsJSON =>
    simp only [Statement.changes]
    split <;> rfl
  -- A refresh finds an expired row to replace, or changes nothing.
  | refreshExpiredTuple tenantID tuple attrsJSON =>
    simp only [Statement.changes]
    split
    · split <;> rfl
    · rfl
  | deleteTuple tenantID tuple =>
    simp only [Statement.changes]
    split <;> rfl
  -- The one statement that draws a value is excluded.
  | insertChangelog tenantID entry metaJSON => cases silent
  | _ => rfl

/-- A statement adds no entry, or one under the value it draws. -/
theorem run_entries {codec : Codec V J} {now : Time} {statement : Statement V}
    {db after : Database J} {answer : statement.Answer}
    (ran : statement.run codec now db = .ok (answer, after)) :
    (entriesOf (statement.changes codec now db) = [] ∧ after.sequence = db.sequence) ∨
      ∃ row, entriesOf (statement.changes codec now db) = [row] ∧
        row.sequence = db.sequence + 1 ∧ after.sequence = db.sequence + 1 ∧
        db.sequence + 1 < 2 ^ 63 := by
  -- Only a changelog insert draws a value, and it gives the value to its row.
  obtain ⟨executed, room⟩ := exec_of_run ran
  cases draws : statement.draws with
  | false => exact .inl ⟨entriesOf_changes draws, (exec_effect executed).sequence draws⟩
  | true =>
    right
    cases statement with
    | insertChangelog tenantID entry metaJSON =>
      -- The row was built and is new, so the insert has returned.
      obtain ⟨row, built, executed⟩ := Except.of_bind_ok executed
      obtain ⟨-, -, executed⟩ := Except.of_bind_ok executed
      refine ⟨row, by simp [Statement.changes, built, entriesOf],
        (ChangelogRow.build_columns built).2, ?_, room rfl⟩
      rw [← (Prod.mk.inj (Except.ok.inj executed)).2]
    | _ => cases draws

/-- The entries that a transaction has drawn a value for and not committed. -/
def Cluster.drawn (g : Cluster ι J) (i : ι) : List (ChangelogRow J) :=
  entriesOf (g.changesOf i)

/-- A transaction that has not failed has drawn what its changes say. -/
theorem Cluster.drawn_working {g : Cluster ι J} {i : ι} {work : OpenWork J}
    (opened : g.work i = some work) (sound : work.failed = false) :
    g.drawn i = entriesOf work.changes := by
  simp [Cluster.drawn, Cluster.changesOf, opened, sound]

/-- A transaction that has failed will commit nothing it has drawn. -/
theorem Cluster.drawn_failed {g : Cluster ι J} {i : ι} {work : OpenWork J}
    (opened : g.work i = some work) (broken : work.failed = true) : g.drawn i = [] := by
  simp [Cluster.drawn, Cluster.changesOf, opened, broken, entriesOf]

/-- Without a transaction there is nothing to commit. -/
theorem Cluster.drawn_closed {g : Cluster ι J} {i : ι} (closed : g.work i = none) :
    g.drawn i = [] := by
  simp [Cluster.drawn, Cluster.changesOf, closed, entriesOf]

/-- What a request of a session can do to the entries and to the values drawn for them. -/
inductive Cluster.Logs (i : ι) (g after : Cluster ι J) : Prop
  | keeps (changelog : after.committed.changelog = g.committed.changelog)
      (sequence : after.committed.sequence = g.committed.sequence)
      (drawn : ∀ j, after.drawn j = g.drawn j ∨ after.drawn j = []) : Cluster.Logs i g after
  | draws (row : ChangelogRow J) (changelog : after.committed.changelog = g.committed.changelog)
      (number : row.sequence = g.committed.sequence + 1)
      (sequence : after.committed.sequence = g.committed.sequence + 1)
      (room : g.committed.sequence + 1 < 2 ^ 63) (self : after.drawn i = g.drawn i ++ [row])
      (others : ∀ j, j ≠ i → after.drawn j = g.drawn j) : Cluster.Logs i g after
  | commits (changelog : after.committed.changelog = g.committed.changelog ++ g.drawn i)
      (sequence : after.committed.sequence = g.committed.sequence) (self : after.drawn i = [])
      (others : ∀ j, j ≠ i → after.drawn j = g.drawn j) : Cluster.Logs i g after

/-- Every request that is answered does one of these. -/
theorem Cluster.Moves.logs [DecidableEq ι] {codec : Codec V J} {i : ι} {choice : Choice}
    {g after : Cluster ι J} {request : Request (Statement V)}
    (moved : g.Moves codec i choice request after)
    (silent : ∀ statement, request = .auto statement → statement.writes = none) :
    Cluster.Logs i g after := by
  -- No request touches the transaction of another session.
  have others : ∀ j, j ≠ i → after.drawn j = g.drawn j := by
    intro j apart
    simp only [Cluster.drawn, Cluster.changesOf, moved.work_of_ne apart]
  -- Another session keeps what it has drawn, and this one may lose it.
  have forgets : after.drawn i = [] → ∀ j, after.drawn j = g.drawn j ∨ after.drawn j = [] := by
    intro empty j
    by_cases same : j = i
    · subst same
      exact .inr empty
    · exact .inl (others j same)
  cases moved with
  | keeps => exact .keeps rfl rfl fun _ => .inl rfl
  | @auto statement answer committed up ran =>
    have executed := (exec_of_run ran).1
    -- A statement outside transactions writes nothing, so it inserts no entry.
    have nothing : statement.draws = false := by
      have unwritten := silent statement rfl
      cases statement with
      | insertChangelog tenantID entry metaJSON => cases unwritten
      | _ => rfl
    refine .keeps ?_ ((exec_effect executed).sequence nothing) fun _ => .inl rfl
    have made := congrArg Database.changelog (exec_effect executed).changes
    rw [made]
    show (List.foldl Change.apply g.committed _).changelog = _
    rw [foldl_apply_changelog, entriesOf_changes nothing, List.append_nil]
  | start =>
    -- A new transaction has drawn nothing yet.
    refine .keeps rfl rfl (forgets ?_)
    simp [Cluster.drawn, Cluster.changesOf, Cluster.setWork, entriesOf]
  | fails opened =>
    -- A failed transaction will not commit what it has drawn.
    exact .keeps rfl rfl (forgets (Cluster.drawn_failed (Function.update_self ..) rfl))
  | @exec statement work opened sound answer result ran =>
    -- The statement adds to what the transaction has drawn before.
    have grown : ∀ later : Cluster ι J, later.work i = some { work with
        changes := work.changes ++ statement.changes codec work.began (work.visible g.committed) } →
        later.drawn i = g.drawn i ++
          entriesOf (statement.changes codec work.began (work.visible g.committed)) := by
      intro later reopened
      rw [Cluster.drawn_working opened sound, ← entriesOf_append]
      exact Cluster.drawn_working reopened sound
    obtain ⟨nothing, sequence⟩ | ⟨row, added, number, sequence, room⟩ := run_entries ran
    · -- Without an entry the transaction has drawn what it had drawn.
      rw [nothing, List.append_nil] at grown
      refine .keeps rfl (sequence.trans (visible_sequence work g.committed)) fun j => .inl ?_
      by_cases same : j = i
      · subst same
        exact grown _ (Function.update_self ..)
      · exact others j same
    · -- With an entry the value comes from the sequence that all sessions share.
      rw [added] at grown
      rw [visible_sequence] at number sequence room
      exact .draws row rfl number sequence room (grown _ (Function.update_self ..)) others
  -- A rollback gives up what the transaction has drawn.
  | ends => exact .keeps rfl rfl (forgets (Cluster.drawn_closed (Function.update_self ..)))
  | @commit work opened sound =>
    -- A commit appends what the transaction has drawn to the committed entries.
    refine .commits ?_ (visible_sequence work g.committed)
      (Cluster.drawn_closed (Function.update_self ..)) others
    rw [Cluster.drawn_working opened sound]
    exact foldl_apply_changelog work.changes g.committed

/--
The values of the entries are different, and none has been drawn beyond the last one.

This is what the primary key of the changelog and its sequence stand for.
-/
structure Cluster.Sequenced (g : Cluster ι J) : Prop where
  room : g.committed.sequence < 2 ^ 63
  bounded : ∀ i, ∀ row ∈ g.committed.changelog ++ g.drawn i,
    0 < row.sequence ∧ row.sequence ≤ g.committed.sequence
  distinct : ∀ i, (g.committed.changelog ++ g.drawn i).Pairwise fun r s => r.sequence ≠ s.sequence
  apart : ∀ i j, i ≠ j → ∀ r ∈ g.drawn i, ∀ s ∈ g.drawn j, r.sequence ≠ s.sequence

namespace Cluster.Sequenced

variable {i : ι} {g after : Cluster ι J}

/-- Values that are given up leave the others as they were. -/
theorem keeps (sequenced : g.Sequenced)
    (changelog : after.committed.changelog = g.committed.changelog)
    (sequence : after.committed.sequence = g.committed.sequence)
    (drawn : ∀ j, after.drawn j = g.drawn j ∨ after.drawn j = []) : after.Sequenced := by
  -- What a session has drawn is what it had drawn before, or nothing.
  have fewer : ∀ j, (after.drawn j).Sublist (g.drawn j) := by
    intro j
    rcases drawn j with same | empty
    · rw [same]
    · rw [empty]
      exact List.nil_sublist _
  have all : ∀ j, (after.committed.changelog ++ after.drawn j).Sublist
      (g.committed.changelog ++ g.drawn j) := by
    intro j
    rw [changelog]
    exact (fewer j).append_left _
  -- All four facts pass to sublists.
  refine ⟨by rw [sequence]; exact sequenced.room, ?_, ?_, ?_⟩
  · intro j row member
    rw [sequence]
    exact sequenced.bounded j row ((all j).subset member)
  · intro j
    exact (sequenced.distinct j).sublist (all j)
  · intro j k other r mine s theirs
    exact sequenced.apart j k other r ((fewer j).subset mine) s ((fewer k).subset theirs)

/-- A value that is drawn next is greater than all values before it. -/
theorem beyond (sequenced : g.Sequenced) {row : ChangelogRow J}
    (number : row.sequence = g.committed.sequence + 1) (j : ι) {r : ChangelogRow J}
    (member : r ∈ g.committed.changelog ++ g.drawn j) : r.sequence < row.sequence := by
  -- No value so far is beyond the last one drawn.
  have drawn := (sequenced.bounded j r member).2
  omega

/-- A new value is different from all others. -/
theorem draws [DecidableEq ι] (sequenced : g.Sequenced) {row : ChangelogRow J}
    (changelog : after.committed.changelog = g.committed.changelog)
    (number : row.sequence = g.committed.sequence + 1)
    (sequence : after.committed.sequence = g.committed.sequence + 1)
    (room : g.committed.sequence + 1 < 2 ^ 63) (self : after.drawn i = g.drawn i ++ [row])
    (others : ∀ j, j ≠ i → after.drawn j = g.drawn j) : after.Sequenced := by
  -- What another session has drawn was drawn before.
  have fresh : ∀ j, j ≠ i → ∀ r ∈ after.drawn i, ∀ s ∈ after.drawn j, r.sequence ≠ s.sequence := by
    intro j other r mine s theirs
    rw [others j other] at theirs
    rw [self] at mine
    rcases List.mem_append.mp mine with earlier | new
    · -- The values drawn earlier were different before.
      exact sequenced.apart i j other.symm r earlier s theirs
    · -- The new value is greater than all that others have drawn.
      obtain rfl := List.mem_singleton.mp new
      have below := sequenced.beyond number j (List.mem_append_right _ theirs)
      omega
  refine ⟨by rw [sequence]; exact room, ?_, ?_, ?_⟩
  · -- Every value is at most the new last one.
    intro j r member
    rw [changelog] at member
    by_cases same : j = i
    · subst same
      rw [self, ← List.append_assoc] at member
      rcases List.mem_append.mp member with earlier | new
      · -- A value from before stays below.
        have drawn := sequenced.bounded j r earlier
        omega
      · -- The new value is the last one itself.
        obtain rfl := List.mem_singleton.mp new
        omega
    · rw [others j same] at member
      have drawn := sequenced.bounded j r member
      omega
  · -- The new entry comes last and differs from all before it.
    intro j
    rw [changelog]
    by_cases same : j = i
    · subst same
      rw [self, ← List.append_assoc]
      refine List.pairwise_append.mpr ⟨sequenced.distinct j, List.pairwise_singleton _ _, ?_⟩
      intro r earlier s new
      obtain rfl := List.mem_singleton.mp new
      have below := sequenced.beyond number j earlier
      omega
    · rw [others j same]
      exact sequenced.distinct j
  · intro j k different r mine s theirs
    -- The session that has drawn is the first of the two, the second, or neither.
    by_cases first : j = i
    · subst first
      exact fresh k different.symm r mine s theirs
    · by_cases second : k = i
      · subst second
        exact (fresh j first s theirs r mine).symm
      · rw [others j first] at mine
        rw [others k second] at theirs
        exact sequenced.apart j k different r mine s theirs

/-- Entries that are committed keep their values. -/
theorem commits [DecidableEq ι] (sequenced : g.Sequenced)
    (changelog : after.committed.changelog = g.committed.changelog ++ g.drawn i)
    (sequence : after.committed.sequence = g.committed.sequence) (self : after.drawn i = [])
    (others : ∀ j, j ≠ i → after.drawn j = g.drawn j) : after.Sequenced := by
  -- A commit draws nothing.
  have before : ∀ j, ∀ r ∈ after.drawn j, r ∈ g.drawn j := by
    intro j r member
    by_cases same : j = i
    · subst same
      rw [self] at member
      cases member
    · rwa [others j same] at member
  refine ⟨by rw [sequence]; exact sequenced.room, ?_, ?_, ?_⟩
  · -- An entry is bounded by its place before the commit.
    intro j r member
    rw [sequence]
    rcases List.mem_append.mp member with committed | drawn
    · -- What is committed now was committed or drawn by this session.
      rw [changelog] at committed
      exact sequenced.bounded i r committed
    · exact sequenced.bounded j r (List.mem_append_right _ (before j r drawn))
  · -- The session that committed has nothing left, and the others are as they were.
    intro j
    rw [changelog]
    by_cases same : j = i
    · subst same
      rw [self, List.append_nil]
      exact sequenced.distinct j
    · -- The entries that were committed differ from all that others have drawn.
      rw [others j same]
      obtain ⟨-, theirs, known⟩ := List.pairwise_append.mp (sequenced.distinct j)
      refine List.pairwise_append.mpr ⟨sequenced.distinct i, theirs, ?_⟩
      intro r member s drawn
      rcases List.mem_append.mp member with old | mine
      · exact known r old s drawn
      · exact sequenced.apart i j (Ne.symm same) r mine s drawn
  · -- What is still drawn was drawn before.
    intro j k different r mine s theirs
    exact sequenced.apart j k different r (before j r mine) s (before k s theirs)

/-- Every request keeps the values different and within the last one drawn. -/
theorem step [DecidableEq ι] (sequenced : g.Sequenced) (logs : Cluster.Logs i g after) :
    after.Sequenced := by
  -- The three cases are the three kinds of requests.
  cases logs with
  | keeps changelog sequence drawn => exact sequenced.keeps changelog sequence drawn
  | draws row changelog number sequence room self others =>
    exact sequenced.draws changelog number sequence room self others
  | commits changelog sequence self others =>
    exact sequenced.commits changelog sequence self others

end Cluster.Sequenced

/-! ### A reader and what is behind it -/

/-- What is known of a reader: nothing that is or will be committed is behind it unread. -/
structure Tailing (tenantID : String) (g : Cluster ι J) (reader : Reader V) : Prop where
  reached : reader.lastSeq.toNat ≤ g.committed.sequence
  received : ∀ row ∈ g.committed.changelog, row.tenantID.text = tenantID →
    row.sequence ≤ reader.lastSeq.toNat → row.scan ∈ reader.received
  ahead : ∀ i, ∀ row ∈ g.drawn i, row.tenantID.text = tenantID →
    reader.lastSeq.toNat < row.sequence

/-- A request that is not the reader's keeps that. -/
theorem Tailing.step {tenantID : String} {i : ι} {g after : Cluster ι J} {reader : Reader V}
    (tailing : Tailing tenantID g reader) (logs : Cluster.Logs i g after) :
    Tailing tenantID after reader := by
  -- The reader has not moved, and the last value drawn has not become smaller.
  have reached := tailing.reached
  cases logs with
  | keeps changelog sequence drawn =>
    refine ⟨by omega, by rw [changelog]; exact tailing.received, ?_⟩
    intro j row member
    -- What a session still holds it held before.
    rcases drawn j with same | empty
    · rw [same] at member
      exact tailing.ahead j row member
    · rw [empty] at member
      cases member
  | draws row changelog number sequence room self others =>
    refine ⟨by omega, by rw [changelog]; exact tailing.received, ?_⟩
    intro j r member mine
    by_cases same : j = i
    · subst same
      rw [self] at member
      rcases List.mem_append.mp member with earlier | new
      · -- What was drawn earlier is ahead of the reader already.
        exact tailing.ahead j r earlier mine
      · -- The new value is beyond everything that was ever read.
        obtain rfl := List.mem_singleton.mp new
        omega
    · rw [others j same] at member
      exact tailing.ahead j r member mine
  | commits changelog sequence self others =>
    refine ⟨by omega, ?_, ?_⟩
    · -- A committed entry behind the reader was committed before, since nothing drawn is behind it.
      intro row member mine behind
      rw [changelog] at member
      rcases List.mem_append.mp member with before | drawn
      · exact tailing.received row before mine behind
      · have beyond := tailing.ahead i row drawn mine
        omega
    · -- The session that committed holds nothing, and the others are as they were.
      intro j r member mine
      by_cases same : j = i
      · subst same
        rw [self] at member
        cases member
      · rw [others j same] at member
        exact tailing.ahead j r member mine

/--
A page does not pass an entry that is still to be committed.

All entries that could be on it have lower values, or enough of them do to fill it.
-/
def Cluster.Settled (g : Cluster ι J) (tenantID : String) (since : Nat) (limit : Int) : Prop :=
  ∀ i, ∀ row ∈ g.drawn i, row.tenantID.text = tenantID →
    (∀ other ∈ g.committed.changelog, other.tenantID.text = tenantID → since < other.sequence →
      other.sequence < row.sequence) ∨
    limit ≤ g.committed.changelog.countP fun other =>
      (other.tenantID.text = tenantID && since < other.sequence) && other.sequence < row.sequence

section Page

variable {tenantID : String} {since : Nat} {limit : Int} {g : Cluster ι J}

/-- What may be on a page. -/
theorem mem_changelogAfter {db : Database J} {row : ChangelogRow J} :
    row ∈ db.changelogAfter tenantID since ↔
      row ∈ db.changelog ∧ row.tenantID.text = tenantID ∧ since < row.sequence := by
  simp [Database.changelogAfter]

/-- A settled page lies below every entry of the tenant that is still to be committed. -/
theorem Cluster.Settled.below (settled : g.Settled tenantID since limit) {i : ι}
    {row other : ChangelogRow J} (drawn : row ∈ g.drawn i) (mine : row.tenantID.text = tenantID)
    (shown : other ∈ (g.committed.changelogAfter tenantID since).take limit.toNat) :
    other.sequence < row.sequence := by
  -- Either nothing on the page could be higher, or lower entries fill it.
  rcases settled i row drawn mine with all | enough
  · -- The page lies among the entries after the reader, all of which are lower.
    obtain ⟨committed, same, newer⟩ := mem_changelogAfter.mp (List.mem_of_mem_take shown)
    exact all other committed same newer
  · -- Enough lower entries come first in order, and the page ends among them.
    refine Pages.take_below (Pages.ordered_sort _ _) ?_ other shown
    rw [(List.perm_insertionSort _ _).countP_eq, List.countP_filter]
    -- The count is the same one, with the conditions in another order.
    have same : ∀ r : ChangelogRow J,
        (decide (r.sequence < row.sequence) &&
          (decide (r.tenantID.text = tenantID) && decide (r.sequence > since))) =
        ((decide (r.tenantID.text = tenantID) && decide (since < r.sequence)) &&
          decide (r.sequence < row.sequence)) := fun r => Bool.and_comm _ _
    simp only [same]
    omega

/-- What is committed up to the last entry of a page is on the page. -/
theorem Cluster.Sequenced.mem_page (sequenced : g.Sequenced) (i : ι) {row last : ChangelogRow J}
    (committed : row ∈ g.committed.changelog) (mine : row.tenantID.text = tenantID)
    (newer : since < row.sequence)
    (shown : last ∈ (g.committed.changelogAfter tenantID since).take limit.toNat)
    (below : row.sequence ≤ last.sequence) :
    row ∈ (g.committed.changelogAfter tenantID since).take limit.toNat := by
  -- The page is the beginning of a list that is strictly in order.
  have distinct := (List.pairwise_append.mp (sequenced.distinct i)).1
  have strict := Pages.strict_sort (distinct.filter fun r =>
    decide (r.tenantID.text = tenantID) && decide (r.sequence > since))
  exact Pages.mem_take_of_le strict (mem_changelogAfter.mpr ⟨committed, mine, newer⟩) shown below

end Page

/-- A reader that takes in a settled page has nothing unread behind it. -/
theorem Tailing.page {tenantID : String} {g : Cluster ι J} {reader : Reader V} {limit : Int}
    (tailing : Tailing tenantID g reader) (sequenced : g.Sequenced) (i : ι)
    (settled : g.Settled tenantID reader.lastSeq.toNat limit) :
    Tailing tenantID g (reader.take (.entries (.ok
      (((g.committed.changelogAfter tenantID reader.lastSeq.toNat).take limit.toNat).map
        ChangelogRow.scan)))) := by
  -- The argument is about the last entry of the page, if there is one.
  generalize page : (g.committed.changelogAfter tenantID reader.lastSeq.toNat).take limit.toNat = rows
  cases ending : rows.getLast? with
  | none =>
    -- Nothing has come, and the reader stays where it is.
    obtain rfl := List.getLast?_eq_none_iff.mp ending
    simpa [Reader.take] using tailing
  | some last =>
    -- The reader moves to the last entry of the page.
    have shown : last ∈ rows := List.mem_of_getLast? ending
    rw [← page] at shown
    obtain ⟨committed, -, newer⟩ := mem_changelogAfter.mp (List.mem_of_mem_take shown)
    have room := sequenced.room
    have drawn := (sequenced.bounded i last (List.mem_append_left _ committed)).2
    -- The value fits the reader's counter, since it is below 2^63.
    have position : (reader.take (.entries (.ok (rows.map ChangelogRow.scan)))).lastSeq.toNat =
        last.sequence := by
      simp only [Reader.take, List.getLast?_map, ending, Option.map_some, Option.elim_some,
        ChangelogRow.scan, UInt64.toNat_ofNat']
      omega
    have held : ∀ entry ∈ reader.received ++ rows.map ChangelogRow.scan,
        entry ∈ (reader.take (.entries (.ok (rows.map ChangelogRow.scan)))).received :=
      fun entry member => member
    refine ⟨by omega, ?_, ?_⟩
    · -- A committed entry up to there was received before, or is on the page.
      intro row stored mine behind
      rw [position] at behind
      refine held _ ?_
      by_cases old : row.sequence ≤ reader.lastSeq.toNat
      · -- An entry that was behind the reader already has been received.
        exact List.mem_append_left _ (tailing.received row stored mine old)
      · -- An entry after the old position and up to the new one is on the page.
        have on_page := sequenced.mem_page i stored mine (by omega) shown behind
        rw [page] at on_page
        exact List.mem_append_right _ (List.mem_map_of_mem on_page)
    · -- A settled page ends below everything that is still to be committed.
      intro j row pending mine
      rw [position]
      exact settled.below pending mine shown

/-! ### What a poll sends -/

section Polls

variable {codec : Codec V J} {config : ConfigCodec V} {reader : Reader V}

/-- A poll that waits for its page. -/
def paging (tenantID : String) (since : UInt64) (limit : Int) :
    Script (Statement V) Statement.Answer Err (CallResult V) :=
  .ask (.auto (.selectChangelog tenantID since limit)) fun page => .done (.entries page)

/-- What a reader goes on with that takes nothing in. -/
def Unread : Script (Statement V) Statement.Answer Err (CallResult V) → Prop
  | .done result => ∀ reader, Reader.take reader result = reader
  | .ask _ _ => True

/-- What is left of a poll. -/
inductive PollRest (tenantID : String) (since : UInt64) :
    Script (Statement V) Statement.Answer Err (CallResult V) → Prop
  | check {next : Except Err (Option TenantStatus) →
        Script (Statement V) Statement.Answer Err (CallResult V)}
      (unread : ∀ reply, Unread (next reply)) :
      PollRest tenantID since (.ask (.auto (.selectTenantStatus tenantID)) next)
  | page (limit : Int) : PollRest tenantID since (paging tenantID since limit)

/-- A poll waits for the status of its tenant, or for its page. -/
theorem poll_rest (codec : Codec V J) (config : ConfigCodec V) {tc : TenantContext V}
    (ctx : reader.ctx = some tc) {limit : Int}
    {seen : List (Exchange (Statement V) Statement.Answer Err)} {request : Request (Statement V)}
    {next : request.Reply Statement.Answer Err →
      Script (Statement V) Statement.Answer Err (CallResult V)}
    (reached : ((Call.poll limit).script codec config reader).Reaches seen (.ask request next)) :
    PollRest tc.tenantID reader.lastSeq (.ask request next) := by
  unfold Call.script readChangelog at reached
  rw [ctx] at reached
  -- After the status there is the page, and after the page nothing.
  cases reached with
  | here =>
    refine .check fun reply => ?_
    -- A status that cannot be read, a missing tenant or a deleted one ends the poll at once.
    match reply with
    | .error e => exact fun _ => rfl
    | .ok none => exact fun _ => rfl
    | .ok (some status) =>
      cases status with
      | deleted => exact fun _ => rfl
      | _ => trivial
  | @ask _ _ found _ _ later =>
    match found, later with
    | .error e, later => cases later
    | .ok none, later => cases later
    | .ok (some status), later =>
      -- Only a deleted tenant is refused.
      cases status with
      | deleted => cases later
      | _ =>
        cases later with
        | here => exact .page _
        | ask later => cases later

/-- A call that is no poll ends without a page. -/
theorem call_unread {call : Call V} (other : ∀ limit, call ≠ .poll limit) :
    (call.script codec config reader).Sends (fun _ => True) fun result =>
      ∀ reader, Reader.take reader result = reader := by
  -- The result of such a call is wrapped as one without entries.
  cases call with
  -- The poll itself is excluded.
  | poll limit => exact absurd rfl (other limit)
  | create tenantID displayName mode now => exact Script.sends_map fun _ _ => rfl
  | _ => exact Script.sends_map fun _ _ => rfl

/-- What is left of a call that is no poll takes nothing in. -/
theorem unread_of_sends {rest : Script (Statement V) Statement.Answer Err (CallResult V)}
    (all : rest.Sends (fun _ => True) fun result => ∀ reader, Reader.take reader result = reader) :
    Unread rest := by
  cases rest with
  | done result => exact all
  | ask request next => trivial

end Polls

/-! ### Runs -/

section Runs

variable [Fintype ι] [DecidableEq ι] {codec : Codec V J} {config : ConfigCodec V}

/-- A party that takes nothing in remembers what it did. -/
theorem memory_unread {reader : Reader V} {call : Call V}
    {seen : List (Exchange (Statement V) Statement.Answer Err)}
    {rest : Script (Statement V) Statement.Answer Err (CallResult V)}
    (reached : ((sessions codec config (ι := ι)).script reader call).Reaches seen rest)
    (unread : Unread rest) : (Party.resume rest reached).memory = reader := by
  -- The call goes on, or ends with a result that changes nothing.
  cases rest with
  | done result => exact unread reader
  | ask request next => rfl

/-- The limit of the page that a party waits for. -/
def pageLimit (party : Party (sessions codec config (ι := ι))) : Option Int :=
  match party.rest with
  | some (.ask (.auto (.selectChangelog _ _ limit)) _) => some limit
  | _ => none

/-- A page that a party reads passes no entry of its tenant that is still to be committed. -/
def ReadsSettled (i : ι) (tenantID : String) (net : Net (sessions codec config (ι := ι))) :
    Event ι Choice (Call V) → Prop
  | .start _ _ => True
  | .step j choice => j = i → choice.failure = none → ∀ limit ∈ pageLimit (net.parties i),
      net.shared.Settled tenantID (net.parties i).memory.lastSeq.toNat limit

/-- What is known of the sessions while one of them follows the changelog of a tenant. -/
structure Following (i : ι) (tc : TenantContext V) (net : Net (sessions codec config (ι := ι))) :
    Prop where
  ctx : (net.parties i).memory.ctx = some tc
  sequenced : net.shared.Sequenced
  tailing : Tailing tc.tenantID net.shared (net.parties i).memory

/-- A page that is answered holds what is committed, and leaves it alone. -/
theorem serve_page {i : ι} {choice : Choice} {g after : Cluster ι J} {tenantID : String}
    {since : UInt64} {limit : Int} {page : List (ChangelogEntry V)}
    (served : g.serve codec i choice (.auto (.selectChangelog tenantID since limit)) =
      some (.ok page, after)) :
    choice.failure = none ∧ after = g ∧
      page = ((g.committed.changelogAfter tenantID since.toNat).take limit.toNat).map
        ChangelogRow.scan := by
  -- A statement outside transactions that succeeds is answered by the committed database.
  obtain ⟨up, committed, rfl, ran⟩ := serve_auto served
  obtain ⟨read, rfl⟩ := exec_selectChangelog ran
  exact ⟨up, rfl, read⟩

/-- Every event after which the reader remembers what it did keeps what is known. -/
theorem Following.quiet {i : ι} {tc : TenantContext V} {net after : Net (sessions codec config (ι := ι))}
    (following : Following i tc net) (same : (after.parties i).memory = (net.parties i).memory)
    (shared : after.shared = net.shared ∨ ∃ j, Cluster.Logs j net.shared after.shared) :
    Following i tc after := by
  -- Either nothing was done to the database, or one request of some session.
  refine ⟨by rw [same]; exact following.ctx, ?_, ?_⟩
  · -- The values stay different.
    rcases shared with kept | ⟨j, logs⟩
    · rw [kept]
      exact following.sequenced
    · exact following.sequenced.step logs
  · -- Nothing comes to lie behind the reader.
    rw [same]
    rcases shared with kept | ⟨j, logs⟩
    · rw [kept]
      exact following.tailing
    · exact following.tailing.step logs

/-- An event at which no page passes a pending entry keeps what is known. -/
theorem Following.step {i : ι} {tc : TenantContext V} {net : Net (sessions codec config (ι := ι))}
    (following : Following i tc net) {event : Event ι Choice (Call V)}
    (settled : ReadsSettled i tc.tenantID net event) : Following i tc (net.step event) := by
  have moved := net.step_moves event
  generalize net.step event = after at moved ⊢
  cases moved with
  | idle => exact following
  | @start j call free =>
    -- A call that starts has not changed the database yet.
    refine following.quiet ?_ (.inl rfl)
    by_cases same : i = j
    · subst same
      simp only [Function.update_self]
      refine memory_unread _ ?_
      -- A poll starts with the status of its tenant, and another call has no page to take in.
      by_cases poll : ∃ limit, call = .poll limit
      · obtain ⟨limit, rfl⟩ := poll
        show Unread (.entries <$> (readChangelog (net.parties i).memory.ctx _ limit).run)
        rw [following.ctx]
        trivial
      · exact unread_of_sends (call_unread fun limit is => poll ⟨limit, is⟩)
    · -- Another session has started.
      simp only [Function.update_of_ne same]
  | @step j choice r waits reply shared served =>
    have rest : (net.parties j).rest = some (.ask r.request r.next) := by simp [Party.rest, waits]
    obtain ⟨call, seen, asked, cont, reached⟩ := r
    have moved : net.shared.Moves codec j choice asked shared := serve_moves served
    -- Statements outside transactions write nothing.
    have logs : Cluster.Logs j net.shared shared := by
      refine moved.logs ?_
      rintro statement rfl
      exact auto_writes reached
    by_cases same : i = j
    · subst same
      -- The reader's own request belongs to a poll or to another call.
      by_cases poll : ∃ limit, call = .poll limit
      · obtain ⟨limit, rfl⟩ := poll
        cases poll_rest codec config following.ctx reached with
        | check unread =>
          -- The answer is about the status.
          refine following.quiet ?_ (.inr ⟨i, logs⟩)
          simp only [Function.update_self]
          exact memory_unread _ (unread reply)
        | page limit =>
          cases reply with
          | error e =>
            -- The page could not be read.
            refine following.quiet ?_ (.inr ⟨i, logs⟩)
            simp only [Function.update_self]
            exact memory_unread _ fun _ => rfl
          | ok page =>
            -- The page is taken in, and nothing else changes.
            have answered : net.shared.serve codec i choice
              (.auto (.selectChangelog tc.tenantID (net.parties i).memory.lastSeq limit)) =
                some (.ok page, shared) := served
            obtain ⟨up, rfl, rfl⟩ := serve_page answered
            have next := following.tailing.page following.sequenced i
              (settled rfl up limit (by simp only [pageLimit, rest]; rfl))
            refine ⟨?_, following.sequenced, ?_⟩
            · simp only [Function.update_self]
              exact following.ctx
            · simp only [Function.update_self]
              exact next
      · -- Another call of the reader brings no page.
        refine following.quiet ?_ (.inr ⟨i, logs⟩)
        simp only [Function.update_self]
        refine memory_unread _ (unread_of_sends ?_)
        exact (reached.snoc reply).sends (call_unread fun limit is => poll ⟨limit, is⟩)
    · -- The request of another session leaves the reader alone.
      refine following.quiet ?_ (.inr ⟨j, logs⟩)
      simp only [Function.update_of_ne same]

/-- No committed entry of a tenant is behind a reader that has not received it. -/
def MissesNothing (i : ι) (tenantID : String) (net : Net (sessions codec config (ι := ι))) : Prop :=
  ∀ row ∈ net.shared.committed.changelog, row.tenantID.text = tenantID →
    row.sequence ≤ (net.parties i).memory.lastSeq.toNat → row.scan ∈ (net.parties i).memory.received

/--
A reader that follows the changelog of a tenant misses no committed entry.

This holds at every point of a run in which no page passes an entry of the tenant that has a value
and is still to be committed.
-/
theorem tail_misses_nothing {i : ι} {tc : TenantContext V}
    {net : Net (sessions codec config (ι := ι))}
    (begins : net.parties i =
      { memory := { ctx := some tc, lastSeq := 0, received := [] }, running := none })
    (sequenced : net.shared.Sequenced) {events : List (Event ι Choice (Call V))}
    (along : (sessions codec config).machine.Along (ReadsSettled i tc.tenantID) net events) :
    MissesNothing i tc.tenantID ((sessions codec config).machine.final net events) := by
  -- The reader starts at zero, where nothing is behind it.
  have start : Following i tc net := by
    refine ⟨by rw [begins], sequenced, ?_⟩
    rw [begins]
    refine ⟨Nat.zero_le _, ?_, ?_⟩
    · -- Every value is positive, so nothing is behind a reader at zero.
      intro row stored _ behind
      have positive := (sequenced.bounded i row (List.mem_append_left _ stored)).1
      have none_behind : row.sequence ≤ 0 := behind
      omega
    · -- Every value drawn is positive too.
      intro j row drawn _
      exact (sequenced.bounded j row (List.mem_append_right _ drawn)).1
  -- The invariant holds at the end, and what is received is part of it.
  have reached := along.final_invariant (Following i tc)
    (fun _ _ settled following => following.step settled) start
  exact reached.tailing.received

instance (g : Cluster ι J) (tenantID : String) (since : Nat) (limit : Int) :
    Decidable (g.Settled tenantID since limit) :=
  inferInstanceAs (Decidable (∀ i, ∀ row ∈ g.drawn i, row.tenantID.text = tenantID →
    (∀ other ∈ g.committed.changelog, other.tenantID.text = tenantID → since < other.sequence →
      other.sequence < row.sequence) ∨ limit ≤ _))

instance (i : ι) (tenantID : String) (net : Net (sessions codec config (ι := ι))) :
    (event : Event ι Choice (Call V)) → Decidable (ReadsSettled i tenantID net event)
  | .start _ _ => .isTrue trivial
  | .step j choice => inferInstanceAs (Decidable (j = i → choice.failure = none →
      ∀ limit ∈ pageLimit (net.parties i),
        net.shared.Settled tenantID (net.parties i).memory.lastSeq.toNat limit))

instance [DecidableEq V] (i : ι) (tenantID : String) (net : Net (sessions codec config (ι := ι))) :
    Decidable (MissesNothing i tenantID net) :=
  inferInstanceAs (Decidable (∀ row ∈ net.shared.committed.changelog, _ = _ → _ ≤ _ → _ ∈ _))

end Runs

/-- Three sessions on the database with one active tenant; the last one will read. -/
def threeSessions : Net (sessions emptyCodec defaultConfigCodec (ι := Fin 3)) where
  shared := { committed := acmeDatabase, work := fun _ => none }
  parties _ := {
    memory := { ctx := some acmeContext, lastSeq := 0, received := [] }
    running := none }

/-- A number of answers to a session. -/
def replies (session : Fin 3) (count : Nat) : List (Event (Fin 3) Choice (Call Empty)) :=
  List.replicate count (.step session { now := 1 })

/-- The first write draws a value, and the second one draws the next and commits. -/
def overtaking : List (Event (Fin 3) Choice (Call Empty)) :=
  [.start 0 (.writeTuple (some acmeContext) (viewerOf "1"))] ++ replies 0 4 ++
    [.start 1 (.writeTuple (some acmeContext) (viewerOf "2"))] ++ replies 1 6

/-- A poll, from its beginning to its end. -/
def pollFor (limit : Int) : List (Event (Fin 3) Choice (Call Empty)) :=
  [.start 2 (.poll limit)] ++ replies 2 2

/-- Both writes are committed when the poll comes. -/
def patientReader : List (Event (Fin 3) Choice (Call Empty)) :=
  overtaking ++ replies 0 2 ++ pollFor 100

/-- The reader has both entries. -/
theorem tail_misses_nothing_patient :
    MissesNothing 2 "acme"
      ((sessions emptyCodec defaultConfigCodec).machine.final threeSessions patientReader) := by
  -- The database has no entries, and no session has a transaction.
  have sequenced : threeSessions.shared.Sequenced := by
    refine ⟨by decide, ?_, fun _ => .nil, ?_⟩
    · intro i row member
      cases member
    · intro i j _ r member
      cases member
  have begins : threeSessions.parties 2 =
      { memory := { ctx := some acmeContext, lastSeq := 0, received := [] }, running := none } := rfl
  -- The condition is checked at every event of the run.
  exact tail_misses_nothing begins sequenced (by decide +kernel)

/-- The poll comes between the two commits, and the first write is committed behind it. -/
def hastyReader : List (Event (Fin 3) Choice (Call Empty)) :=
  overtaking ++ pollFor 100 ++ replies 0 2

/-- An entry is committed with a value the reader has passed, and the reader will never see it. -/
theorem tail_misses_entry :
    ¬ MissesNothing 2 "acme"
      ((sessions emptyCodec defaultConfigCodec).machine.final threeSessions hastyReader) := by
  -- The run is evaluated to its end.
  decide +kernel

end ZanGuard.Postgres
