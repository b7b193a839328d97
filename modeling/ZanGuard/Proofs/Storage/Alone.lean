import ZanGuard.Proofs.Storage.Calls
import ZanGuard.Proofs.Storage.Cluster

/-! A session that has the database to itself is answered as by a server without other clients. -/

namespace ZanGuard.Postgres

open Transaction

variable {V J ι : Type}

/-! ### Requests -/

/--
A session of the cluster and a session of the server that has the database to itself.

A value that is drawn in an open transaction is drawn at once for everybody in the cluster.
-/
structure Cluster.Mirrors (i : ι) (now : Time) (g : Cluster ι J) (session : Session (Database J)) :
    Prop where
  committed : { session.committed with sequence := g.committed.sequence } = g.committed
  idle : session.work = none → session.committed = g.committed
  work : session.work =
    (g.work i).map fun work => { data := work.visible g.committed, failed := work.failed }
  began : ∀ work, g.work i = some work → work.began = now
  alone : ∀ j, j ≠ i → g.work j = none

/-- Where a request may stand: on its own between transactions, or in an open one. -/
def WellPlaced (opened : Bool) : Request (Statement V) → Prop
  | .auto _ | .start => opened = false
  | .exec statement => statement.manages = false
  | .commit | .rollback => True

namespace Cluster.Mirrors

variable [DecidableEq ι] {codec : Codec V J} {i : ι} {now : Time} {g : Cluster ι J}
  {session : Session (Database J)}

/-- Nobody makes a session wait that is alone. -/
theorem not_blocked [Fintype ι] (mirrors : g.Mirrors i now session) (statement : Statement V) :
    g.blocks i statement = false := by
  -- There is no transaction to wait for.
  refine decide_eq_false ?_
  rintro ⟨j, apart, waits⟩
  have nothing : g.changesOf j = [] := by simp [Cluster.changesOf, mirrors.alone j apart]
  rw [nothing] at waits
  cases statement <;> simp [Statement.waitsFor] at waits

/-- A session without a transaction is mirrored by one without a transaction. -/
theorem closed (alone : ∀ j, j ≠ i → g.work j = none) (committed : Database J) :
    Cluster.Mirrors i now { g.setWork i none with committed } (.idle committed) := by
  -- Nothing is open on either side, and both have the same data.
  refine ⟨rfl, fun _ => rfl, ?_, ?_, ?_⟩
  · simp [Session.idle, Cluster.setWork]
  · intro work opened
    simp [Cluster.setWork] at opened
  · intro j apart
    simp only [Cluster.setWork, Function.update_of_ne apart, alone j apart]

/-- Taking back the open transaction leaves what is committed and what was drawn. -/
theorem abandoned (mirrors : g.Mirrors i now session) {work : OpenWork J}
    (opened : g.work i = some work) :
    Cluster.Mirrors i now (g.setWork i none) ((server codec now).abandon session) := by
  -- What is undone is all but the values that were drawn.
  have open_ := mirrors.work
  rw [opened, Option.map_some] at open_
  have left : (server codec now).abandon session = .idle g.committed := by
    simp only [Server.abandon, open_, server, visible_sequence, mirrors.committed]
  rw [left]
  exact closed mirrors.alone g.committed

/-- A statement of the open transaction is answered as on the server. -/
theorem execWithin (codec : Codec V J) (mirrors : g.Mirrors i now session) {work : OpenWork J}
    (opened : g.work i = some work) (sound : work.failed = false) {statement : Statement V}
    (placed : statement.manages = false) (room : g.committed.sequence + 1 < 2 ^ 63) :
    (g.execWithin codec i work statement).1 =
        ((server codec now).execWithin session statement).1 ∧
      Cluster.Mirrors i now (g.execWithin codec i work statement).2
        ((server codec now).execWithin session statement).2 := by
  have open_ := mirrors.work
  rw [opened, Option.map_some] at open_
  have began := mirrors.began work opened
  have same : statement.run codec work.began (work.visible g.committed) =
      (server codec now).exec statement (work.visible g.committed) := by
    rw [began]
    exact run_of_room (by rw [visible_sequence]; exact room)
  have others : ∀ work', ∀ j, j ≠ i → (g.setWork i work').work j = none := by
    intro work' j apart
    simp only [Cluster.setWork, Function.update_of_ne apart, mirrors.alone j apart]
  cases ran : (server codec now).exec statement (work.visible g.committed) with
  | error e =>
    -- The transaction has failed on both sides.
    rw [ran] at same
    simp only [Cluster.execWithin, same, Server.execWithin, open_, sound, Bool.false_eq_true, if_false,
      ran, true_and]
    refine ⟨mirrors.committed, (fun idle => by cases idle), ?_, ?_, others _⟩
    · simp [Session.broken, Cluster.setWork, OpenWork.visible]
    · intro later reopened
      simp only [Cluster.setWork, Function.update_self, Option.some.injEq] at reopened
      rw [← reopened]
      exact began
  | ok result =>
    rw [ran] at same
    obtain ⟨answer, data⟩ := result
    have kept : data.tenants = g.committed.tenants := by
      rw [(exec_effect ran).tenants placed, visible_tenants]
    have seen := visible_after same kept
    simp only [Cluster.execWithin, same, Server.execWithin, open_, sound, Bool.false_eq_true, if_false,
      ran, true_and]
    refine ⟨?_, (fun idle => by cases idle), ?_, ?_, others _⟩
    · -- Only the value that was drawn last has changed.
      have before := mirrors.committed
      show { session.committed with sequence := data.sequence } = { g.committed with sequence := data.sequence }
      rw [← before]
    · simp only [sound] at seen
      simp only [Session.working, Cluster.setWork, Function.update_self, Option.map_some, seen]
    · intro later reopened
      simp only [Cluster.setWork, Function.update_self, Option.some.injEq] at reopened
      rw [← reopened]
      exact began

/-- A request is answered alike in the cluster and on the server, and the two stay mirrored. -/
def Alike [Fintype ι] (codec : Codec V J) (i : ι) (now : Time) (g : Cluster ι J)
    (session : Session (Database J)) (request : Request (Statement V)) : Prop :=
  ∃ after, g.serve codec i { now } request =
      some (((server codec now).step session request).1, after) ∧
    after.Mirrors i now ((server codec now).step session request).2

variable [Fintype ι]

/-- A statement on its own. -/
theorem auto (mirrors : g.Mirrors i now session) (statement : Statement V) (free : g.work i = none)
    (room : g.committed.sequence + 1 < 2 ^ 63) : Alike codec i now g session (.auto statement) := by
  -- Between transactions both sides run the statement on the same data.
  have work := mirrors.work
  rw [free, Option.map_none] at work
  have runs : statement.run codec now g.committed =
      (server codec now).exec statement session.committed := by
    rw [mirrors.idle work]
    exact run_of_room room
  cases ran : (server codec now).exec statement session.committed with
  | error e =>
    rw [ran] at runs
    refine ⟨g, ?_, ?_⟩
    · simp only [Cluster.serve, Cluster.execAuto, runs, Server.step, Server.execAuto, ran]
      rfl
    · simp only [Server.step, Server.execAuto, ran]
      exact mirrors
  | ok result =>
    rw [ran] at runs
    refine ⟨{ g with committed := result.2 }, ?_, ?_⟩
    · simp only [Cluster.serve, Cluster.execAuto, runs, Server.step, Server.execAuto, ran]
      rfl
    · simp only [Server.step, Server.execAuto, ran]
      refine ⟨rfl, fun _ => rfl, ?_, mirrors.began, mirrors.alone⟩
      rw [free, Option.map_none]
      exact work

/-- The beginning of a transaction. -/
theorem start (mirrors : g.Mirrors i now session) (free : g.work i = none) :
    Alike codec i now g session .start := by
  -- Nothing has been changed yet, so both sides see what is committed.
  have work := mirrors.work
  rw [free, Option.map_none] at work
  have same := mirrors.idle work
  refine ⟨g.setWork i (some { began := now, changes := [], failed := false }), rfl, ?_⟩
  simp only [Server.step]
  refine ⟨mirrors.committed, (fun idle => by cases idle), ?_, ?_, ?_⟩
  · simp [Session.working, Cluster.setWork, OpenWork.visible, same]
  · intro later reopened
    simp only [Cluster.setWork, Function.update_self, Option.some.injEq] at reopened
    rw [← reopened]
  · intro j apart
    simp only [Cluster.setWork, Function.update_of_ne apart, mirrors.alone j apart]

/-- A statement of a transaction, or one without. -/
theorem exec (mirrors : g.Mirrors i now session) {statement : Statement V}
    (placed : statement.manages = false) (room : g.committed.sequence + 1 < 2 ^ 63) :
    Alike codec i now g session (.exec statement) := by
  have work := mirrors.work
  cases opened : g.work i with
  | none =>
    rw [opened, Option.map_none] at work
    refine ⟨g, ?_, ?_⟩
    · simp only [Cluster.serve, opened, Server.step, Server.execWithin, work]
      rfl
    · simp only [Server.step, Server.execWithin, work]
      exact mirrors
  | some open_ =>
    rw [opened, Option.map_some] at work
    cases failed : open_.failed with
    | true =>
      refine ⟨g, ?_, ?_⟩
      · simp only [Cluster.serve, opened, failed, Server.step, Server.execWithin, work, if_true]
        rfl
      · simp only [Server.step, Server.execWithin, work, failed, if_true]
        exact mirrors
    | false =>
      -- Nobody else has a transaction, so the statement need not wait.
      obtain ⟨answered, next⟩ := mirrors.execWithin codec opened failed placed room
      refine ⟨(g.execWithin codec i open_ statement).2, ?_, next⟩
      simp only [Cluster.serve, opened, failed, Bool.false_eq_true, if_false, mirrors.not_blocked,
        Server.step, ← answered]
      rfl

/-- The commit of a transaction. -/
theorem commit (mirrors : g.Mirrors i now session) : Alike codec i now g session .commit := by
  -- A transaction that failed is taken back on both sides, and any other one is kept.
  have work := mirrors.work
  cases opened : g.work i with
  | none =>
    rw [opened, Option.map_none] at work
    refine ⟨g, ?_, ?_⟩
    · simp only [Cluster.serve, opened, Server.step, work]
      rfl
    · simp only [Server.step, work]
      exact mirrors
  | some open_ =>
    rw [opened, Option.map_some] at work
    cases failed : open_.failed with
    | true =>
      refine ⟨g.setWork i none, ?_, ?_⟩
      · simp only [Cluster.serve, opened, failed, Server.step, work, if_true]
        rfl
      · simp only [Server.step, work, failed, if_true]
        exact mirrors.abandoned opened
    | false =>
      refine ⟨{ g.setWork i none with committed := open_.visible g.committed }, ?_, ?_⟩
      · simp only [Cluster.serve, opened, failed, Server.step, work, Bool.false_eq_true, if_false]
      · simp only [Server.step, work, failed, Bool.false_eq_true, if_false]
        exact closed mirrors.alone _

/-- The rollback of a transaction. -/
theorem rollback (mirrors : g.Mirrors i now session) : Alike codec i now g session .rollback := by
  -- The transaction is taken back, if there is one.
  have work := mirrors.work
  cases opened : g.work i with
  | none =>
    rw [opened, Option.map_none] at work
    refine ⟨g, ?_, ?_⟩
    · simp only [Cluster.serve, opened, Server.step, work]
      rfl
    · simp only [Server.step, work]
      exact mirrors
  | some open_ =>
    rw [opened, Option.map_some] at work
    refine ⟨g.setWork i none, ?_, ?_⟩
    · simp only [Cluster.serve, opened, Server.step, work]
    · simp only [Server.step, work]
      exact mirrors.abandoned opened

/--
A session that is alone is answered as by a server that has no other client.

The two stay mirrored, so what holds of a method on the server holds of it in the cluster.
-/
theorem serve (mirrors : g.Mirrors i now session) {request : Request (Statement V)}
    (placed : WellPlaced session.work.isSome request) (room : g.committed.sequence + 1 < 2 ^ 63) :
    Alike codec i now g session request := by
  -- A transaction is open on both sides or on neither.
  have opened : session.work.isSome = (g.work i).isSome := by simp [mirrors.work]
  rw [opened] at placed
  have closed : (g.work i).isSome = false → g.work i = none := by simp
  cases request with
  | auto statement => exact mirrors.auto statement (closed placed) room
  | start => exact mirrors.start (closed placed)
  | exec statement => exact mirrors.exec placed room
  | commit => exact mirrors.commit
  | rollback => exact mirrors.rollback

end Cluster.Mirrors

/-! ### Calls -/

/-- Every request of a client stands where it may stand, whatever the client is answered. -/
def Placed {α : Type} (opened : Bool) : Script (Statement V) Statement.Answer Err α → Prop
  | .done _ => True
  | .ask request next =>
    WellPlaced opened request ∧ ∀ reply, Placed (request.opens opened reply) (next reply)

section Placed

variable {α β : Type}

/-- Statements on their own stand between transactions. -/
theorem placed_of_quiet {post : α → Prop} {script : Script (Statement V) Statement.Answer Err α}
    (quiet : script.Sends Quiet post) : Placed false script := by
  -- The induction is on the client, and every request of it is a statement on its own.
  induction script with
  | done value => trivial
  | ask request next ih =>
    obtain ⟨kind, later⟩ := quiet
    cases request with
    | auto statement => exact ⟨rfl, fun reply => ih reply (later reply)⟩
    | _ => exact kind.elim

/-- What is sent in a transaction that writes for a tenant may stand anywhere. -/
theorem placed_of_inside {tenantID : String} {post : α → Prop}
    {script : Script (Statement V) Statement.Answer Err α}
    (inside : script.Sends (Inside tenantID) post) (opened : Bool) : Placed opened script := by
  induction script generalizing opened with
  | done value => trivial
  | ask request next ih =>
    obtain ⟨kind, later⟩ := inside
    refine ⟨?_, fun reply => ih reply (later reply) _⟩
    cases request with
    | exec statement =>
      -- A statement that writes tuples or entries leaves the tenants alone.
      cases statement with
      | insertTenant tenant configJSON created => cases kind
      | updateTenant tenant configJSON => cases kind
      | _ => rfl
    | auto statement => exact kind.elim
    | start => exact kind.elim
    | _ => trivial

/-- Wrapping the value of a client changes nothing it sends. -/
theorem Placed.map {opened : Bool} {script : Script (Statement V) Statement.Answer Err α}
    (placed : Placed opened script) (wrap : α → β) : Placed opened (wrap <$> script) := by
  induction script generalizing opened with
  | done value => trivial
  | ask request next ih => exact ⟨placed.1, fun reply => ih reply (placed.2 reply)⟩

/-- A method checks the status before its transaction, and stays in the transaction after that. -/
theorem guarded_placed {tenantID : String} {body : StoreM V Unit}
    (inside : SendsInside tenantID body) :
    Placed false (do
      ensureTenantWritable tenantID
      withTransaction body : StoreM V Unit).run := by
  refine ⟨rfl, fun found => ?_⟩
  match found with
  | .error e => trivial
  | .ok none => trivial
  | .ok (some status) =>
    cases status with
    | active =>
      refine ⟨rfl, fun begun => ?_⟩
      match begun with
      | .error e => trivial
      | .ok () =>
        -- The rest is the body, and a rollback after it.
        have whole : Script.Sends (Inside tenantID) (fun _ : Except Err Unit => True)
            (body.run >>= fun outcome => .ask .rollback fun _ => .done outcome) :=
          Script.Sends.bind inside fun outcome _ => ⟨trivial, fun _ => trivial⟩
        exact placed_of_inside whole true
    | _ => trivial

/-- Every call begins outside of transactions and keeps its requests where they may stand. -/
theorem call_placed (codec : Codec V J) (config : ConfigCodec V) (reader : Reader V) (call : Call V) :
    Placed false (call.script codec config reader) := by
  cases writes : call.writes with
  | none => exact placed_of_quiet (quiet_sends writes)
  | some tenantID =>
    obtain ⟨body, inside, sends⟩ := write_guarded codec config reader writes
    rw [sends]
    exact (guarded_placed inside).map CallResult.done

end Placed

section Runs

variable [Fintype ι] [DecidableEq ι] {codec : Codec V J} {config : ConfigCodec V} {i : ι} {now : Time}

/-- A number of answers to one session, and to nobody else. -/
def answered (i : ι) (now : Time) (count : Nat) : List (Event ι Choice (Call V)) :=
  List.replicate count (.step i { now })

/-- The sequence has a value left, however many answers the session gets. -/
def NeverExhausted (i : ι) (now : Time) (net : Net (sessions codec config (ι := ι))) : Prop :=
  ∀ count, ((sessions codec config).machine.final net (answered i now count)).shared.committed.sequence
    + 1 < 2 ^ 63

/-- A session ends its call with a result that its reader takes in, and nobody else has moved. -/
structure Finishes (i : ι) (now : Time) (reader : Reader V) (net : Net (sessions codec config (ι := ι)))
    (ended : CallResult V × Session (Database J)) (after : Net (sessions codec config (ι := ι))) :
    Prop where
  reached : ∃ count, (sessions codec config).machine.final net (answered i now count) = after
  party : after.parties i = { memory := reader.take ended.1, running := none }
  mirrors : after.shared.Mirrors i now ended.2
  others : ∀ j, j ≠ i → after.parties j = net.parties j

/-- A session that is alone and in a call ends the call as on the server. -/
theorem Cluster.Mirrors.finishes
    {script : Script (Statement V) Statement.Answer Err (CallResult V)}
    {net : Net (sessions codec config (ι := ι))} {session : Session (Database J)}
    (mirrors : net.shared.Mirrors i now session) (left : (net.parties i).rest = some script)
    (placed : Placed session.work.isSome script) (room : NeverExhausted i now net) :
    ∃ after, Finishes i now (net.parties i).memory net (script.run (server codec now) session) after := by
  -- The induction is on what is left of the call.
  induction script generalizing net session with
  | done value =>
    obtain ⟨r, -, asks⟩ := Option.map_eq_some_iff.mp left
    cases asks
  | ask request next ih =>
    have alike : Cluster.Mirrors.Alike codec i now net.shared session request :=
      mirrors.serve placed.1 (room 0)
    obtain ⟨shared, served, mirrored⟩ := alike
    have answers : (sessions codec config).serve i { now } net.shared request =
        some (((server codec now).step session request).1, shared) := served
    obtain ⟨stored, goes_on, others⟩ := Net.step_rest left answers
    have stands := placed.2 ((server codec now).step session request).1
    rw [← (server codec now).step_opens session request] at stands
    have never : NeverExhausted i now (net.step (.step i { now })) := fun count => room (count + 1)
    have continues := @ih ((server codec now).step session request).1 (net.step (.step i { now }))
      ((server codec now).step session request).2
    rw [stored] at continues
    show ∃ after, Finishes i now _ net ((next ((server codec now).step session request).1).run
      (server codec now) ((server codec now).step session request).2) after
    generalize next ((server codec now).step session request).1 = rest at goes_on stands continues ⊢
    cases goes_on with
    | done call party =>
      -- The call is over, and the session remembers what came of it.
      refine ⟨net.step (.step i { now }), ⟨1, rfl⟩, party, ?_, others⟩
      rw [stored]
      exact mirrored
    | ask memory waiting =>
      -- The call goes on from the next request.
      obtain ⟨after, finishes⟩ := continues mirrored waiting stands never
      obtain ⟨count, reached⟩ := finishes.reached
      refine ⟨after, ⟨count + 1, reached⟩, by rw [finishes.party, memory], finishes.mirrors, ?_⟩
      intro j other
      rw [finishes.others j other, others j other]

/--
A call of a session that is alone has the result and the effect that it has on the server.

What is proved of a method on a server without other clients therefore holds in the cluster.
-/
theorem call_alone {net : Net (sessions codec config (ι := ι))} {call : Call V}
    (free : (net.parties i).running = none) (closed : ∀ j, net.shared.work j = none)
    (room : NeverExhausted i now (net.step (.start i call))) :
    ∃ after, Finishes i now (net.parties i).memory (net.step (.start i call))
      ((call.script codec config (net.parties i).memory).run (server codec now)
        (.idle net.shared.committed)) after := by
  have mirrors : net.shared.Mirrors i now (.idle net.shared.committed) := by
    refine ⟨rfl, fun _ => rfl, by rw [closed i]; rfl, ?_, fun j _ => closed j⟩
    intro work opened
    rw [closed i] at opened
    cases opened
  have placed := call_placed codec config (net.parties i).memory call
  have begun : (net.parties i).GoesOn ((net.step (.start i call)).parties i)
      (call.script codec config (net.parties i).memory) := (Net.start_rest call free).2.1
  rw [← (Net.start_rest call free).1] at mirrors ⊢
  -- A call that sends nothing is over at once.
  generalize call.script codec config (net.parties i).memory = script at placed begun ⊢
  cases begun with
  | done _ party =>
    exact ⟨net.step (.start i call), ⟨0, rfl⟩, party, mirrors, fun _ _ => rfl⟩
  | ask memory waiting =>
    rw [← memory]
    exact mirrors.finishes waiting placed room

end Runs

end ZanGuard.Postgres
