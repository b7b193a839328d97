import ZanGuard.Lib.Sessions

/-! Clients whose requests may fail, and those that leave nothing behind when they give up. -/

namespace Transaction

variable {S T D C E α β : Type} {Answer : S → Type} {Result : T → Type}

/-! ### Requests that fail -/

/-- A failure in the open transaction breaks it. -/
def Session.fail (session : Session D) : Session D :=
  match session.work with
  | none => session
  | some work => .broken session.committed work.data

/-- How the server answers a request, or where a failure of the request leaves the session. -/
def Server.stepFaulty (server : Server S D E Answer) (fault : Option E) (session : Session D)
    (request : Request S) : request.Reply Answer E × Session D :=
  match fault with
  | none => server.step session request
  | some e =>
    match request with
    | .auto _ => (.error e, session)
    | .start => (.error e, session)
    | .exec _ => (.error e, session.fail)
    -- Whatever becomes of the connection, the transaction is not committed.
    | .commit => (.error e, server.abandon session)
    | .rollback => (.error e, server.abandon session)

/-- Run a client alone against a server, with the failures of its requests in their order. -/
def Script.runFaulty (server : Server S D E Answer) :
    Script S Answer E α → (Nat → Option E) → Session D → α × Session D
  | .done value, _, session => (value, session)
  | .ask request next, faults, session =>
    let answered := server.stepFaulty (faults 0) session request
    (next answered.1).runFaulty server (fun n => faults (n + 1)) answered.2

/-- The outcome of a client that may give up. -/
def Client.fromFaulty (server : Server S D E Answer) (faults : Nat → Option E)
    (client : Client S Answer E α) (session : Session D) : Except E α × Session D :=
  client.run.runFaulty server faults session

/-- Without failures a client runs as it does. -/
theorem Client.fromFaulty_none (server : Server S D E Answer) (client : Client S Answer E α)
    (session : Session D) :
    Client.fromFaulty server (fun _ => none) client session = Client.from server client session := by
  unfold Client.fromFaulty Client.from
  -- The induction is on the client, whose session changes with each request.
  induction client.run generalizing session with
  | done value => rfl
  | ask request next ih => exact ih _ _

section Autos

variable (server : Server S D E Answer) {faults : Nat → Option E} (session : Session D)
  {statement : S} {next : Answer statement → Client S Answer E α}

/-- A client ends with a statement on its own that fails on its way. -/
theorem Client.fromFaulty_auto_fault {e : E} (fails : faults 0 = some e) :
    Client.fromFaulty server faults (auto statement >>= next) session = (.error e, session) := by
  show Script.runFaulty server (.ask (.auto statement) _) faults session = _
  simp only [Script.runFaulty, Server.stepFaulty, fails]
  rfl

/-- It goes on after one that succeeds. -/
theorem Client.fromFaulty_auto_ok {answer : Answer statement} {data : D} (fine : faults 0 = none)
    (succeeds : server.exec statement session.committed = .ok (answer, data)) :
    Client.fromFaulty server faults (auto statement >>= next) session =
      Client.fromFaulty server (fun n => faults (n + 1)) (next answer)
        { session with committed := data } := by
  show Script.runFaulty server (.ask (.auto statement) _) faults session = _
  simp only [Script.runFaulty, Server.stepFaulty, fine, Server.step, Server.execAuto, succeeds]
  rfl

end Autos

/-! ### Clients that are undivided -/

/-- Where a client is: before its one change, in its transaction, or after what it committed. -/
inductive Phase where
  | before
  | inside
  | after
  deriving DecidableEq

/-- What a client may ask in a phase. -/
def Phase.allows : Phase → Request S → Bool
  | .before, .auto _ | .before, .start | .before, .rollback => true
  | .inside, .exec _ | .inside, .commit | .inside, .rollback => true
  | .after, .rollback => true
  | _, _ => false

/-- The phase after an answer, given which statements change something. -/
def Phase.step (changes : S → Bool) :
    Phase → (request : Request S) → request.Reply Answer E → Phase
  | .before, .auto statement, .ok _ => if changes statement then .after else .before
  | .before, .start, .ok _ => .inside
  | .inside, .commit, .ok _ => .after
  | .inside, .commit, .error _ => .before
  | .inside, .rollback, _ => .before
  | phase, _, _ => phase

/-- From a phase on, a client commits one change at most, and does not give up after it. -/
def Script.Undivided (changes : S → Bool) : Script S Answer E (Except E α) → Phase → Prop
  | .done outcome, phase => phase = .after → outcome.isOk = true
  | .ask request next, phase =>
    phase.allows request = true ∧
      ∀ reply, (next reply).Undivided changes (phase.step changes request reply)

/-- What is seen of the data of a server, and which statements may change what is seen. -/
structure Server.Shows (server : Server S D E Answer) (view : D → C) (changes : S → Bool) :
    Prop where
  undone : ∀ committed data, view (server.undo committed data) = view committed
  read : ∀ statement data answer after, changes statement = false →
    server.exec statement data = .ok (answer, after) → view after = view data

/-- What is known of a session in a phase, given the data at the start. -/
def Phase.Holds (view : D → C) (start : D) (session : Session D) : Phase → Prop
  | .before => session.work = none ∧ view session.committed = view start
  | .inside => session.work.isSome = true ∧ view session.committed = view start
  | .after => session.work = none

section Sound

variable {server : Server S D E Answer} {view : D → C} {changes : S → Bool} {start : D}
  {session : Session D}

/-- An open transaction that is taken back leaves nothing that is seen. -/
theorem Server.Shows.abandon (shows_ : server.Shows view changes) :
    view (server.abandon session).committed = view session.committed := by
  unfold Server.abandon
  split
  · rfl
  · exact shows_.undone _ _

/-- A rollback, answered or not, takes the open transaction back. -/
theorem Server.stepFaulty_rollback (fault : Option E) :
    (server.stepFaulty fault session .rollback).2 = server.abandon session := by
  cases fault with
  | some e => rfl
  | none =>
    cases opened : session.work with
    | none => simp [Server.stepFaulty, Server.step, Server.abandon, opened]
    | some work => simp [Server.stepFaulty, Server.step, opened]

/-- What is known of a phase is known of the phase after a request that is allowed. -/
theorem Phase.holds_step (shows_ : server.Shows view changes) {phase : Phase} {request : Request S}
    (allowed : phase.allows request = true) (holds : phase.Holds view start session)
    (fault : Option E) :
    (phase.step changes request (server.stepFaulty fault session request).1).Holds view start
      (server.stepFaulty fault session request).2 := by
  cases phase with
  | before =>
    obtain ⟨idle, same⟩ := holds
    cases request with
    | exec _ | commit => cases allowed
    | start =>
      cases fault with
      -- A transaction that was not opened leaves the client where it is.
      | some e => exact ⟨idle, same⟩
      | none => exact ⟨rfl, same⟩
    | rollback =>
      show Phase.Holds view start _ .before
      rw [Server.stepFaulty_rollback]
      exact ⟨Server.abandon_work server session, shows_.abandon.trans same⟩
    | auto statement =>
      cases fault with
      | some e => exact ⟨idle, same⟩
      | none =>
        simp only [Server.stepFaulty, Server.step, Server.execAuto]
        cases ran : server.exec statement session.committed with
        | error e => exact ⟨idle, same⟩
        | ok result =>
          obtain ⟨answer, data⟩ := result
          simp only [Phase.step]
          -- A statement that changes something is the one change of the client.
          split
          · exact idle
          · rename_i reads
            exact ⟨idle, (shows_.read _ _ _ _ (Bool.eq_false_iff.mpr reads) ran).trans same⟩
  | inside =>
    obtain ⟨opened, same⟩ := holds
    obtain ⟨work, found⟩ := Option.isSome_iff_exists.mp opened
    cases request with
    | auto _ | start => cases allowed
    | exec statement =>
      show Phase.Holds view start _ .inside
      cases fault with
      | some e =>
        -- A failure within the transaction breaks it, and nothing is committed.
        simp only [Server.stepFaulty, Session.fail, found]
        exact ⟨rfl, same⟩
      | none =>
        simp only [Server.stepFaulty, Server.step, Server.execWithin, found]
        split
        · exact ⟨opened, same⟩
        · -- Whether it fails or not, the statement leaves what is committed.
          split
          · exact ⟨rfl, same⟩
          · exact ⟨rfl, same⟩
    | rollback =>
      show Phase.Holds view start _ .before
      rw [Server.stepFaulty_rollback]
      exact ⟨Server.abandon_work server session, shows_.abandon.trans same⟩
    | commit =>
      cases fault with
      | some e => exact ⟨Server.abandon_work server session, shows_.abandon.trans same⟩
      | none =>
        simp only [Server.stepFaulty, Server.step, found]
        split
        · -- The commit of a broken transaction is its rollback.
          exact ⟨Server.abandon_work server session, shows_.abandon.trans same⟩
        · rfl
  | after =>
    cases request with
    | auto _ | start | exec _ | commit => cases allowed
    | rollback =>
      show Phase.Holds view start _ .after
      rw [Server.stepFaulty_rollback]
      exact Server.abandon_work server session

/-- A client that is undivided leaves nothing behind when it gives up, whichever requests fail. -/
theorem Script.Undivided.sound (shows_ : server.Shows view changes)
    {script : Script S Answer E (Except E α)} {phase : Phase}
    (undivided : script.Undivided changes phase) (holds : phase.Holds view start session)
    (faults : Nat → Option E) {e : E}
    (gaveUp : (script.runFaulty server faults session).1 = .error e) :
    view (script.runFaulty server faults session).2.committed = view start := by
  -- The induction is on the client, with what is known of the phase it is in.
  induction script generalizing phase session faults with
  | done outcome =>
    obtain rfl : outcome = .error e := gaveUp
    -- Whoever gives up has not committed anything yet.
    cases phase with
    | before => exact holds.2
    | inside => exact holds.2
    | after => cases undivided rfl
  | ask request next ih =>
    obtain ⟨allowed, rest⟩ := undivided
    exact ih _ (rest _) (Phase.holds_step shows_ allowed holds (faults 0)) _ gaveUp

end Sound

/-! ### Parts of undivided clients -/

section Parts

variable {changes : S → Bool}

/-- A statement on its own that changes nothing that is seen. -/
def Reading (changes : S → Bool) : Request S → Prop
  | .auto statement => changes statement = false
  | _ => False

/-- A statement of the open transaction. -/
def Within : Request S → Prop
  | .exec _ => True
  | _ => False

/-- A client may begin with requests that leave it in its phase. -/
theorem Script.undivided_bind {phase : Phase} {Q : Request S → Prop} {mid : β → Prop}
    (stays : ∀ request, Q request → phase.allows request = true ∧
      ∀ reply : request.Reply Answer E, phase.step changes request reply = phase)
    (early : phase ≠ .after) {first : Client S Answer E β} {next : β → Client S Answer E α}
    (sends : first.run.Sends Q (OnSuccess mid))
    (later : ∀ value, mid value → (next value).run.Undivided changes phase) :
    (first >>= next).run.Undivided changes phase := by
  show (first.run >>= ExceptT.bindCont next).Undivided changes phase
  -- The induction is on the first part.
  generalize first.run = script at sends ⊢
  induction script with
  | done outcome =>
    cases outcome with
    | ok value => exact later value sends
    -- Giving up before the change is allowed.
    | error e => exact fun late => absurd late early
  | ask request rest ih =>
    obtain ⟨allowed, same⟩ := stays request sends.1
    refine ⟨allowed, fun reply => ?_⟩
    rw [same reply]
    exact ih reply (sends.2 reply)

/-- It may read before its change. -/
theorem Script.undivided_reads {mid : β → Prop} {first : Client S Answer E β}
    {next : β → Client S Answer E α} (sends : first.run.Sends (Reading changes) (OnSuccess mid))
    (later : ∀ value, mid value → (next value).run.Undivided changes .before) :
    (first >>= next).run.Undivided changes .before := by
  refine Script.undivided_bind ?_ (by decide) sends later
  intro request reads
  cases request with
  | start | exec _ | commit | rollback => cases reads
  | auto statement =>
    refine ⟨rfl, fun reply => ?_⟩
    -- A statement that only reads is no change, whether it succeeds or not.
    cases reply with
    | error e => rfl
    | ok answer => exact if_neg (Bool.eq_false_iff.mp reads)

/-- In its transaction it may send statements. -/
theorem Script.undivided_within {mid : β → Prop} {first : Client S Answer E β}
    {next : β → Client S Answer E α} (sends : first.run.Sends Within (OnSuccess mid))
    (later : ∀ value, mid value → (next value).run.Undivided changes .inside) :
    (first >>= next).run.Undivided changes .inside := by
  refine Script.undivided_bind ?_ (by decide) sends later
  intro request within
  cases request with
  | auto _ | start | commit | rollback => cases within
  | exec statement => exact ⟨rfl, fun _ => rfl⟩

/-- One statement on its own is undivided, whatever it changes. -/
theorem Script.undivided_auto (statement : S) (value : α) :
    (auto statement >>= fun _ => (pure value : Client S Answer E α)).run.Undivided changes
      .before := by
  refine ⟨rfl, fun reply => ?_⟩
  -- Having changed something, the client does not give up.
  cases reply with
  | error e => exact nofun
  | ok answer => exact fun _ => rfl

/-- A transaction may end with its commit. -/
theorem Script.undivided_commit :
    (commit : Client S Answer E Unit).run.Undivided changes .inside := by
  refine ⟨rfl, fun reply => ?_⟩
  cases reply with
  | error e => exact nofun
  | ok _ => exact fun _ => rfl

/-- A rollback at the end does no harm. -/
theorem Script.Undivided.rollback {phase : Phase} {script : Script S Answer E (Except E α)}
    (undivided : script.Undivided changes phase) :
    (script >>= fun outcome => .ask .rollback fun _ => .done outcome).Undivided changes phase := by
  -- The induction is on what comes before the rollback.
  induction script generalizing phase with
  | done outcome =>
    cases phase with
    | before => exact ⟨rfl, fun _ => nofun⟩
    | inside => exact ⟨rfl, fun _ => nofun⟩
    | after => exact ⟨rfl, fun _ => undivided⟩
  | ask request next ih => exact ⟨undivided.1, fun reply => ih reply (undivided.2 reply)⟩

/-- A transaction is undivided when its body is. -/
theorem Script.undivided_withTransaction {body : Client S Answer E α}
    (inside : body.run.Undivided changes .inside) :
    (withTransaction body).run.Undivided changes .before := by
  refine ⟨rfl, fun reply => ?_⟩
  cases reply with
  | error e => exact nofun
  | ok _ => exact inside.rollback

end Parts

/-! ### Clients of a part of the server -/

/-- The request with its statement among those of a larger server. -/
def Request.embed (put : S → T) : Request S → Request T
  | .auto statement => .auto (put statement)
  | .start => .start
  | .exec statement => .exec (put statement)
  | .commit => .commit
  | .rollback => .rollback

/-- Take back what the larger server has answered. -/
def Request.answered (put : S → T) (back : ∀ statement, Result (put statement) → Answer statement) :
    (request : Request S) → (request.embed put).Reply Result E → request.Reply Answer E
  | .auto statement, reply => Except.map (back statement) reply
  | .start, reply => reply
  | .exec statement, reply => Except.map (back statement) reply
  | .commit, reply => reply
  | .rollback, reply => reply

/-- The client as one of a larger server. -/
def Script.embed (put : S → T) (back : ∀ statement, Result (put statement) → Answer statement) :
    Script S Answer E α → Script T Result E α
  | .done value => .done value
  | .ask request next =>
    .ask (request.embed put) fun reply => (next (request.answered put back reply)).embed put back

/-- A client that may give up, as one of a larger server. -/
def Client.embed (put : S → T) (back : ∀ statement, Result (put statement) → Answer statement)
    (client : Client S Answer E α) : Client T Result E α :=
  ExceptT.mk (client.run.embed put back)

section Embed

variable {put : S → T} {back : ∀ statement, Result (put statement) → Answer statement}

/-- It sends what it sent, to the larger server. -/
theorem Script.sends_embed {Q : Request T → Prop} {post : α → Prop} {script : Script S Answer E α}
    (sends : script.Sends (fun request => Q (request.embed put)) post) :
    (script.embed put back).Sends Q post := by
  -- The induction is on the client.
  induction script with
  | done value => exact sends
  | ask request next ih => exact ⟨sends.1, fun reply => ih _ (sends.2 _)⟩

/-- A request is allowed in the same phases. -/
theorem Phase.allows_embed (phase : Phase) (request : Request S) :
    phase.allows (request.embed put) = phase.allows request := by
  cases phase <;> cases request <;> rfl

/-- And the answer leads to the same phase. -/
theorem Phase.step_embed (back : ∀ statement, Result (put statement) → Answer statement)
    (changes : T → Bool) (phase : Phase) (request : Request S)
    (reply : (request.embed put).Reply Result E) :
    phase.step changes (request.embed put) reply =
      phase.step (fun statement => changes (put statement)) request
        (request.answered put back reply) := by
  -- Only whether the answer is an error matters, and taking it back does not change that.
  cases phase <;> cases request <;> first | rfl | (cases reply <;> rfl)

/-- A client is undivided on the larger server when it is on the part. -/
theorem Script.Undivided.embed {changes : T → Bool} {phase : Phase}
    {script : Script S Answer E (Except E α)}
    (undivided : script.Undivided (fun statement => changes (put statement)) phase) :
    (script.embed put back).Undivided changes phase := by
  -- The induction is on the client.
  induction script generalizing phase with
  | done outcome => exact undivided
  | ask request next ih =>
    refine ⟨(Phase.allows_embed phase request).trans undivided.1, fun reply => ?_⟩
    rw [Phase.step_embed back]
    exact ih _ (undivided.2 _)

end Embed

end Transaction
