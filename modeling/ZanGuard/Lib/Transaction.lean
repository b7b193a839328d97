import Mathlib.Data.List.Basic

/-! Clients that send statements to a transactional server, and what a transaction leaves behind. -/

namespace Transaction

variable {S D E α β : Type} {Answer : S → Type}

/-- A server, by what its statements answer and change. -/
structure Server (S D E : Type) (Answer : S → Type) where
  /-- A statement that fails changes nothing. -/
  exec : (statement : S) → D → Except E (Answer statement × D)
  /-- What a rollback leaves, from the committed data and the data of the transaction. -/
  undo : D → D → D
  /-- The answer to every statement of a transaction in which one has failed. -/
  aborted : E
  /-- The answer to a commit that turned into a rollback. -/
  rolledBack : E
  /-- The answer when no transaction is open. -/
  closed : E

/-- What a client asks of a server. -/
inductive Request (S : Type) where
  /-- A statement on its own, committed at once. -/
  | auto (statement : S)
  | start
  /-- A statement of the open transaction. -/
  | exec (statement : S)
  | commit
  | rollback

/-- What a request is answered with. -/
def Request.Reply (Answer : S → Type) (E : Type) : Request S → Type
  | .auto statement => Except E (Answer statement)
  | .exec statement => Except E (Answer statement)
  | .start => Except E Unit
  | .commit => Except E Unit
  | .rollback => Except E Unit

/-- A client: requests one after another, each chosen from the answers before it. -/
inductive Script (S : Type) (Answer : S → Type) (E α : Type) where
  | done (value : α)
  | ask (request : Request S) (next : request.Reply Answer E → Script S Answer E α)

/-- Continue a client with another one. -/
def Script.bind (script : Script S Answer E α) (next : α → Script S Answer E β) :
    Script S Answer E β :=
  match script with
  | .done value => next value
  | .ask request rest => .ask request fun reply => (rest reply).bind next

instance : Monad (Script S Answer E) where
  pure := .done
  bind := .bind

instance : LawfulMonad (Script S Answer E) :=
  LawfulMonad.mk' _
    (by
      intro α script
      -- Mapping the identity rebuilds every continuation as it was.
      induction script with
      | done value => rfl
      | ask request rest ih => exact congrArg (Script.ask request) (funext ih))
    (fun _ _ => rfl)
    (by
      intro α β γ script first second
      induction script with
      | done value => rfl
      | ask request rest ih => exact congrArg (Script.ask request) (funext ih))

/-- A client that gives up on an error, as a function that returns one does. -/
abbrev Client (S : Type) (Answer : S → Type) (E α : Type) := ExceptT E (Script S Answer E) α

/-- Send a statement of the open transaction and hand over its answer, error or not. -/
def tryExec (statement : S) : Client S Answer E (Except E (Answer statement)) :=
  ExceptT.mk (.ask (.exec statement) fun reply => .done (.ok reply))

/-- Send a statement of the open transaction and give up when it fails. -/
def exec (statement : S) : Client S Answer E (Answer statement) :=
  ExceptT.mk (.ask (.exec statement) .done)

/-- Send a statement on its own and give up when it fails. -/
def auto (statement : S) : Client S Answer E (Answer statement) :=
  ExceptT.mk (.ask (.auto statement) .done)

/-- Commit the open transaction. -/
def commit : Client S Answer E Unit :=
  ExceptT.mk (.ask .commit .done)

/-- Run a body in a transaction, with a rollback deferred to the end of the body. -/
def withTransaction (body : Client S Answer E α) : Client S Answer E α :=
  ExceptT.mk (.ask .start fun
    | .error e => .done (.error e)
    | .ok () => do
      let outcome ← body.run
      -- After a commit the deferred rollback finds no transaction, and nobody reads its answer.
      .ask .rollback fun _ => .done outcome)

/-- The open transaction: its data so far, and whether a statement of it has failed. -/
structure Work (D : Type) where
  data : D
  failed : Bool

/-- The committed data, and the transaction the client has open. -/
structure Session (D : Type) where
  committed : D
  work : Option (Work D)

/-- A client that has no transaction open. -/
def Session.idle (committed : D) : Session D :=
  { committed, work := none }

/-- A client whose transaction has not failed. -/
def Session.working (committed data : D) : Session D :=
  { committed, work := some { data, failed := false } }

/-- A client whose transaction has failed. -/
def Session.broken (committed data : D) : Session D :=
  { committed, work := some { data, failed := true } }

/-- Take back the open transaction, if there is one. -/
def Server.abandon (server : Server S D E Answer) (session : Session D) : Session D :=
  match session.work with
  | none => session
  | some work => .idle (server.undo session.committed work.data)

/-- Run a statement on the committed data. -/
def Server.execAuto (server : Server S D E Answer) (session : Session D) (statement : S) :
    Except E (Answer statement) × Session D :=
  match server.exec statement session.committed with
  | .error e => (.error e, session)
  | .ok (answer, data) => (.ok answer, { session with committed := data })

/-- Run a statement on the data of the open transaction. -/
def Server.execWithin (server : Server S D E Answer) (session : Session D) (statement : S) :
    Except E (Answer statement) × Session D :=
  match session.work with
  | none => (.error server.closed, session)
  | some work =>
    if work.failed then (.error server.aborted, session)
    else
      match server.exec statement work.data with
      | .error e => (.error e, .broken session.committed work.data)
      | .ok (answer, data) => (.ok answer, .working session.committed data)

/-- How the server answers a request, and where it leaves the session. -/
def Server.step (server : Server S D E Answer) (session : Session D) :
    (request : Request S) → request.Reply Answer E × Session D
  | .auto statement => server.execAuto session statement
  | .start => (.ok (), .working session.committed session.committed)
  | .exec statement => server.execWithin session statement
  | .commit =>
    match session.work with
    | none => (.error server.closed, session)
    | some work =>
      if work.failed then (.error server.rolledBack, server.abandon session)
      else (.ok (), .idle work.data)
  | .rollback =>
    match session.work with
    | none => (.error server.closed, session)
    | some _ => (.ok (), server.abandon session)

/-- Whether a transaction is open after a request, given whether one was open before. -/
def Request.opens (opened : Bool) : (request : Request S) → request.Reply Answer E → Bool
  | .auto _, _ => opened
  | .start, .ok _ => true
  | .start, .error _ => opened
  | .exec _, _ => opened
  | .commit, _ => false
  | .rollback, _ => false

/-- Run a client alone against a server. -/
def Script.run (server : Server S D E Answer) : Script S Answer E α → Session D → α × Session D
  | .done value, session => (value, session)
  | .ask request next, session =>
    let answered := server.step session request
    (next answered.1).run server answered.2

/-- The outcome of a client that may give up. -/
def Client.from (server : Server S D E Answer) (client : Client S Answer E α)
    (session : Session D) : Except E α × Session D :=
  client.run.run server session

section Rules

variable (server : Server S D E Answer) (session : Session D)

/-- Taking back the open transaction leaves none open. -/
theorem Server.abandon_work : (server.abandon session).work = none := by
  cases work : session.work with
  | none => simp [Server.abandon, work]
  | some open_ => simp [Server.abandon, work, Session.idle]

/-- The server keeps a transaction open as long as the requests and their answers say. -/
theorem Server.step_opens (request : Request S) :
    (server.step session request).2.work.isSome =
      request.opens session.work.isSome (server.step session request).1 := by
  cases request with
  | auto statement =>
    -- A statement on its own leaves the open transaction alone.
    simp only [Server.step, Server.execAuto, Request.opens]
    split <;> rfl
  | start => rfl
  | exec statement =>
    cases work : session.work with
    | none => simp [Server.step, Server.execWithin, Request.opens, work]
    | some open_ =>
      -- The transaction stays open, failed or not.
      cases failed : open_.failed with
      | true => simp [Server.step, Server.execWithin, Request.opens, work, failed]
      | false =>
        simp only [Server.step, Server.execWithin, Request.opens, work, failed, Bool.false_eq_true,
          if_false]
        split <;> rfl
  | commit =>
    cases work : session.work with
    | none => simp [Server.step, Request.opens, work]
    | some open_ =>
      -- A commit that fails is a rollback.
      cases failed : open_.failed with
      | true => simp [Server.step, Request.opens, work, failed, Server.abandon_work]
      | false => simp [Server.step, Request.opens, work, failed, Session.idle]
  | rollback =>
    cases work : session.work with
    | none => simp [Server.step, Request.opens, work]
    | some open_ => simp [Server.step, Request.opens, work, Server.abandon_work]

/-- A continued client runs on from where the first one stopped. -/
theorem Script.run_bind (script : Script S Answer E α) (next : α → Script S Answer E β) :
    (script >>= next).run server session =
      (next (script.run server session).1).run server (script.run server session).2 := by
  -- The induction is on the first client, whose session changes with each request.
  induction script generalizing session with
  | done value => rfl
  | ask request rest ih => exact ih _ _

@[simp] theorem Client.from_pure (value : α) :
    Client.from server (pure value : Client S Answer E α) session = (.ok value, session) := rfl

@[simp] theorem Client.from_throw (e : E) :
    Client.from server (throw e : Client S Answer E α) session = (.error e, session) := rfl

/-- An outcome computed without the server leaves the session alone. -/
@[simp] theorem Client.from_outcome (outcome : Except E α) :
    Client.from server (ExceptT.mk (pure outcome) : Client S Answer E α) session =
      (outcome, session) := rfl

/-- A second step runs from where the first one stopped, unless the first one gave up. -/
theorem Client.from_bind (client : Client S Answer E α) (next : α → Client S Answer E β) :
    Client.from server (client >>= next) session =
      match Client.from server client session with
      | (.ok value, after) => Client.from server (next value) after
      | (.error e, after) => (.error e, after) := by
  -- The transformer continues on the outcome of the first step.
  show Script.run server (client.run >>= ExceptT.bindCont next) session = _
  rw [Script.run_bind]
  unfold Client.from
  rcases client.run.run server session with ⟨outcome, after⟩
  cases outcome <;> rfl

/-- Wrapping the error of a step changes nothing but the error. -/
theorem Client.from_adapt (client : Client S Answer E α) (wrap : E → E) :
    Client.from server (client.adapt wrap) session =
      ((Client.from server client session).1.mapError wrap,
        (Client.from server client session).2) := by
  show Script.run server (client.run >>= fun outcome => .done (outcome.mapError wrap)) session = _
  rw [Script.run_bind]
  rfl

/-- A first step that returned leaves the rest to the second. -/
theorem Client.from_bind_ok {client : Client S Answer E α} {next : α → Client S Answer E β}
    {value : α} {after : Session D}
    (first : Client.from server client session = (.ok value, after)) :
    Client.from server (client >>= next) session = Client.from server (next value) after := by
  rw [Client.from_bind, first]

/-- A first step that gave up ends the client. -/
theorem Client.from_bind_error {client : Client S Answer E α} {next : α → Client S Answer E β}
    {e : E} {after : Session D}
    (first : Client.from server client session = (.error e, after)) :
    Client.from server (client >>= next) session = (.error e, after) := by
  rw [Client.from_bind, first]

/-- A client that returned has returned from both of its steps. -/
theorem Client.of_bind_ok {client : Client S Answer E α} {next : α → Client S Answer E β} {value : β}
    {after : Session D} (ran : Client.from server (client >>= next) session = (.ok value, after)) :
    ∃ first middle, Client.from server client session = (.ok first, middle) ∧
      Client.from server (next first) middle = (.ok value, after) := by
  rw [Client.from_bind] at ran
  split at ran
  · rename_i first middle here
    exact ⟨first, middle, here, ran⟩
  · cases ran

/-- A statement on its own answers from the committed data. -/
theorem Client.from_auto {statement : S} {answer : Answer statement} {data : D}
    (succeeds : server.exec statement session.committed = .ok (answer, data)) :
    Client.from server (auto statement) session =
      (.ok answer, { session with committed := data }) := by
  show server.execAuto session statement = _
  simp only [Server.execAuto, succeeds]

/-- A statement on its own that was answered has changed the committed data. -/
theorem Client.of_auto_ok {statement : S} {answer : Answer statement} {after : Session D}
    (ran : Client.from server (auto statement) session = (.ok answer, after)) :
    ∃ data, server.exec statement session.committed = .ok (answer, data) ∧
      after = { session with committed := data } := by
  -- A statement on its own is carried out on what is committed.
  have answered : server.execAuto session statement = (.ok answer, after) := ran
  unfold Server.execAuto at answered
  split at answered
  · cases answered
  · rename_i value data succeeds
    obtain ⟨same, rfl⟩ := Prod.mk.inj answered
    obtain rfl := Except.ok.inj same
    exact ⟨data, succeeds, rfl⟩

/-- A client whose errors are wrapped returns what it returned without that. -/
theorem Client.of_adapt_ok {client : Client S Answer E α} {wrap : E → E} {value : α}
    {after : Session D}
    (ran : Client.from server (client.adapt wrap) session = (.ok value, after)) :
    Client.from server client session = (.ok value, after) := by
  rw [Client.from_adapt] at ran
  -- Wrapping an error makes no value of it.
  obtain ⟨returned, kept⟩ := Prod.mk.inj ran
  refine Prod.ext ?_ kept
  cases outcome : (Client.from server client session).1 with
  | ok found =>
    rw [outcome] at returned
    exact returned
  | error e =>
    rw [outcome] at returned
    cases returned

/-- What a statement on its own leaves committed: what was there, or what the statement made of it. -/
theorem Client.committed_auto (statement : S) :
    (Client.from server (auto statement) session).2.committed = session.committed ∨
      ∃ answer data, server.exec statement session.committed = .ok (answer, data) ∧
        (Client.from server (auto statement) session).2.committed = data := by
  -- A statement that fails leaves what was committed.
  show (server.execAuto session statement).2.committed = _ ∨ ∃ answer data, _ ∧
    (server.execAuto session statement).2.committed = data
  cases ran : server.exec statement session.committed with
  | error e => exact .inl (by simp [Server.execAuto, ran])
  | ok result => exact .inr ⟨result.1, result.2, rfl, by simp [Server.execAuto, ran]⟩

/-- A second step that leaves every session alone leaves what the first one made of it. -/
theorem Client.from_bind_silent {client : Client S Answer E α} {next : α → Client S Answer E β}
    (silent : ∀ value after, (Client.from server (next value) after).2 = after) :
    (Client.from server (client >>= next) session).2 = (Client.from server client session).2 := by
  -- Either the second step is silent, or it does not come up.
  rw [Client.from_bind]
  split
  · rename_i value after ran
    rw [silent, ran]
  · rename_i e after ran
    rw [ran]

variable (committed data : D)

/-- A statement that succeeds changes the data of its transaction only. -/
theorem Client.from_exec_ok {statement : S} {answer : Answer statement} {changed : D}
    (succeeds : server.exec statement data = .ok (answer, changed)) :
    Client.from server (exec statement) (.working committed data) =
      (.ok answer, .working committed changed) := by
  show server.execWithin (.working committed data) statement = _
  simp [Server.execWithin, Session.working, succeeds]

/-- A statement that fails breaks its transaction. -/
theorem Client.from_exec_error {statement : S} {e : E}
    (fails : server.exec statement data = .error e) :
    Client.from server (exec statement) (.working committed data) =
      (.error e, .broken committed data) := by
  show server.execWithin (.working committed data) statement = _
  simp [Server.execWithin, Session.working, Session.broken, fails]

/-- A statement that was answered has changed the data of its transaction. -/
theorem Client.of_exec_ok {statement : S} {answer : Answer statement} {after : Session D}
    (ran : Client.from server (exec statement) (.working committed data) = (.ok answer, after)) :
    ∃ changed, server.exec statement data = .ok (answer, changed) ∧
      after = .working committed changed := by
  -- The client has returned, so the statement did not fail.
  cases outcome : server.exec statement data with
  | error e =>
    rw [Client.from_exec_error server committed data outcome] at ran
    cases ran
  | ok result =>
    obtain ⟨answered, changed⟩ := result
    rw [Client.from_exec_ok server committed data outcome] at ran
    obtain ⟨same, rfl⟩ := Prod.mk.inj ran
    obtain rfl := Except.ok.inj same
    exact ⟨changed, rfl, rfl⟩

/-- In a broken transaction every statement fails, whatever it says. -/
theorem Client.from_exec_broken (statement : S) :
    Client.from server (exec statement) (.broken committed data) =
      (.error server.aborted, .broken committed data) := rfl

/-- An attempt that succeeds hands over the answer. -/
theorem Client.from_tryExec_ok {statement : S} {answer : Answer statement} {changed : D}
    (succeeds : server.exec statement data = .ok (answer, changed)) :
    Client.from server (tryExec statement) (.working committed data) =
      (.ok (.ok answer), .working committed changed) := by
  show (Except.ok (server.execWithin (.working committed data) statement).1,
    (server.execWithin (.working committed data) statement).2) = _
  simp [Server.execWithin, Session.working, succeeds]

/-- An attempt that fails hands over the error and leaves a broken transaction. -/
theorem Client.from_tryExec_error {statement : S} {e : E}
    (fails : server.exec statement data = .error e) :
    Client.from server (tryExec statement) (.working committed data) =
      (.ok (.error e), .broken committed data) := by
  show (Except.ok (server.execWithin (.working committed data) statement).1,
    (server.execWithin (.working committed data) statement).2) = _
  simp [Server.execWithin, Session.working, Session.broken, fails]

/-- Committing a transaction in which nothing failed makes its data the committed data. -/
theorem Client.from_commit :
    Client.from server (commit : Client S Answer E Unit) (.working committed data) =
      (.ok (), .idle data) := rfl

/-- A body runs on a copy of the committed data, and what it leaves open is taken back. -/
theorem Client.from_withTransaction (body : Client S Answer E α) :
    Client.from server (withTransaction body) (.idle committed) =
      ((Client.from server body (.working committed committed)).1,
        server.abandon (Client.from server body (.working committed committed)).2) := by
  show Script.run server (body.run >>= _) (.working committed committed) = _
  rw [Script.run_bind]
  unfold Client.from
  rcases body.run.run server (.working committed committed) with ⟨outcome, after⟩
  -- The deferred rollback abandons an open transaction and ignores a missing one.
  show (outcome, (server.step after .rollback).2) = _
  cases work : after.work with
  | none => simp [Server.step, Server.abandon, work]
  | some open_ => simp [Server.step, work]

end Rules

end Transaction
