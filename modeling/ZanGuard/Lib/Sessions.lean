import Mathlib.Logic.Function.Basic
import ZanGuard.Lib.Machine
import ZanGuard.Lib.Transaction

/-! Clients that run side by side: each sends its requests one by one, in any interleaving. -/

namespace Transaction

variable {ι χ S G E Λ κ α : Type} {Answer : S → Type}

/-- A request with the answer it got. -/
structure Exchange (S : Type) (Answer : S → Type) (E : Type) where
  request : Request S
  reply : request.Reply Answer E

/-- What is left of a client after a number of exchanges. -/
inductive Script.Reaches : Script S Answer E α → List (Exchange S Answer E) →
    Script S Answer E α → Prop
  | here {script : Script S Answer E α} : Script.Reaches script [] script
  | ask {request : Request S} {next : request.Reply Answer E → Script S Answer E α}
      {reply : request.Reply Answer E} {seen : List (Exchange S Answer E)}
      {rest : Script S Answer E α} (later : (next reply).Reaches seen rest) :
      (Script.ask request next).Reaches (⟨request, reply⟩ :: seen) rest

/-- One more exchange. -/
theorem Script.Reaches.snoc {script : Script S Answer E α} {seen : List (Exchange S Answer E)}
    {request : Request S} {next : request.Reply Answer E → Script S Answer E α}
    (reached : script.Reaches seen (.ask request next)) (reply : request.Reply Answer E) :
    script.Reaches (seen ++ [⟨request, reply⟩]) (next reply) := by
  -- The induction is on the exchanges so far; the new one comes last.
  generalize left : Script.ask request next = rest at reached
  induction reached with
  | here =>
    subst left
    exact .ask .here
  | ask _ ih => exact .ask (ih left)

/--
Whatever a client is answered, it sends requests of a kind and ends with a value of a kind.
-/
def Script.Sends (Q : Request S → Prop) (post : α → Prop) : Script S Answer E α → Prop
  | .done value => post value
  | .ask request next => Q request ∧ ∀ reply, (next reply).Sends Q post

/--
Run a client that has a server to itself, which carries out one statement after the other.

Such a server has no transactions, and refuses to open one.
-/
def Script.alone (serve : G → (statement : S) → Except E (Answer statement) × G) (closed : E) :
    Script S Answer E α → G → α × G
  | .done value, g => (value, g)
  | .ask (.auto statement) next, g =>
    let answered := serve g statement
    (next answered.1).alone serve closed answered.2
  | .ask (.exec _) next, g => (next (.error closed)).alone serve closed g
  | .ask .start next, g => (next (.error closed)).alone serve closed g
  | .ask .commit next, g => (next (.error closed)).alone serve closed g
  | .ask .rollback next, g => (next (.error closed)).alone serve closed g

/-- A continued client runs on from where the first one stopped. -/
theorem Script.alone_bind {β : Type} {serve : G → (statement : S) → Except E (Answer statement) × G}
    {closed : E} (script : Script S Answer E α) (next : α → Script S Answer E β) (g : G) :
    (script >>= next).alone serve closed g =
      (next (script.alone serve closed g).1).alone serve closed (script.alone serve closed g).2 := by
  -- The induction is on the first client, whose server changes with each statement.
  induction script generalizing g with
  | done value => rfl
  | ask request rest ih =>
    cases request with
    | auto statement => exact ih _ _
    | start | exec _ | commit | rollback => exact ih _ g

/-- Something holds of a value, unless there is an error in its place. -/
def OnSuccess {ε : Type} (post : α → Prop) : Except ε α → Prop
  | .ok value => post value
  | .error _ => True

/-- Nothing is asked of a value. -/
theorem OnSuccess.any {ε : Type} (outcome : Except ε α) : OnSuccess (fun _ => True) outcome := by
  cases outcome <;> trivial

section Sends

variable {β ε : Type} {Q : Request S → Prop} {mid : α → Prop} {post : β → Prop}

/-- A client that sends requests of a kind sends requests of a wider kind. -/
theorem Script.Sends.mono {wider : Request S → Prop} {script : Script S Answer E α}
    (sends : script.Sends Q mid) (kinds : ∀ request, Q request → wider request) :
    script.Sends wider mid := by
  -- The induction is on the client.
  induction script with
  | done value => exact sends
  | ask request next ih => exact ⟨kinds request sends.1, fun reply => ih reply (sends.2 reply)⟩

/-- A continued client sends what its parts send. -/
theorem Script.Sends.bind {script : Script S Answer E α} {next : α → Script S Answer E β}
    (first : script.Sends Q mid) (later : ∀ value, mid value → (next value).Sends Q post) :
    (script >>= next).Sends Q post := by
  -- The induction is on the first client.
  induction script with
  | done value => exact later value first
  | ask request rest ih => exact ⟨first.1, fun reply => ih reply (first.2 reply)⟩

/-- What is left of a client sends what the client sends. -/
theorem Script.Reaches.sends {script rest : Script S Answer E α}
    {seen : List (Exchange S Answer E)} (reached : script.Reaches seen rest)
    (all : script.Sends Q mid) : rest.Sends Q mid := by
  -- The induction is on the exchanges, each of which leaves a part of the client.
  induction reached with
  | here => exact all
  | ask _ ih => exact ih (all.2 _)

/-- A client whose values are wrapped ends with a wrapped value, whatever it sends. -/
theorem Script.sends_map {script : Script S Answer E α} {wrap : α → β}
    (all : ∀ value, post (wrap value)) : (wrap <$> script).Sends (fun _ => True) post := by
  -- The induction is on the client; nothing is asked of its requests.
  induction script with
  | done value => exact all value
  | ask request rest ih => exact ⟨trivial, ih⟩

/-- A client that may give up sends what its parts send. -/
theorem Script.sends_bind {first : ExceptT ε (Script S Answer E) α}
    {next : α → ExceptT ε (Script S Answer E) β} (sends : first.run.Sends Q (OnSuccess mid))
    (later : ∀ value, mid value → (next value).run.Sends Q (OnSuccess post)) :
    (first >>= next).run.Sends Q (OnSuccess post) := by
  -- An error ends the client, and nothing is sent after it.
  refine Script.Sends.bind sends fun outcome holds => ?_
  cases outcome with
  | ok value => exact later value holds
  | error e => trivial

/-- An outcome computed without the server sends nothing. -/
theorem Script.sends_outcome {outcome : Except ε α} (holds : OnSuccess mid outcome) :
    (ExceptT.mk (pure outcome) : ExceptT ε (Script S Answer E) α).run.Sends Q (OnSuccess mid) :=
  holds

/-- A single request sends itself; nothing is known of its answer. -/
theorem Script.sends_auto {statement : S} (kind : Q (.auto statement)) :
    (auto statement : Client S Answer E _).run.Sends Q (OnSuccess fun _ => True) :=
  ⟨kind, OnSuccess.any⟩

/-- So does a statement of the open transaction. -/
theorem Script.sends_exec {statement : S} (kind : Q (.exec statement)) :
    (exec statement : Client S Answer E _).run.Sends Q (OnSuccess fun _ => True) :=
  ⟨kind, OnSuccess.any⟩

/-- So does an attempt, which hands over whatever it is answered. -/
theorem Script.sends_tryExec {statement : S} (kind : Q (.exec statement)) :
    (tryExec statement : Client S Answer E _).run.Sends Q (OnSuccess fun _ => True) :=
  ⟨kind, fun _ => trivial⟩

/-- So does a commit. -/
theorem Script.sends_commit (kind : Q .commit) :
    (commit : Client S Answer E Unit).run.Sends Q (OnSuccess fun _ => True) :=
  ⟨kind, OnSuccess.any⟩

/-- Wrapping the error of a client changes nothing it sends. -/
theorem Script.sends_adapt {δ : Type} {first : ExceptT ε (Script S Answer E) α} (wrap : ε → δ)
    (sends : first.run.Sends Q (OnSuccess mid)) :
    (first.adapt wrap).run.Sends Q (OnSuccess mid) := by
  refine Script.Sends.bind sends fun outcome holds => ?_
  cases outcome with
  | ok value => exact holds
  | error e => trivial

end Sends

/-- A client that waits for the answer to a request. -/
structure Running (script : κ → Script S Answer E α) where
  call : κ
  seen : List (Exchange S Answer E)
  request : Request S
  next : request.Reply Answer E → Script S Answer E α
  reached : (script call).Reaches seen (.ask request next)

/--
How a number of parties use a shared server.

Each party remembers something from call to call, and runs one call at a time.
-/
structure Protocol (ι χ S G E Λ κ α : Type) (Answer : S → Type) where
  /-- The answer to a party's request, under a choice of the environment; none while it waits. -/
  serve : ι → χ → G → (request : Request S) → Option (request.Reply Answer E × G)
  /-- What a call sends, given what the party remembers. -/
  script : Λ → κ → Script S Answer E α
  /-- What the party remembers after a call. -/
  finish : Λ → κ → α → Λ

/-- What a party remembers, and the call it is in. -/
structure Party (p : Protocol ι χ S G E Λ κ α Answer) where
  memory : Λ
  running : Option (Running (p.script memory))

/-- The shared state, and all parties. -/
structure Net (p : Protocol ι χ S G E Λ κ α Answer) where
  shared : G
  parties : ι → Party p

/-- What may happen next. -/
inductive Event (ι χ κ : Type) where
  /-- A party begins a call, unless it is in one. -/
  | start (i : ι) (call : κ)
  /-- The request of a party is answered, under a choice of the environment. -/
  | step (i : ι) (choice : χ)

variable {p : Protocol ι χ S G E Λ κ α Answer}

/-- A party after an exchange: it waits for the next answer, or has finished its call. -/
def Party.resume {memory : Λ} {call : κ} {seen : List (Exchange S Answer E)} :
    (rest : Script S Answer E α) → (p.script memory call).Reaches seen rest → Party p
  | .done value, _ => { memory := p.finish memory call value, running := none }
  | .ask request next, reached => { memory, running := some { call, seen, request, next, reached } }

/-- What a client still has to send, when it is not done. -/
def Script.unfinished : Script S Answer E α → Option (Script S Answer E α)
  | .done _ => none
  | .ask request next => some (.ask request next)

/-- What is left of the call a party is in. -/
def Party.rest (party : Party p) : Option (Script S Answer E α) :=
  party.running.map fun r => .ask r.request r.next

/-- A resumed party has left what is left of its call. -/
theorem Party.rest_resume {memory : Λ} {call : κ} {seen : List (Exchange S Answer E)}
    {rest : Script S Answer E α} (reached : (p.script memory call).Reaches seen rest) :
    (Party.resume rest reached).rest = rest.unfinished := by
  cases rest <;> rfl

variable [DecidableEq ι]

/-- One event. -/
def Net.step (net : Net p) : Event ι χ κ → Net p
  | .start i call =>
    match (net.parties i).running with
    | some _ => net
    | none => { net with
        parties := Function.update net.parties i
          (.resume (p.script (net.parties i).memory call) .here) }
  | .step i choice =>
    match (net.parties i).running with
    | none => net
    | some r =>
      match p.serve i choice net.shared r.request with
      | none => net
      | some (reply, shared) =>
        { shared
          parties := Function.update net.parties i (.resume (r.next reply) (r.reached.snoc reply)) }

/-- The net as a machine. -/
def Protocol.machine (p : Protocol ι χ S G E Λ κ α Answer) : Machine (Net p) (Event ι χ κ) Unit where
  step net event := ((), net.step event)

/-- A party that is in no call can begin one. -/
theorem Net.step_start {net : Net p} {i : ι} (call : κ) (free : (net.parties i).running = none) :
    net.step (.start i call : Event ι χ κ) = { net with
      parties := Function.update net.parties i
        (.resume (p.script (net.parties i).memory call) .here) } := by
  simp only [Net.step, free]

/-- A request that is answered lets its party go on. -/
theorem Net.step_served {net : Net p} {i : ι} {choice : χ}
    {r : Running (p.script (net.parties i).memory)} (waits : (net.parties i).running = some r)
    {reply : r.request.Reply Answer E} {shared : G}
    (served : p.serve i choice net.shared r.request = some (reply, shared)) :
    net.step (.step i choice) = {
      shared
      parties := Function.update net.parties i (.resume (r.next reply) (r.reached.snoc reply)) } := by
  simp only [Net.step, waits, served]

/-- A party afterwards, by what is left of its call: it has finished, or waits for an answer. -/
inductive Party.GoesOn (party after : Party p) : Script S Answer E α → Prop
  | done {value : α} (call : κ)
      (ended : after = { memory := p.finish party.memory call value, running := none }) :
      Party.GoesOn party after (.done value)
  | ask {request : Request S} {next : request.Reply Answer E → Script S Answer E α}
      (memory : after.memory = party.memory) (left : after.rest = some (.ask request next)) :
      Party.GoesOn party after (.ask request next)

omit [DecidableEq ι] in
/-- A party that is resumed goes on with what is left. -/
theorem Party.resume_goesOn {party : Party p} {call : κ} {seen : List (Exchange S Answer E)}
    {rest : Script S Answer E α} (reached : (p.script party.memory call).Reaches seen rest) :
    party.GoesOn (.resume rest reached) rest := by
  cases rest with
  | done value => exact .done call rfl
  | ask request next => exact .ask rfl (Party.rest_resume reached)

/-- A call that begins concerns no other party. -/
theorem Net.start_rest {net : Net p} {i : ι} (call : κ) (free : (net.parties i).running = none) :
    (net.step (.start i call)).shared = net.shared ∧
      (net.parties i).GoesOn ((net.step (.start i call)).parties i)
        (p.script (net.parties i).memory call) ∧
      ∀ j, j ≠ i → (net.step (.start i call)).parties j = net.parties j := by
  rw [Net.step_start call free]
  refine ⟨rfl, ?_, fun j apart => Function.update_of_ne apart _ _⟩
  simp only [Function.update_self]
  exact Party.resume_goesOn .here

/-- A request that is answered lets its party go on, and concerns no other party. -/
theorem Net.step_rest {net : Net p} {i : ι} {choice : χ} {request : Request S}
    {next : request.Reply Answer E → Script S Answer E α}
    (left : (net.parties i).rest = some (.ask request next)) {reply : request.Reply Answer E}
    {shared : G} (served : p.serve i choice net.shared request = some (reply, shared)) :
    (net.step (.step i choice)).shared = shared ∧
      (net.parties i).GoesOn ((net.step (.step i choice)).parties i) (next reply) ∧
      ∀ j, j ≠ i → (net.step (.step i choice)).parties j = net.parties j := by
  obtain ⟨r, waits, asks⟩ := Option.map_eq_some_iff.mp left
  obtain ⟨call, seen, asked, cont, reached⟩ := r
  cases asks
  rw [Net.step_served waits served]
  refine ⟨rfl, ?_, fun j apart => Function.update_of_ne apart _ _⟩
  simp only [Function.update_self]
  exact Party.resume_goesOn _

/-- What an event did: nothing, a call that began, or a request that was answered. -/
inductive Net.Moves (net : Net p) : Event ι χ κ → Net p → Prop
  | idle {event : Event ι χ κ} : Net.Moves net event net
  | start {i : ι} {call : κ} (free : (net.parties i).running = none) :
      Net.Moves net (.start i call) { net with
        parties := Function.update net.parties i
          (.resume (p.script (net.parties i).memory call) .here) }
  | step {i : ι} {choice : χ} {r : Running (p.script (net.parties i).memory)}
      (waits : (net.parties i).running = some r) {reply : r.request.Reply Answer E} {shared : G}
      (served : p.serve i choice net.shared r.request = some (reply, shared)) :
      Net.Moves net (.step i choice) {
        shared
        parties := Function.update net.parties i (.resume (r.next reply) (r.reached.snoc reply)) }

/-- Every event does one of these. -/
theorem Net.step_moves (net : Net p) (event : Event ι χ κ) : net.Moves event (net.step event) := by
  -- The cases are those of the definition.
  cases event with
  | start i call =>
    cases running : (net.parties i).running with
    | some r => simpa only [Net.step, running] using .idle
    | none =>
      rw [Net.step_start call running]
      exact .start running
  | step i choice =>
    cases running : (net.parties i).running with
    | none => simpa only [Net.step, running] using .idle
    | some r =>
      cases served : p.serve i choice net.shared r.request with
      | none => simpa only [Net.step, running, served] using .idle
      | some answer =>
        rw [Net.step_served running served]
        exact .step running served

/-- Something holds of the call a party is in, if it is in one. -/
def Party.Holds (A : Λ → κ → List (Exchange S Answer E) → Request S → Prop) (party : Party p) :
    Prop :=
  ∀ r, party.running = some r → A party.memory r.call r.seen r.request

/-- Something holds of every call that is under way. -/
def Net.Each (A : ι → G → Λ → κ → List (Exchange S Answer E) → Request S → Prop) (net : Net p) :
    Prop :=
  ∀ i, (net.parties i).Holds (A i net.shared)

omit [DecidableEq ι] in
/-- A resumed party waits for what is left of its call. -/
theorem Party.resume_holds {A : Λ → κ → List (Exchange S Answer E) → Request S → Prop}
    {memory : Λ} {call : κ} {seen : List (Exchange S Answer E)} {rest : Script S Answer E α}
    {reached : (p.script memory call).Reaches seen rest}
    (holds : ∀ request next, (p.script memory call).Reaches seen (.ask request next) →
      A memory call seen request) :
    (Party.resume rest reached).Holds A := by
  -- A call that is over leaves nothing to show.
  intro r waits
  cases rest with
  | done value => cases waits
  | ask request next =>
    obtain rfl := Option.some.inj waits
    exact holds request next reached

/--
What holds of every call under way holds after an event as well.

A call has it when it begins, keeps it with each answer, and keeps it when others are answered.
-/
theorem Net.Each.step {A : ι → G → Λ → κ → List (Exchange S Answer E) → Request S → Prop}
    {net : Net p} (each : net.Each A) (event : Event ι χ κ)
    (start : ∀ i call request next,
      (p.script (net.parties i).memory call).Reaches [] (.ask request next) →
        A i net.shared (net.parties i).memory call [] request)
    (own : ∀ i choice (r : Running (p.script (net.parties i).memory)) reply shared request next,
      event = .step i choice → (net.parties i).running = some r →
      p.serve i choice net.shared r.request = some (reply, shared) →
      (p.script (net.parties i).memory r.call).Reaches (r.seen ++ [⟨r.request, reply⟩])
        (.ask request next) →
        A i shared (net.parties i).memory r.call (r.seen ++ [⟨r.request, reply⟩]) request)
    (others : ∀ i choice (r : Running (p.script (net.parties i).memory)) reply shared,
      event = .step i choice → (net.parties i).running = some r →
      p.serve i choice net.shared r.request = some (reply, shared) →
      ∀ j, j ≠ i → (net.parties j).Holds (A j net.shared) → (net.parties j).Holds (A j shared)) :
    (net.step event).Each A := by
  -- The party that has moved is one case, and every other party is the other one.
  have moved := net.step_moves event
  generalize net.step event = after at moved ⊢
  cases moved with
  | idle => exact each
  | @start i call free =>
    intro j
    by_cases same : j = i
    · subst same
      simp only [Function.update_self]
      exact Party.resume_holds fun request next reached => start j call request next reached
    · simp only [Function.update_of_ne same]
      exact each j
  | @step i choice r waits reply shared served =>
    intro j
    by_cases same : j = i
    · subst same
      simp only [Function.update_self]
      exact Party.resume_holds fun request next reached =>
        own j choice r reply shared request next rfl waits served reached
    · simp only [Function.update_of_ne same]
      exact others i choice r reply shared rfl waits served j same (each j)

end Transaction
