import ZanGuard.Lib.Sessions

/-! Monitors: automata that follow what a client asks, and what they guarantee of many clients. -/

namespace Transaction

variable {ι χ S G E Λ κ α β σ : Type} {Answer : S → Type}

/-- An automaton that follows the exchanges of a client. -/
structure Monitor (S : Type) (Answer : S → Type) (E σ : Type) where
  /-- What a client may ask in a state. -/
  allows : σ → Request S → Prop
  /-- The state after an answer. -/
  after : σ → (request : Request S) → request.Reply Answer E → σ

variable {m : Monitor S Answer E σ}

/-- Whatever a client is answered, it asks what the monitor allows and ends as it should. -/
def Script.Obeys (m : Monitor S Answer E σ) (ends : α → σ → Prop) :
    Script S Answer E α → σ → Prop
  | .done value, state => ends value state
  | .ask request next, state =>
    m.allows state request ∧ ∀ reply, (next reply).Obeys m ends (m.after state request reply)

/-- How a client ends that may give up. -/
def Ends {ε : Type} (done : α → σ → Prop) (gaveUp : σ → Prop) : Except ε α → σ → Prop
  | .ok value, state => done value state
  | .error _, state => gaveUp state

section Rules

variable {ε : Type} {mid : α → σ → Prop} {ends : β → σ → Prop} {gaveUp : σ → Prop} {state : σ}

/-- A continued client obeys when its parts do. -/
theorem Script.Obeys.bind {script : Script S Answer E α} {next : α → Script S Answer E β}
    (first : script.Obeys m mid state)
    (later : ∀ value state, mid value state → (next value).Obeys m ends state) :
    (script >>= next).Obeys m ends state := by
  -- The induction is on the first client, whose state changes with each answer.
  induction script generalizing state with
  | done value => exact later value state first
  | ask request rest ih => exact ⟨first.1, fun reply => ih reply (first.2 reply)⟩

/-- An error ends a client that may give up, so only a value is gone on with. -/
theorem Script.obeys_bind {first : ExceptT ε (Script S Answer E) α}
    {next : α → ExceptT ε (Script S Answer E) β}
    (head : first.run.Obeys m (Ends mid gaveUp) state)
    (later : ∀ value state, mid value state → (next value).run.Obeys m (Ends ends gaveUp) state) :
    (first >>= next).run.Obeys m (Ends ends gaveUp) state := by
  refine Script.Obeys.bind head fun outcome state holds => ?_
  cases outcome with
  | ok value => exact later value state holds
  | error e => exact holds

/-- A client that is allowed everything it sends, in a state that no answer changes, obeys. -/
theorem Script.Sends.obeys {Q : Request S → Prop} {post : α → Prop} {script : Script S Answer E α}
    (sends : script.Sends Q post) (stays : ∀ request, Q request → m.allows state request ∧
      ∀ reply : request.Reply Answer E, m.after state request reply = state) :
    script.Obeys m (fun _ s => s = state) state := by
  -- The induction is on the client.
  induction script with
  | done value => rfl
  | ask request next ih =>
    obtain ⟨allowed, same⟩ := stays request sends.1
    refine ⟨allowed, fun reply => ?_⟩
    rw [same reply]
    exact ih reply (sends.2 reply)

end Rules

/-! ### Many clients -/

section Net

variable {p : Protocol ι χ S G E Λ κ α Answer} {idle : σ} {states : ι → σ}

/-- What is left of a party's call obeys from a state, and between two calls the state is idle. -/
def Party.Obeys (m : Monitor S Answer E σ) (idle : σ) (party : Party p) (state : σ) : Prop :=
  match party.rest with
  | none => state = idle
  | some script => script.Obeys m (fun _ s => s = idle) state

/-- A party that is resumed obeys when what is left obeys. -/
theorem Party.GoesOn.obeys {party after : Party p} {rest : Script S Answer E α} {state : σ}
    (goesOn : party.GoesOn after rest) (obeys : rest.Obeys m (fun _ s => s = idle) state) :
    after.Obeys m idle state := by
  cases goesOn with
  | done call ended =>
    subst ended
    exact obeys
  | ask memory left =>
    unfold Party.Obeys
    rw [left]
    exact obeys

/-- A monitor follows every party, and what is known of its states holds of the shared state. -/
structure Net.Watched (m : Monitor S Answer E σ) (idle : σ) (inv : G → (ι → σ) → Prop)
    (net : Net p) (states : ι → σ) : Prop where
  parties : ∀ i, (net.parties i).Obeys m idle (states i)
  shared : inv net.shared states

variable [DecidableEq ι]

/--
What a monitor guarantees of the shared state is kept by every event.

It is enough that each answer to an allowed request keeps it, whoever sent the request.
-/
theorem Net.Watched.step {inv : G → (ι → σ) → Prop} {net : Net p}
    (watched : net.Watched m idle inv states) {event : Event ι χ κ}
    (calls : ∀ i call, event = .start i call →
      ∀ memory, (p.script memory call).Obeys m (fun _ s => s = idle) idle)
    (serve : ∀ i choice g request reply shared states, inv g states →
      m.allows (states i) request → p.serve i choice g request = some (reply, shared) →
        inv shared (Function.update states i (m.after (states i) request reply))) :
    ∃ states, (net.step event).Watched m idle inv states := by
  cases event with
  | start i call =>
    cases running : (net.parties i).running with
    | some r =>
      have same : net.step (.start i call : Event ι χ κ) = net := by simp only [Net.step, running]
      rw [same]
      exact ⟨states, watched⟩
    | none =>
      -- A party between two calls is in the idle state, from which its call obeys.
      obtain ⟨shared, goesOn, others⟩ := Net.start_rest call running
      refine ⟨states, fun j => ?_, by rw [shared]; exact watched.shared⟩
      by_cases same : j = i
      · subst same
        have resting := watched.parties j
        simp only [Party.Obeys, Party.rest, running, Option.map_none] at resting
        rw [resting]
        exact goesOn.obeys (calls j call rfl _)
      · rw [others j same]
        exact watched.parties j
  | step i choice =>
    cases left : (net.parties i).rest with
    | none =>
      have running : (net.parties i).running = none := Option.map_eq_none_iff.mp left
      have same : net.step (.step i choice : Event ι χ κ) = net := by simp only [Net.step, running]
      rw [same]
      exact ⟨states, watched⟩
    | some script =>
      obtain ⟨r, running, rfl⟩ := Option.map_eq_some_iff.mp left
      cases served : p.serve i choice net.shared r.request with
      | none =>
        have same : net.step (.step i choice : Event ι χ κ) = net := by
          simp only [Net.step, running, served]
        rw [same]
        exact ⟨states, watched⟩
      | some answered =>
        obtain ⟨reply, after⟩ := answered
        have obeys := watched.parties i
        simp only [Party.Obeys, left] at obeys
        obtain ⟨shared, goesOn, others⟩ := Net.step_rest left served
        refine ⟨Function.update states i (m.after (states i) r.request reply), fun j => ?_, ?_⟩
        · by_cases same : j = i
          · subst same
            rw [Function.update_self]
            exact goesOn.obeys (obeys.2 reply)
          · rw [others j same, Function.update_of_ne same]
            exact watched.parties j
        · rw [shared]
          exact serve i choice net.shared r.request reply after states watched.shared obeys.1 served

/-- And so it holds after every run of calls that obey. -/
theorem Net.Watched.final {inv : G → (ι → σ) → Prop} {tidy : κ → Prop} {net : Net p}
    (watched : net.Watched m idle inv states)
    (calls : ∀ call, tidy call → ∀ memory, (p.script memory call).Obeys m (fun _ s => s = idle) idle)
    (serve : ∀ i choice g request reply shared states, inv g states →
      m.allows (states i) request → p.serve i choice g request = some (reply, shared) →
        inv shared (Function.update states i (m.after (states i) request reply)))
    {events : List (Event ι χ κ)} (all : ∀ i call, .start i call ∈ events → tidy call) :
    ∃ states, (p.machine.final net events).Watched m idle inv states := by
  have kept : ∀ (net : Net p) (event : Event ι χ κ), (∀ i call, event = .start i call → tidy call) →
      (∃ states, net.Watched m idle inv states) →
        ∃ states, (p.machine.step net event).2.Watched m idle inv states := by
    rintro net event allowed ⟨states, watched⟩
    exact watched.step (fun i call same => calls call (allowed i call same)) serve
  exact Machine.final_invariant kept ⟨states, watched⟩
    fun event member i call same => all i call (same ▸ member)

end Net

end Transaction
