import ZanGuard.Lib.Transaction

/-! A client among others that leave alone what it has in view. -/

namespace Transaction

variable {S E ε δ χ G W α β : Type} {Answer : S → Type}

/--
A run of a client, while others change what they like outside its view.

The environment chooses what the server does not, such as the time and whether a request fails.
-/
inductive Script.RunsAmong (serve : χ → G → (request : Request S) →
    Option (request.Reply Answer E × G)) (view : G → W) : Script S Answer E α → G → α → G → Prop
  | done (value : α) (g : G) : RunsAmong serve view (.done value) g value g
  | others {script : Script S Answer E α} {g moved last : G} {value : α}
      (kept : view moved = view g) (later : RunsAmong serve view script moved value last) :
      RunsAmong serve view script g value last
  | answered {request : Request S} {next : request.Reply Answer E → Script S Answer E α}
      {g after last : G} {choice : χ} {reply : request.Reply Answer E} {value : α}
      (served : serve choice g request = some (reply, after))
      (later : RunsAmong serve view (next reply) after value last) :
      RunsAmong serve view (.ask request next) g value last

section Rules

variable {serve : χ → G → (request : Request S) → Option (request.Reply Answer E × G)}
  {view : G → W} {g last : G}

/-- A client that is done ends with its value, and in view of the same. -/
theorem Script.RunsAmong.of_done {value result : α}
    (run : (Script.done value : Script S Answer E α).RunsAmong serve view g result last) :
    result = value ∧ view last = view g := by
  generalize shape : Script.done value = script at run
  -- Only others can move before a client that is done.
  induction run with
  | done value g =>
    cases shape
    exact ⟨rfl, rfl⟩
  | others kept later ih =>
    obtain ⟨same, seen⟩ := ih shape
    exact ⟨same, seen.trans kept⟩
  | answered served later ih => cases shape

/-- A client that asks is answered at some point, in view of the same. -/
theorem Script.RunsAmong.of_ask {request : Request S}
    {next : request.Reply Answer E → Script S Answer E α} {result : α}
    (run : (Script.ask request next).RunsAmong serve view g result last) :
    ∃ before choice reply after, view before = view g ∧
      serve choice before request = some (reply, after) ∧
      (next reply).RunsAmong serve view after result last := by
  generalize shape : Script.ask request next = script at run
  -- Others may move a number of times before the answer.
  induction run with
  | done value g => cases shape
  | others kept later ih =>
    obtain ⟨before, choice, reply, after, seen, served, rest⟩ := ih shape
    exact ⟨before, choice, reply, after, seen.trans kept, served, rest⟩
  | answered served later ih =>
    cases shape
    exact ⟨_, _, _, _, rfl, served, later⟩

/-- The run of a continued client is a run of each of its parts. -/
theorem Script.RunsAmong.of_bind {script : Script S Answer E α} {next : α → Script S Answer E β}
    {result : β} (run : (script >>= next).RunsAmong serve view g result last) :
    ∃ value middle, script.RunsAmong serve view g value middle ∧
      (next value).RunsAmong serve view middle result last := by
  -- The induction is on the first part, from wherever the others have left it.
  induction script generalizing g with
  | done value => exact ⟨value, g, .done value g, run⟩
  | ask request rest ih =>
    obtain ⟨before, choice, reply, after, seen, served, later⟩ := Script.RunsAmong.of_ask run
    -- What others did before the answer belongs to the first part.
    obtain ⟨value, middle, first, second⟩ := ih reply later
    exact ⟨value, middle, .others seen (.answered served first), second⟩

/-- A client that returned has returned from both of its steps. -/
theorem Script.RunsAmong.of_bind_ok {client : ExceptT ε (Script S Answer E) α}
    {next : α → ExceptT ε (Script S Answer E) β} {result : β}
    (run : (client >>= next).run.RunsAmong serve view g (.ok result) last) :
    ∃ value middle, client.run.RunsAmong serve view g (.ok value) middle ∧
      (next value).run.RunsAmong serve view middle (.ok result) last := by
  have steps : (client.run >>= ExceptT.bindCont next).RunsAmong serve view g (.ok result) last := run
  obtain ⟨outcome, middle, first, second⟩ := Script.RunsAmong.of_bind steps
  cases outcome with
  | ok value => exact ⟨value, middle, first, second⟩
  | error e => cases (Script.RunsAmong.of_done second).1

/-- An outcome computed without the server is what it returns. -/
theorem Script.RunsAmong.of_outcome {outcome result : Except ε α}
    (run : (ExceptT.mk (pure outcome) : ExceptT ε (Script S Answer E) α).run.RunsAmong serve view g
      result last) :
    result = outcome ∧ view last = view g :=
  Script.RunsAmong.of_done run

/-- A client whose errors are wrapped returns what it returned without that. -/
theorem Script.RunsAmong.of_adapt {client : ExceptT ε (Script S Answer E) α} {wrap : ε → δ}
    {result : α} (run : (client.adapt wrap).run.RunsAmong serve view g (.ok result) last) :
    ∃ middle, client.run.RunsAmong serve view g (.ok result) middle ∧ view last = view middle := by
  obtain ⟨outcome, middle, first, second⟩ := Script.RunsAmong.of_bind run
  -- Wrapping asks the server for nothing.
  obtain ⟨same, seen⟩ := Script.RunsAmong.of_done second
  cases outcome with
  | ok value =>
    obtain rfl := Except.ok.inj same
    exact ⟨middle, first, seen⟩
  | error e => cases same

/-- A statement on its own that returned was carried out, in view of the same. -/
theorem Script.RunsAmong.of_auto {statement : S} {answer : Answer statement}
    (run : (auto statement : Client S Answer E _).run.RunsAmong serve view g (.ok answer) last) :
    ∃ before choice after, view before = view g ∧
      serve choice before (.auto statement) = some (.ok answer, after) ∧ view last = view after := by
  obtain ⟨before, choice, reply, after, seen, served, rest⟩ := Script.RunsAmong.of_ask run
  obtain ⟨rfl, kept⟩ := Script.RunsAmong.of_done rest
  exact ⟨before, choice, after, seen, served, kept⟩

end Rules

end Transaction
