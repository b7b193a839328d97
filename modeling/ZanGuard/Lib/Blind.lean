import ZanGuard.Lib.Fallible

/-! Computations in which a relation between states does not show. -/

namespace ExceptT

variable {σ ε δ α β : Type} {alike : σ → σ → Prop} {s t : σ}

/-- From two states, a computation has one outcome and leaves states that are alike. -/
structure RunsAlike (alike : σ → σ → Prop) (m : ExceptT ε (StateM σ) α) (s t : σ) : Prop where
  outcome : (m.run.run s).1 = (m.run.run t).1
  after : alike (m.run.run s).2 (m.run.run t).2

/-- An outcome that does not touch the state. -/
theorem RunsAlike.still (same : alike s t) (result : Except ε α) :
    RunsAlike alike (ExceptT.mk (Pure.pure result)) s t :=
  ⟨rfl, same⟩

/-- A computation that reads the same from both states. -/
theorem RunsAlike.read {look : σ → Except ε α} (same : alike s t) (shown : look s = look t) :
    RunsAlike alike (ExceptT.mk fun s => (look s, s)) s t :=
  ⟨shown, same⟩

/-- A computation that goes on after another one. -/
theorem RunsAlike.bind {first : ExceptT ε (StateM σ) α} {next : α → ExceptT ε (StateM σ) β}
    (head : RunsAlike alike first s t)
    (tail : ∀ value left right, first.run.run s = (.ok value, left) → alike left right →
      RunsAlike alike (next value) left right) :
    RunsAlike alike (first >>= next) s t := by
  obtain ⟨same, after⟩ := head
  cases ran : first.run.run s with
  | mk outcome left =>
    cases again : first.run.run t with
    | mk outcome' right =>
      rw [ran, again] at same after
      obtain rfl : outcome = outcome' := same
      cases outcome with
      | error e =>
        -- Both sides stop here.
        refine ⟨?_, ?_⟩ <;> rw [run_state_bind, run_state_bind, ran, again]
        exact after
      | ok value =>
        obtain ⟨later, last⟩ := tail value left right ran after
        refine ⟨?_, ?_⟩ <;> rw [run_state_bind, run_state_bind, ran, again]
        · exact later
        · exact last

/-- A computation whose value is handed on in another form. -/
theorem RunsAlike.answer {first : ExceptT ε (StateM σ) α} {wrap : α → β}
    (head : RunsAlike alike first s t) :
    RunsAlike alike (first >>= fun value => Pure.pure (wrap value)) s t :=
  head.bind fun value _ _ _ same => .still same (.ok (wrap value))

/-- A computation whose errors are wrapped. -/
theorem RunsAlike.adapt {m : ExceptT ε (StateM σ) α} {wrap : ε → δ}
    (inner : RunsAlike alike m s t) : RunsAlike alike (m.adapt wrap) s t :=
  ⟨congrArg (Except.mapError wrap) inner.outcome, inner.after⟩

end ExceptT
