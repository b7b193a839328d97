import ZanGuard.Lib.Fallible

/-! Computations that either succeed or leave the state they pass on as it was. -/

namespace ExceptT

variable {σ ε α β : Type} {fails : ε → Prop} {mid : α → σ → Prop} {s : σ}

/--
A computation succeeds in a way, or it fails with an error of a kind.

The state is the one before it when it fails.
-/
def AllOrNothing (fails : ε → Prop) (post : α → σ → Prop) (s : σ) (m : ExceptT ε (StateM σ) α) :
    Prop :=
  match m.run.run s with
  | (.error e, after) => after = s ∧ fails e
  | (.ok value, after) => post value after

/-- A value that is there. -/
theorem AllOrNothing.pure {post : α → σ → Prop} {value : α} (holds : post value s) :
    AllOrNothing fails post s (pure value) :=
  holds

/-- An outcome that does not touch the state. -/
theorem AllOrNothing.outcome {post : α → σ → Prop} {result : Except ε α}
    (failed : ∀ e, result = .error e → fails e) (done : ∀ value, result = .ok value → post value s) :
    AllOrNothing fails post s (ExceptT.mk (Pure.pure result)) := by
  cases result with
  | error e => exact ⟨rfl, failed e rfl⟩
  | ok value => exact done value rfl

/-- A computation that is known to fail. -/
theorem AllOrNothing.of_error {post : α → σ → Prop} {m : ExceptT ε (StateM σ) α} {e : ε}
    (ran : m.run.run s = (.error e, s)) (holds : fails e) : AllOrNothing fails post s m := by
  unfold AllOrNothing
  rw [ran]
  exact ⟨rfl, holds⟩

/-- A computation that is known to succeed. -/
theorem AllOrNothing.of_ok {post : α → σ → Prop} {m : ExceptT ε (StateM σ) α} {value : α} {after : σ}
    (ran : m.run.run s = (.ok value, after)) (holds : post value after) :
    AllOrNothing fails post s m := by
  unfold AllOrNothing
  rw [ran]
  exact holds

/-- A computation that was seen to succeed has done so in that way. -/
theorem AllOrNothing.succeeded {post : α → σ → Prop} {m : ExceptT ε (StateM σ) α} {value : α}
    {after : σ} (done : AllOrNothing fails post s m) (ran : m.run.run s = (.ok value, after)) :
    post value after := by
  unfold AllOrNothing at done
  rw [ran] at done
  exact done

/-- A computation that goes on after one that has only looked. -/
theorem AllOrNothing.bind {post : β → σ → Prop} {found : α → Prop} {first : ExceptT ε (StateM σ) α}
    {next : α → ExceptT ε (StateM σ) β}
    (looked : AllOrNothing fails (fun value after => after = s ∧ found value) s first)
    (later : ∀ value, found value → AllOrNothing fails post s (next value)) :
    AllOrNothing fails post s (first >>= next) := by
  unfold AllOrNothing at looked ⊢
  rw [run_state_bind]
  -- The second part starts where the first one did.
  split at looked
  · rename_i e after ran
    rw [ran]
    exact looked
  · rename_i value after ran
    obtain ⟨rfl, holds⟩ := looked
    rw [ran]
    exact later value holds

/-- A computation that goes on with something that cannot fail any more. -/
theorem AllOrNothing.bind_sure {post : β → σ → Prop} {first : ExceptT ε (StateM σ) α}
    {next : α → ExceptT ε (StateM σ) β} (done : AllOrNothing fails mid s first)
    (sure : ∀ value after, mid value after → AllOrNothing (fun _ => False) post after (next value)) :
    AllOrNothing fails post s (first >>= next) := by
  unfold AllOrNothing at done sure ⊢
  rw [run_state_bind]
  split at done
  · rename_i e after ran
    rw [ran]
    exact done
  · rename_i value after ran
    have sure := sure value after done
    rw [ran]
    dsimp only
    split at sure
    · exact sure.2.elim
    · rename_i answer last ends
      rw [ends]
      exact sure

/-- A computation whose value is handed on in another form. -/
theorem AllOrNothing.answer {post : β → σ → Prop} {first : ExceptT ε (StateM σ) α} {wrap : α → β}
    (done : AllOrNothing fails mid s first) (holds : ∀ value after, mid value after →
      post (wrap value) after) :
    AllOrNothing fails post s (first >>= fun value => Pure.pure (wrap value)) :=
  done.bind_sure fun value after reached => AllOrNothing.pure (holds value after reached)

/-- A computation whose errors are wrapped. -/
theorem AllOrNothing.adapt {δ : Type} {post : α → σ → Prop} {more : δ → Prop} {wrap : ε → δ}
    {m : ExceptT ε (StateM σ) α} (done : AllOrNothing fails post s m)
    (wrapped : ∀ e, fails e → more (wrap e)) : AllOrNothing more post s (m.adapt wrap) := by
  have ran : (m.adapt wrap).run.run s = ((m.run.run s).1.mapError wrap, (m.run.run s).2) := rfl
  unfold AllOrNothing at done ⊢
  rw [ran]
  -- Wrapping an error changes neither the state nor whether there is one.
  generalize m.run.run s = ran at done
  obtain ⟨result, after⟩ := ran
  cases result with
  | error e => exact ⟨done.1, wrapped e done.2⟩
  | ok value => exact done

/-- What is asked of the errors and of the success may be weakened. -/
theorem AllOrNothing.imp {post wider : α → σ → Prop} {more : ε → Prop} {m : ExceptT ε (StateM σ) α}
    (done : AllOrNothing fails post s m) (errors : ∀ e, fails e → more e)
    (values : ∀ value after, post value after → wider value after) :
    AllOrNothing more wider s m := by
  unfold AllOrNothing at done ⊢
  split at done
  · exact ⟨done.1, errors _ done.2⟩
  · exact values _ _ done

end ExceptT
