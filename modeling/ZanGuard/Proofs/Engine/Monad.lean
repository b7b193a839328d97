import ZanGuard.Engine.Engine

/-! How the steps of a walk act on its state. -/

namespace ZanGuard

/-- Testing a key asks whether it is in the set. -/
theorem VisitedSet.has_iff (visited : VisitedSet) (key : String) :
    visited.has key = true ↔ key ∈ visited.keys :=
  decide_eq_true_iff

namespace WalkM

variable {α β : Type}

/-- A step that only returns leaves the state alone. -/
@[simp] theorem from_pure (a : α) (st : WalkState) : (pure a : WalkM α).from st = (.ok a, st) := rfl

/-- A step that fails leaves the state alone. -/
@[simp] theorem from_throw (e : Err) (st : WalkState) :
    (throw e : WalkM α).from st = (.error e, st) := rfl

/-- Continue from the outcome of a step, unless it failed. -/
def andThen (run : Except Err α × WalkState) (next : α → WalkState → Except Err β × WalkState) :
    Except Err β × WalkState :=
  match run with
  | (.ok a, after) => next a after
  | (.error e, after) => (.error e, after)

@[simp] theorem andThen_ok (a : α) (st : WalkState)
    (next : α → WalkState → Except Err β × WalkState) : andThen (.ok a, st) next = next a st := rfl

@[simp] theorem andThen_error (e : Err) (st : WalkState)
    (next : α → WalkState → Except Err β × WalkState) :
    andThen (.error e, st) next = (.error e, st) := rfl

/-- A second step starts where the first one stopped, unless the first one failed. -/
theorem from_bind (step : WalkM α) (next : α → WalkM β) (st : WalkState) :
    (step >>= next).from st = andThen (step.from st) (fun a after => (next a).from after) := by
  -- The transformer runs the first step and continues on its outcome.
  show (match step.from st with | (out, after) => ExceptT.bindCont next out after) = _
  rcases step.from st with ⟨out, after⟩
  cases out <;> rfl

/-- A run of two steps that succeeds is a run of the first and then one of the second. -/
theorem from_bind_ok {step : WalkM α} {next : α → WalkM β} {st after : WalkState} {b : β}
    (ran : (step >>= next).from st = (.ok b, after)) :
    ∃ a mid, step.from st = (.ok a, mid) ∧ (next a).from mid = (.ok b, after) := by
  -- A first step that fails would have failed the run.
  rw [from_bind] at ran
  cases first : step.from st with
  | mk out mid =>
    rw [first] at ran
    cases out with
    | error e => simp [andThen] at ran
    | ok a => exact ⟨a, mid, rfl, ran⟩

/-- Reading the state does not change it. -/
@[simp] theorem from_get (st : WalkState) : (get : WalkM WalkState).from st = (.ok st, st) := rfl

/-- Changing the state succeeds. -/
@[simp] theorem from_modify (f : WalkState → WalkState) (st : WalkState) :
    (modify f : WalkM PUnit).from st = (.ok ⟨⟩, f st) := rfl

@[simp] theorem from_ite (c : Prop) [Decidable c] (yes no : WalkM α) (st : WalkState) :
    (if c then yes else no).from st = if c then yes.from st else no.from st := by
  split <;> rfl

/-- Wrapping the error of a step keeps its state and its answer. -/
@[simp] theorem from_adapt (wrap : Err → Err) (step : WalkM α) (st : WalkState) :
    WalkM.from (ExceptT.adapt wrap step) st =
      ((step.from st).1.mapError wrap, (step.from st).2) := rfl

@[simp] theorem from_tryLookup (call : Lookup) (answer : Nat → Except Err α) (st : WalkState) :
    (tryLookup call answer).from st =
      (.ok (answer st.lookups.length), { st with lookups := st.lookups ++ [call] }) := rfl

/-- A lookup reports the store's answer and is added to the lookups made. -/
@[simp] theorem from_lookup (call : Lookup) (answer : Nat → Except Err α) (st : WalkState) :
    (lookup call answer).from st =
      (answer st.lookups.length, { st with lookups := st.lookups ++ [call] }) := by
  -- The answer is recorded before an error in it is rethrown.
  unfold lookup
  rw [from_bind, from_tryLookup]
  cases answer st.lookups.length <;> rfl

end WalkM

end ZanGuard
