import Mathlib
import ZanGuard.Proofs.Engine.Inversion

/-! The walk under the standard library's Hoare triples: what they say of a run, and its lookups. -/

namespace ZanGuard

open Std.Do

set_option mvcgen.warning false

variable {V P α : Type}

/-- A walk satisfies a triple exactly when each of its runs does, whether it returns or fails. -/
theorem WalkM.triple_iff {pre : WalkState → Prop} {step : WalkM α} {post : α → WalkState → Prop}
    {fails : Err → WalkState → Prop} :
    ⦃fun st => ⌜pre st⌝⦄ step ⦃post⟨fun a st => ⌜post a st⌝, fun e st => ⌜fails e st⌝⟩⦄ ↔
      ∀ st, pre st →
        match step.from st with
        | (.ok a, after) => post a after
        | (.error e, after) => fails e after := by
  -- The weakest precondition of a walk looks at the one run there is from a state.
  have meets : ∀ st, (wp⟦step⟧ (post⟨fun a st => ⌜post a st⌝, fun e st => ⌜fails e st⌝⟩) st).down ↔
      match step.from st with
      | (.ok a, after) => post a after
      | (.error e, after) => fails e after := by
    intro st
    have run : (StateT.run (ExceptT.run step) st).run = step.from st := rfl
    simp only [wp, PredTrans.apply_pushExcept, PredTrans.apply_pushArg, PredTrans.apply_Pure_pure]
    rw [run]
    rcases step.from st with ⟨out | out, after⟩
    · rfl
    · rfl
  constructor
  · intro holds st before
    exact (meets st).mp (holds st before)
  · intro holds st before
    exact (meets st).mpr (holds st before)

/-- What a triple promises of a walk that returned. -/
theorem WalkM.triple_ok {pre : WalkState → Prop} {step : WalkM α} {post : α → WalkState → Prop}
    {fails : Err → WalkState → Prop}
    (holds : ⦃fun st => ⌜pre st⌝⦄ step
      ⦃post⟨fun a st => ⌜post a st⌝, fun e st => ⌜fails e st⌝⟩⦄)
    {st after : WalkState} {a : α} (before : pre st) (ran : step.from st = (.ok a, after)) :
    post a after := by
  -- The run that returned is the one the triple speaks of.
  have outcome := WalkM.triple_iff.mp holds st before
  rw [ran] at outcome
  exact outcome

/-- What a triple promises of a walk that failed. -/
theorem WalkM.triple_error {pre : WalkState → Prop} {step : WalkM α}
    {post : α → WalkState → Prop} {fails : Err → WalkState → Prop}
    (holds : ⦃fun st => ⌜pre st⌝⦄ step
      ⦃post⟨fun a st => ⌜post a st⌝, fun e st => ⌜fails e st⌝⟩⦄)
    {st after : WalkState} {e : Err} (before : pre st) (ran : step.from st = (.error e, after)) :
    fails e after := by
  have outcome := WalkM.triple_iff.mp holds st before
  rw [ran] at outcome
  exact outcome

/-- Of any walk one can say nothing. -/
theorem WalkM.triple_trivial (step : WalkM α) :
    ⦃⌜True⌝⦄ step ⦃⇓? _ _ => ⌜True⌝⦄ := by
  -- Either outcome of a run has nothing to meet.
  refine WalkM.triple_iff.mpr fun st _ => ?_
  rcases step.from st with ⟨out | out, after⟩
  · trivial
  · trivial

/-- A lookup whose failure is handed over records itself and returns. -/
@[spec]
theorem tryLookup_spec (call : Lookup) (answer : Nat → Except Err α)
    {post : PostCond (Except Err α) (.except Err (.arg WalkState .pure))} :
    ⦃fun st => post.1 (answer st.lookups.length) { st with lookups := st.lookups ++ [call] }⦄
    tryLookup call answer ⦃post⦄ :=
  fun _ promised => promised

/-- An error that says the walk went too deep. -/
def Err.TooDeep (e : Err) : Prop :=
  ∃ max, e = .maxCheckDepthExceeded max

/-- Evaluating a condition adds lookups and does nothing else, and is never too deep. -/
theorem evaluateCondition_frame (w : Walker V P) (req : CheckRequest V) (cond : ConditionExpr P)
    (visited : VisitedSet) (made : Nat) :
    ⦃fun st => ⌜st.visited = visited ∧ made ≤ st.lookups.length⌝⦄
    evaluateCondition w req cond
    ⦃post⟨fun _ st => ⌜st.visited = visited ∧ made ≤ st.lookups.length⌝,
      fun e _ => ⌜¬ e.TooDeep⌝⟩⦄ := by
  mvcgen [evaluateCondition]
  -- A program that fails, then a value that is not a boolean, then a verdict.
  · rintro ⟨max, same⟩
    cases same
  · rintro ⟨max, same⟩
    cases same
  · rename_i before _ _ _ _
    refine ⟨before.1, before.2.trans ?_⟩
    simp only [List.length_append]
    omega

end ZanGuard
