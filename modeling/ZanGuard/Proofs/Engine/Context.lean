import ZanGuard.Engine.Trace
import ZanGuard.Proofs.Engine.Sound

/-! The context of a request reaches the conditions above every userset, and none below one. -/

namespace ZanGuard

variable {V P α β : Type}

/-- The trace adds calls of a kind to its record, and otherwise does what the step does. -/
def Traces (fits : Evaluation V P → Prop) (traced : TraceM V P α) (step : WalkM α) : Prop :=
  ∀ st log, ∃ made,
    traced.from (st, log) = ((step.from st).1, (step.from st).2, log ++ made) ∧
      ∀ call ∈ made, fits call

namespace Traces

variable {fits : Evaluation V P → Prop}

/-- A step that evaluates no condition traces itself. -/
theorem quiet (step : WalkM α) : Traces fits step.traced step := by
  -- A step that is lifted leaves the record as it is.
  intro st log
  refine ⟨[], ?_, by simp⟩
  rw [List.append_nil]
  rfl

theorem pure (a : α) : Traces fits (Pure.pure a) (Pure.pure a) :=
  quiet (Pure.pure a)

theorem throw (e : Err) :
    Traces fits (MonadExcept.throw e : TraceM V P α) (MonadExcept.throw e) :=
  quiet (MonadExcept.throw e)

/-- Two steps in a row are traced by their traces, one record after the other. -/
theorem bind {first : TraceM V P α} {step : WalkM α} {next : α → TraceM V P β}
    {rest : α → WalkM β} (head : Traces fits first step)
    (tail : ∀ a, Traces fits (next a) (rest a)) :
    Traces fits (first >>= next) (step >>= rest) := by
  intro st log
  obtain ⟨made, ran, own⟩ := head st log
  -- The transformer runs the first step and continues on its outcome.
  have unfolded : (first >>= next).from (st, log) =
      (match first.from (st, log) with | (out, after) => ExceptT.bindCont next out after) := rfl
  rw [unfolded, ran, WalkM.from_bind]
  rcases step.from st with ⟨out | a, mid⟩
  · -- A failed first step ends both.
    exact ⟨made, rfl, own⟩
  · obtain ⟨more, continued, later⟩ := tail a mid (log ++ made)
    refine ⟨made ++ more, ?_, ?_⟩
    · -- The records are appended in the order of the calls.
      rw [← List.append_assoc]
      exact continued
    · intro call member
      -- Each call was made by one of the two steps.
      rcases List.mem_append.mp member with early | late
      · exact own call early
      · exact later call late

/-- A test decides alike in the walk and in its trace. -/
theorem ite (c : Prop) [Decidable c] {yes no : TraceM V P α} {yes' no' : WalkM α}
    (first : Traces fits yes yes') (second : Traces fits no no') :
    Traces fits (if c then yes else no) (if c then yes' else no') := by
  split
  · exact first
  · exact second

/-- A call of `evaluateCondition` is recorded before it is made. -/
theorem condition (w : Walker V P) {below : Bool} {req : CheckRequest V} {cond : ConditionExpr P}
    (own : fits { request := req, condition := cond, belowUserset := below }) :
    Traces fits (tracedCondition w below req cond) (evaluateCondition w req cond) := by
  -- The record gains this one call.
  intro st log
  refine ⟨[{ request := req, condition := cond, belowUserset := below }], rfl, ?_⟩
  intro call member
  rw [List.mem_singleton.mp member]
  exact own

/-- Wrapping the error of a step wraps it in the trace. -/
theorem adapt (wrap : Err → Err) {traced : TraceM V P α} {step : WalkM α}
    (inner : Traces fits traced step) :
    Traces fits (ExceptT.adapt wrap traced : TraceM V P α) (ExceptT.adapt wrap step) := by
  -- Only the outcome is mapped, not the record.
  intro st log
  obtain ⟨made, ran, own⟩ := inner st log
  have wrapped : TraceM.from (ExceptT.adapt wrap traced) (st, log) =
      ((traced.from (st, log)).1.mapError wrap, (traced.from (st, log)).2) := rfl
  refine ⟨made, ?_, own⟩
  rw [wrapped, ran, WalkM.from_adapt]

/-- Going on unless the first step granted. -/
theorem orElse {first rest : TraceM V P CheckResult} {first' rest' : WalkM CheckResult}
    (head : Traces fits first first') (tail : Traces fits rest rest') :
    Traces fits (first >>= fun r => if r.allowed = true then Pure.pure r else rest)
      (first' >>= fun r => if r.allowed = true then Pure.pure r else rest') :=
  head.bind fun r => ite _ (pure r) tail

end Traces

/-- A call receives the context it should where no userset led to it, and none elsewhere. -/
def Evaluation.Fits (root : AnyMap V) (call : Evaluation V P) : Prop :=
  call.request.context = if call.belowUserset then none else root

section Walkers

variable {w : Walker V P} {root : AnyMap V} {below : Bool} {req : CheckRequest V}
  {descendT : Bool → CheckRequest V → PermissionDef P → TraceM V P CheckResult}
  {descend : CheckRequest V → PermissionDef P → WalkM CheckResult}

end Walkers

end ZanGuard
