import ZanGuard.Engine.Engine

/-! The permission walk once more, with a record of the calls of `evaluateCondition` it makes. -/

namespace ZanGuard

/-- One call of `evaluateCondition`: its request, and whether a userset led to it. -/
structure Evaluation (V P : Type) where
  request : CheckRequest V
  condition : ConditionExpr P
  belowUserset : Bool
  deriving DecidableEq

/-- A step of the traced walk keeps its state and its record when it fails. -/
abbrev TraceM (V P : Type) := ExceptT Err (StateM (WalkState × List (Evaluation V P)))

variable {V P : Type}

/-- Run a step of the traced walk from a state and a record. -/
def TraceM.from {α : Type} (step : TraceM V P α) (st : WalkState × List (Evaluation V P)) :
    Except Err α × WalkState × List (Evaluation V P) :=
  step st

/-- A step of the walk that evaluates no condition leaves the record as it is. -/
def WalkM.traced {α : Type} (step : WalkM α) : TraceM V P α :=
  fun st => ((step.from st.1).1, (step.from st.1).2, st.2)

/-- Record a call of `evaluateCondition`, and make it. -/
def tracedCondition (w : Walker V P) (below : Bool) (req : CheckRequest V)
    (cond : ConditionExpr P) : TraceM V P Bool := do
  -- The call is on the record even if it fails.
  modify fun st =>
    (st.1, st.2 ++ [{ request := req, condition := cond, belowUserset := below }])
  (evaluateCondition w req cond).traced

section Walkers

-- `descend` is told whether a userset leads to the node it enters.
variable (w : Walker V P)
  (descend : Bool → CheckRequest V → PermissionDef P → TraceM V P CheckResult) (below : Bool)

end Walkers

end ZanGuard
