import ZanGuard.Lib.SearchMap
import ZanGuard.Proofs.Engine.Siblings

/-! The gate of a permission is read by the check of a request, and by no hop of its walk. -/

namespace ZanGuard

open Search

variable {V P : Type} {w : Walker V P} {world : World V P}

/-- A condition answers true exactly when its program, if it has one, evaluates to true. -/
theorem Walker.conditionAnswer_true_iff (reads : w.Reads world) {req : CheckRequest V}
    (asks : world.Asks req) (cond : ConditionExpr P) :
    w.conditionAnswer req cond = .ok true ↔ ∀ program, cond.compiled = some program →
      world.Evaluates program req.objectType req.objectID req.context := by
  -- What the walk reads is what the world holds, so both run one program over one environment.
  have object := reads.objectAttrs 0 req.objectType req.objectID
  have subject := reads.subjectAttrs 0
  rw [← asks.1, ← asks.2] at subject
  unfold Walker.conditionAnswer World.Evaluates
  rw [object, subject, ← reads.lang]
  cases cond.compiled with
  | none => simp
  | some program =>
    simp only [Option.some.injEq, forall_eq']
    cases ran : world.lang.run program
        { object := world.objectAttrs req.objectType req.objectID, subject := world.subjectAttrs,
          request := req.context } with
    | error cause => simp
    | ok value =>
      simp only [Except.ok.injEq, exists_eq_left']
      cases world.lang.asBool value with
      | error typeName => simp
      | ok verdict => simp

/-- Once the walk has granted, the check grants exactly when the gate is open. -/
theorem Walker.check_granted_iff_gate (steady : w.store.Steady) (reads : w.Reads world)
    {req : CheckRequest V} (asks : world.Asks req) {permDef : PermissionDef P}
    (declared : w.schema.getPermission req.objectType req.permission = .ok permDef)
    {walked : CheckResult} {st mid : WalkState}
    (ran : (w.permissionAt 0 req permDef).from st = (.ok walked, mid))
    (grants : walked.allowed = true) :
    granted ((w.check req).from st).1 = true ↔
      world.GateOpen req.objectType req.objectID req.permission req.context := by
  -- The gate is evaluated after the walk granted, on the state the walk left behind.
  have filed : world.schema.getPermission req.objectType req.permission = .ok permDef :=
    reads.schema ▸ declared
  unfold Walker.check
  rw [declared]
  simp only [WalkM.from_bind, ran, WalkM.andThen_ok, grants]
  cases gate : permDef.condition with
  | none =>
    -- Without a condition there is nothing to fail.
    have open_ : world.GateOpen req.objectType req.objectID req.permission req.context := by
      intro other cond program found gated
      obtain rfl : permDef = other := Except.ok.inj (filed.symm.trans found)
      rw [gate] at gated
      cases gated
    simp [granted, grants, open_]
  | some cond =>
    -- The permission is the declared one, so the gate is about this condition alone.
    have opened : world.GateOpen req.objectType req.objectID req.permission req.context ↔
        w.conditionAnswer req cond = .ok true := by
      rw [Walker.conditionAnswer_true_iff reads asks]
      constructor
      · exact fun gated program compiled => gated permDef cond program filed gate compiled
      · intro evaluates other found program same gated compiled
        obtain rfl : permDef = other := Except.ok.inj (filed.symm.trans same)
        obtain rfl : cond = found := Option.some.inj (gate.symm.trans gated)
        exact evaluates program compiled
    rw [opened]
    obtain ⟨answered, -⟩ := evaluateCondition_steady steady req cond mid
    rcases outcome : (evaluateCondition w req cond).from mid with ⟨out, after⟩
    rw [outcome] at answered
    simp only at answered
    simp only [WalkM.from_bind, WalkM.from_adapt, outcome, ← answered]
    rcases out with e | verdict
    · simp [Except.mapError, granted]
    · cases verdict with
      | false => simp [Except.mapError, granted, deny]
      | true => simp [Except.mapError, granted, grants]

/-- Nothing a node leads to was visited. -/
def World.Fresh (world : World V P) (v : List String) (node : Node) : Prop :=
  ∀ next, world.Reaches node next → world.key next ∉ v

/-- A node with nothing visited below it is answered as it would be from the start. -/
theorem Walker.walk_fresh (shows : w.ShowsAll world) {req : CheckRequest V}
    (asks : world.Asks req) {v : List String} (fresh : world.Fresh v req.node) (hops : Nat) :
    (walk w.graph hops req []).1 = (walk w.graph hops req v).1 := by
  -- A key met below the node belongs to a node in reach, and none of those was visited.
  refine Search.walk_fresh hops ?_
  intro k met visited
  obtain ⟨node, reached, rfl⟩ := Walker.meets_node shows asks met
  exact fresh node reached visited

section Forget

variable (blind : w.schema.IgnoresRequest w.lang)

include blind

end Forget

end ZanGuard
