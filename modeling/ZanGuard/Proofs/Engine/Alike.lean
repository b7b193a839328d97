import ZanGuard.Engine.Engine

/-! Walks that read the same data take the same steps, one hop at a time. -/

namespace ZanGuard

variable {V P : Type}

/-- Two walks ask one store, run one language and find the same permissions. -/
structure Walker.Alike (w other : Walker V P) : Prop where
  store : w.store = other.store
  lang : w.lang = other.lang
  permissions : ∀ type permission,
    w.schema.getPermission type permission = other.schema.getPermission type permission

section Hops

variable {w other : Walker V P} (alike : w.Alike other)
  (descend : CheckRequest V → PermissionDef P → WalkM CheckResult) (req : CheckRequest V)

include alike

/-- The userset loop. -/
theorem walkSubjects_alike (subjects : List SubjectRef) :
    walkSubjects w descend req subjects = walkSubjects other descend req subjects := by
  induction subjects with
  | nil => rfl
  | cons subj rest ih => simp only [walkSubjects, ih, alike.store, alike.permissions]

/-- The target loop. -/
theorem walkTargets_alike (permission : String) (targets : List ObjectRef) :
    walkTargets w descend req permission targets =
      walkTargets other descend req permission targets := by
  induction targets with
  | nil => rfl
  | cons target rest ih => simp only [walkTargets, ih, alike.permissions]

/-- A condition is run in the language both share. -/
theorem evaluateCondition_alike (cond : ConditionExpr P) :
    evaluateCondition w req cond = evaluateCondition other req cond := by
  simp only [evaluateCondition, alike.store, alike.lang]

/-- A child, whatever its kind. -/
theorem walkChild_alike (child : PermissionRef) :
    walkChild w descend req child = walkChild other descend req child := by
  unfold walkChild
  cases child.kind with
  | relation => simp only [walkRelation, walkSubjects_alike alike, alike.store]
  | arrow => simp only [walkArrow, walkTargets_alike alike, alike.store]
  | condition => simp only [evaluateCondition_alike alike, alike.lang]
  | other kind => rfl

/-- The three loops over children. -/
theorem walkChildren_alike (children : List PermissionRef) :
    walkUnion w descend req children = walkUnion other descend req children ∧
      walkAll w descend req children = walkAll other descend req children ∧
      walkExcluded w descend req children = walkExcluded other descend req children := by
  induction children with
  | nil => exact ⟨rfl, rfl, rfl⟩
  | cons child rest ih =>
    simp only [walkUnion, walkAll, walkExcluded, walkChild_alike alike, ih, and_self]

/-- The operation of a permission. -/
theorem walkOperation_alike (permDef : PermissionDef P) :
    walkOperation w descend req permDef = walkOperation other descend req permDef := by
  have loops := walkChildren_alike alike descend req
  unfold walkOperation
  cases permDef.operation with
  | union | direct => exact (loops _).1
  | intersect => simp only [walkIntersect, loops]
  | exclusion =>
    -- The base is asked on its own, before the loop over the excluded.
    cases permDef.children with
    | nil => rfl
    | cons base excluded => simp only [walkExclusion, walkChild_alike alike, loops]
  | other code => rfl

end Hops

/-- A walk of any depth, where both have one limit. -/
theorem walkPermission_alike {w other : Walker V P} (alike : w.Alike other)
    (cfg : w.cfg = other.cfg) (hops : Nat) :
    walkPermission w hops = walkPermission other hops := by
  -- By induction on the hops left; the limit is in the error that ends them.
  induction hops with
  | zero =>
    funext req permDef
    simp only [walkPermission, cfg]
  | succ hops ih =>
    funext req permDef
    simp only [walkPermission, walkOperation_alike alike, ih]

/-- The check of a walk, its gate included. -/
theorem Walker.check_alike {w other : Walker V P} (alike : w.Alike other) (cfg : w.cfg = other.cfg)
    (req : CheckRequest V) : w.check req = other.check req := by
  have hops : w.hopsAt 0 = other.hopsAt 0 := by
    simp only [hopsAt, cfg]
  simp only [check, permissionAt, hops, alike.permissions, walkPermission_alike alike cfg,
    evaluateCondition_alike alike]

end ZanGuard
