import Mathlib.Logic.Relation
import Mathlib.Order.FixedPoints
import ZanGuard.Schema.Condition
import ZanGuard.Model.Tuple

/-! What a permission means: the least relation the live tuples and the schema give rise to. -/

namespace ZanGuard

/-- A node of the permission graph: an object and a permission of its type. -/
structure Node where
  type : String
  id : String
  permission : String
  deriving DecidableEq

/-- Everything a derivation draws on, for one subject. -/
structure World (V P : Type) where
  schema : CompiledSchema P
  lang : ExprLang V P
  /-- The tuples that count. -/
  live : RelationTuple V → Prop
  objectAttrs : String → String → AnyMap V
  subjectAttrs : AnyMap V
  subjectType : String
  subjectID : String

namespace World

variable {V P : Type} (world : World V P)

/-- A live tuple relates an object directly to the subject. -/
def Direct (type id relation : String) : Prop :=
  ∃ t, world.live t ∧ t.objectType = type ∧ t.objectID = id ∧ t.relation = relation ∧
    t.subjectType = world.subjectType ∧ t.subjectID = world.subjectID ∧ t.subjectRelation = ""

/-- A live tuple names a subject of an object and relation. -/
def Subject (type id relation : String) (subj : SubjectRef) : Prop :=
  ∃ t, world.live t ∧ t.objectType = type ∧ t.objectID = id ∧ t.relation = relation ∧
    subj = { type := t.subjectType, id := t.subjectID, relation := t.subjectRelation }

/-- A live tuple names a related object, whatever its subject relation is. -/
def Related (type id relation : String) (target : ObjectRef) : Prop :=
  ∃ t, world.live t ∧ t.objectType = type ∧ t.objectID = id ∧ t.relation = relation ∧
    target = { type := t.subjectType, id := t.subjectID }

/-- A type declares a permission. -/
def Declares (type permission : String) : Prop :=
  ∃ permDef, world.schema.getPermission type permission = .ok permDef

/-- A program evaluates to true over an object, the subject and a request context. -/
def Evaluates (program : P) (type id : String) (request : AnyMap V) : Prop :=
  ∃ value, world.lang.run program
      { object := world.objectAttrs type id, subject := world.subjectAttrs, request } = .ok value ∧
    world.lang.asBool value = .ok true

/-- An inline condition compiles and is true of an object and the subject. -/
def Condition (type id expr : String) : Prop :=
  ∃ program, world.lang.compile (trimSpace expr) = .ok program ∧
    world.Evaluates program type id none

/-- The condition that gates a permission, if it has one, is true of an object. -/
def GateOpen (type id permission : String) (request : AnyMap V) : Prop :=
  ∀ permDef cond program, world.schema.getPermission type permission = .ok permDef →
    permDef.condition = some cond → cond.compiled = some program →
      world.Evaluates program type id request

/-- What a userset contributes, given the nodes that derive. -/
def UsersetHolds (derives : Node → Prop) (subj : SubjectRef) : Prop :=
  subj.relation ≠ "" ∧
    ((world.Declares subj.type subj.relation ∧ derives ⟨subj.type, subj.id, subj.relation⟩) ∨
      (¬ world.Declares subj.type subj.relation ∧ world.Direct subj.type subj.id subj.relation))

/-- What a related object contributes, given the nodes that derive. -/
def TargetHolds (derives : Node → Prop) (permission : String) (target : ObjectRef) : Prop :=
  world.Declares target.type permission ∧ derives ⟨target.type, target.id, permission⟩

/-- When a child of a permission holds, given the nodes that derive. -/
def ChildHolds (derives : Node → Prop) (type id : String) (child : PermissionRef) : Prop :=
  match child.kind with
  | .relation =>
    world.Direct type id child.relationRef ∨
      ∃ subj, world.Subject type id child.relationRef subj ∧ world.UsersetHolds derives subj
  | .arrow =>
    ∃ target, world.Related type id child.arrowRef target ∧
      world.TargetHolds derives child.arrowPermission target
  | .condition => world.Condition type id child.conditionExpr
  | .other _ => False

/-- When an operation over children holds; exclusion is not monotone and derives nothing. -/
def PermissionHolds (derives : Node → Prop) (type id : String) (permDef : PermissionDef P) : Prop :=
  match permDef.operation with
  | .union | .direct => ∃ child ∈ permDef.children, world.ChildHolds derives type id child
  | .intersect =>
    permDef.children ≠ [] ∧ ∀ child ∈ permDef.children, world.ChildHolds derives type id child
  | .exclusion | .other _ => False

/-- A userset that holds keeps holding when more nodes derive. -/
theorem UsersetHolds.mono {world : World V P} {fewer more : Node → Prop}
    (grows : ∀ n, fewer n → more n) {subj : SubjectRef}
    (holds : world.UsersetHolds fewer subj) : world.UsersetHolds more subj := by
  obtain ⟨nonempty, ⟨declared, derived⟩ | member⟩ := holds
  · exact ⟨nonempty, .inl ⟨declared, grows _ derived⟩⟩
  · exact ⟨nonempty, .inr member⟩

/-- A target that holds keeps holding when more nodes derive. -/
theorem TargetHolds.mono {world : World V P} {fewer more : Node → Prop}
    (grows : ∀ n, fewer n → more n) {permission : String} {target : ObjectRef}
    (holds : world.TargetHolds fewer permission target) :
    world.TargetHolds more permission target :=
  ⟨holds.1, grows _ holds.2⟩

/-- A child that holds keeps holding when more nodes derive. -/
theorem ChildHolds.mono {world : World V P} {fewer more : Node → Prop}
    (grows : ∀ n, fewer n → more n) {type id : String} {child : PermissionRef}
    (holds : world.ChildHolds fewer type id child) : world.ChildHolds more type id child := by
  -- Derivations occur only positively: below usersets and below arrow targets.
  unfold ChildHolds at holds ⊢
  cases kind : child.kind with
  | relation =>
    rw [kind] at holds
    rcases holds with direct | ⟨subj, listed, userset⟩
    · exact .inl direct
    · exact .inr ⟨subj, listed, userset.mono grows⟩
  | arrow =>
    rw [kind] at holds
    obtain ⟨target, related, held⟩ := holds
    exact ⟨target, related, held.mono grows⟩
  | condition => rwa [kind] at holds
  | other name => rwa [kind] at holds

/-- A permission that holds keeps holding when more nodes derive. -/
theorem PermissionHolds.mono {world : World V P} {fewer more : Node → Prop}
    (grows : ∀ n, fewer n → more n) {type id : String} {permDef : PermissionDef P}
    (holds : world.PermissionHolds fewer type id permDef) :
    world.PermissionHolds more type id permDef := by
  -- Only unions and intersections mention derivations, and both are positive in their children.
  unfold PermissionHolds at holds ⊢
  cases operation : permDef.operation with
  | union | direct =>
    rw [operation] at holds
    obtain ⟨child, member, held⟩ := holds
    exact ⟨child, member, held.mono grows⟩
  | intersect =>
    rw [operation] at holds
    exact ⟨holds.1, fun child member => (holds.2 child member).mono grows⟩
  | exclusion | other code => rwa [operation] at holds

/-- One round of derivation over all nodes. -/
def derivation : (Node → Prop) →o (Node → Prop) where
  toFun derives node := ∃ permDef,
    world.schema.getPermission node.type node.permission = .ok permDef ∧
      world.PermissionHolds derives node.type node.id permDef
  monotone' := by
    intro fewer more grows node ⟨permDef, declared, holds⟩
    exact ⟨permDef, declared, holds.mono grows⟩

/-- The least relation that is closed under the derivation rules. -/
def Derives : Node → Prop :=
  world.derivation.lfp

/-- A node derives as soon as its permission holds of the nodes that derive. -/
theorem Derives.intro {world : World V P} {node : Node} {permDef : PermissionDef P}
    (declared : world.schema.getPermission node.type node.permission = .ok permDef)
    (holds : world.PermissionHolds world.Derives node.type node.id permDef) :
    world.Derives node := by
  -- The least fixed point is a fixed point, so one more round does not leave it.
  have closed : world.derivation world.Derives = world.Derives := world.derivation.map_lfp
  rw [← closed]
  exact ⟨permDef, declared, holds⟩

/-- A set of nodes that the derivation rules do not leave contains every node that derives. -/
theorem Derives.induction {world : World V P} {closed : Node → Prop}
    (keeps : ∀ node permDef,
      world.schema.getPermission node.type node.permission = .ok permDef →
      world.PermissionHolds closed node.type node.id permDef → closed node)
    {node : Node} (derived : world.Derives node) : closed node := by
  -- A set that one round does not leave lies above the least fixed point.
  have least : world.Derives ≤ closed := by
    refine world.derivation.lfp_le ?_
    intro node ⟨permDef, declared, holds⟩
    exact keeps node permDef declared holds
  exact least node derived

/-- The nodes a child of a permission opens. -/
inductive Opens (type id : String) (child : PermissionRef) : Node → Prop
  /-- A userset that holds a relation is a node, declared or not. -/
  | userset {subj : SubjectRef} (kind : child.kind = .relation)
      (listed : world.Subject type id child.relationRef subj) (nonempty : subj.relation ≠ "") :
      Opens type id child ⟨subj.type, subj.id, subj.relation⟩
  /-- A related object is a node when its type declares the arrow's permission. -/
  | target {target : ObjectRef} (kind : child.kind = .arrow)
      (related : world.Related type id child.arrowRef target)
      (declares : world.Declares target.type child.arrowPermission) :
      Opens type id child ⟨target.type, target.id, child.arrowPermission⟩

/-- One hop of the permission graph, along a userset or along an arrow. -/
def Hop (node next : Node) : Prop :=
  ∃ permDef, world.schema.getPermission node.type node.permission = .ok permDef ∧
    ∃ child ∈ permDef.children, world.Opens node.type node.id child next

/-- The nodes some number of hops away. -/
def Reaches : Node → Node → Prop :=
  Relation.ReflTransGen world.Hop

/-- The nodes a child of a permission leads to. -/
def LeadsTo (type id : String) (child : PermissionRef) (node : Node) : Prop :=
  ∃ first, world.Opens type id child first ∧ world.Reaches first node

end World

end ZanGuard
