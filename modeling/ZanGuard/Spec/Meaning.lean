import ZanGuard.Spec.Derives

/-! What a permission means when exclusions take part: the least assignment of verdicts to nodes. -/

namespace ZanGuard

namespace World

variable {V P : Type} (world : World V P)

/-- Verdicts on nodes, for the request context that reaches them. -/
abbrev Verdicts (V : Type) := AnyMap V → Node → Bool → Prop

/-- A program evaluates to a boolean over an object, the subject and a request context. -/
def EvaluatesTo (program : P) (type id : String) (request : AnyMap V) (verdict : Bool) : Prop :=
  ∃ value, world.lang.run program
      { object := world.objectAttrs type id, subject := world.subjectAttrs, request } = .ok value ∧
    world.lang.asBool value = .ok verdict

/-- The verdict on a userset, whose node is reached without the request context. -/
def UsersetVerdict (known : Verdicts V) (subj : SubjectRef) (verdict : Bool) : Prop :=
  (world.Declares subj.type subj.relation ∧ known none ⟨subj.type, subj.id, subj.relation⟩ verdict) ∨
    (¬ world.Declares subj.type subj.relation ∧
      (world.Direct subj.type subj.id subj.relation ↔ verdict = true))

/-- The verdict on a child of a permission: one subject or target grants, and all of them refuse. -/
def ChildVerdict (known : Verdicts V) (request : AnyMap V) (type id : String)
    (child : PermissionRef) (verdict : Bool) : Prop :=
  match child.kind with
  | .relation =>
    if verdict then
      world.Direct type id child.relationRef ∨ ∃ subj, world.Subject type id child.relationRef subj ∧
        subj.relation ≠ "" ∧ world.UsersetVerdict known subj true
    else
      ¬ world.Direct type id child.relationRef ∧ ∀ subj, world.Subject type id child.relationRef subj →
        subj.relation ≠ "" → world.UsersetVerdict known subj false
  | .arrow =>
    if verdict then
      ∃ target, world.Related type id child.arrowRef target ∧
        world.Declares target.type child.arrowPermission ∧
        known request ⟨target.type, target.id, child.arrowPermission⟩ true
    else
      ∀ target, world.Related type id child.arrowRef target →
        world.Declares target.type child.arrowPermission →
          known request ⟨target.type, target.id, child.arrowPermission⟩ false
  | .condition => ∃ program, world.lang.compile (trimSpace child.conditionExpr) = .ok program ∧
      world.EvaluatesTo program type id request verdict
  | .other _ => False

/-- The truth tables of the operations. -/
def PermissionVerdict (known : Verdicts V) (request : AnyMap V) (type id : String)
    (permDef : PermissionDef P) (verdict : Bool) : Prop :=
  match permDef.operation with
  | .union | .direct =>
    if verdict then ∃ child ∈ permDef.children, world.ChildVerdict known request type id child true
    else ∀ child ∈ permDef.children, world.ChildVerdict known request type id child false
  | .intersect =>
    if verdict then permDef.children ≠ [] ∧
      ∀ child ∈ permDef.children, world.ChildVerdict known request type id child true
    else permDef.children = [] ∨
      ∃ child ∈ permDef.children, world.ChildVerdict known request type id child false
  | .exclusion =>
    match permDef.children with
    | [] => verdict = false
    | base :: excluded =>
      if verdict then world.ChildVerdict known request type id base true ∧
        ∀ child ∈ excluded, world.ChildVerdict known request type id child false
      else world.ChildVerdict known request type id base false ∨
        ∃ child ∈ excluded, world.ChildVerdict known request type id child true
  | .other _ => False

section Monotone

variable {world} {fewer more : Verdicts V}

/-- A verdict on a userset stands when more verdicts are known. -/
theorem UsersetVerdict.mono (grows : fewer ≤ more) {subj : SubjectRef} {verdict : Bool}
    (known : world.UsersetVerdict fewer subj verdict) : world.UsersetVerdict more subj verdict := by
  rcases known with ⟨declared, known⟩ | member
  · exact .inl ⟨declared, grows _ _ _ known⟩
  · exact .inr member

/-- A verdict on a child stands when more verdicts are known. -/
theorem ChildVerdict.mono (grows : fewer ≤ more) {request : AnyMap V} {type id : String}
    {child : PermissionRef} {verdict : Bool}
    (known : world.ChildVerdict fewer request type id child verdict) :
    world.ChildVerdict more request type id child verdict := by
  -- Both verdicts mention the nodes below positively.
  unfold ChildVerdict at known ⊢
  cases kind : child.kind with
  | relation =>
    rw [kind] at known
    cases verdict with
    | true =>
      rcases known with direct | ⟨subj, listed, nonempty, held⟩
      · exact .inl direct
      · exact .inr ⟨subj, listed, nonempty, held.mono grows⟩
    | false =>
      obtain ⟨notDirect, others⟩ := known
      exact ⟨notDirect, fun subj listed nonempty => (others subj listed nonempty).mono grows⟩
  | arrow =>
    rw [kind] at known
    cases verdict with
    | true =>
      obtain ⟨target, related, declared, held⟩ := known
      exact ⟨target, related, declared, grows _ _ _ held⟩
    | false => exact fun target related declared => grows _ _ _ (known target related declared)
  | condition => rwa [kind] at known
  | other name => rwa [kind] at known

/-- A verdict on a permission stands when more verdicts are known. -/
theorem PermissionVerdict.mono (grows : fewer ≤ more) {request : AnyMap V} {type id : String}
    {permDef : PermissionDef P} {verdict : Bool}
    (known : world.PermissionVerdict fewer request type id permDef verdict) :
    world.PermissionVerdict more request type id permDef verdict := by
  -- An exclusion takes a refusal of a child as a fact of its own, so it is monotone like the others.
  unfold PermissionVerdict at known ⊢
  cases operation : permDef.operation with
  | union | direct =>
    rw [operation] at known
    cases verdict with
    | true =>
      obtain ⟨child, member, held⟩ := known
      exact ⟨child, member, held.mono grows⟩
    | false => exact fun child member => (known child member).mono grows
  | intersect =>
    rw [operation] at known
    cases verdict with
    | true => exact ⟨known.1, fun child member => (known.2 child member).mono grows⟩
    | false =>
      rcases known with empty | ⟨child, member, held⟩
      · exact .inl empty
      · exact .inr ⟨child, member, held.mono grows⟩
  | exclusion =>
    rw [operation] at known
    cases children : permDef.children with
    | nil =>
      rw [children] at known
      exact known
    | cons base excluded =>
      rw [children] at known
      cases verdict with
      | true => exact ⟨known.1.mono grows, fun child member => (known.2 child member).mono grows⟩
      | false =>
        rcases known with refused | ⟨child, member, held⟩
        · exact .inl (refused.mono grows)
        · exact .inr ⟨child, member, held.mono grows⟩
  | other code => rwa [operation] at known

end Monotone

/-- One round of verdicts over all nodes. -/
def judgement : Verdicts V →o Verdicts V where
  toFun known request node verdict := ∃ permDef,
    world.schema.getPermission node.type node.permission = .ok permDef ∧
      world.PermissionVerdict known request node.type node.id permDef verdict
  monotone' := by
    rintro fewer more grows request node verdict ⟨permDef, declared, known⟩
    exact ⟨permDef, declared, known.mono grows⟩

/-- The least assignment of verdicts that is closed under the truth tables. -/
def Verdict : Verdicts V :=
  world.judgement.lfp

/-- A node has the verdict of its permission, once the nodes below have theirs. -/
theorem verdict_iff {world : World V P} {request : AnyMap V} {node : Node} {verdict : Bool} :
    world.Verdict request node verdict ↔ ∃ permDef,
      world.schema.getPermission node.type node.permission = .ok permDef ∧
        world.PermissionVerdict world.Verdict request node.type node.id permDef verdict := by
  -- The least fixed point is a fixed point.
  have fixed : world.judgement world.Verdict = world.Verdict := world.judgement.map_lfp
  constructor
  · intro known
    rw [← fixed] at known
    exact known
  · intro known
    rw [← fixed]
    exact known

section Exclusive

variable {world} {left right : Verdicts V}

/-- No userset is granted and refused, if no node is. -/
theorem UsersetVerdict.exclusive
    (apart : ∀ request node, left request node true → ¬ right request node false)
    {subj : SubjectRef} (granted : world.UsersetVerdict left subj true) :
    ¬ world.UsersetVerdict right subj false := by
  intro refused
  rcases granted with ⟨declared, grant⟩ | ⟨undeclared, direct⟩
  · rcases refused with ⟨-, refusal⟩ | ⟨undeclared, -⟩
    · exact apart _ _ grant refusal
    · exact undeclared declared
  · rcases refused with ⟨declared, -⟩ | ⟨-, notDirect⟩
    · exact undeclared declared
    · exact absurd (notDirect.mp (direct.mpr rfl)) Bool.false_ne_true

/-- No child is granted and refused, if no node is. -/
theorem ChildVerdict.exclusive
    (apart : ∀ request node, left request node true → ¬ right request node false)
    {request : AnyMap V} {type id : String} {child : PermissionRef}
    (granted : world.ChildVerdict left request type id child true) :
    ¬ world.ChildVerdict right request type id child false := by
  intro refused
  unfold ChildVerdict at granted refused
  cases kind : child.kind with
  | relation =>
    rw [kind] at granted refused
    rcases granted with direct | ⟨subj, listed, nonempty, held⟩
    · exact refused.1 direct
    · exact held.exclusive apart (refused.2 subj listed nonempty)
  | arrow =>
    rw [kind] at granted refused
    obtain ⟨target, related, declared, held⟩ := granted
    exact apart _ _ held (refused target related declared)
  | condition =>
    rw [kind] at granted refused
    obtain ⟨program, compiled, value, ran, yes⟩ := granted
    obtain ⟨program', compiled', value', ran', no⟩ := refused
    -- One text has one program, which has one value.
    obtain rfl := Except.ok.inj (compiled.symm.trans compiled')
    obtain rfl := Except.ok.inj (ran.symm.trans ran')
    exact Bool.noConfusion (Except.ok.inj (yes.symm.trans no))
  | other name =>
    rw [kind] at granted
    exact granted

/-- No permission is granted and refused, if no node is. -/
theorem PermissionVerdict.exclusive
    (apart : ∀ request node, left request node true → ¬ right request node false)
    (apart' : ∀ request node, right request node true → ¬ left request node false)
    {request : AnyMap V} {type id : String} {permDef : PermissionDef P}
    (granted : world.PermissionVerdict left request type id permDef true) :
    ¬ world.PermissionVerdict right request type id permDef false := by
  intro refused
  unfold PermissionVerdict at granted refused
  cases operation : permDef.operation with
  | union | direct =>
    rw [operation] at granted refused
    obtain ⟨child, member, held⟩ := granted
    exact held.exclusive apart (refused child member)
  | intersect =>
    rw [operation] at granted refused
    rcases refused with empty | ⟨child, member, held⟩
    · exact granted.1 empty
    · exact (granted.2 child member).exclusive apart held
  | exclusion =>
    rw [operation] at granted refused
    cases children : permDef.children with
    | nil =>
      rw [children] at granted
      exact Bool.noConfusion granted
    | cons base excluded =>
      rw [children] at granted refused
      rcases refused with base | ⟨child, member, held⟩
      · exact granted.1.exclusive apart base
      · -- Excluding turns the verdicts around.
        exact held.exclusive apart' (granted.2 child member)
  | other code =>
    rw [operation] at granted
    exact granted

end Exclusive

/-- No node is granted and refused. -/
theorem Verdict.exclusive {world : World V P} {request : AnyMap V} {node : Node}
    (granted : world.Verdict request node true) : ¬ world.Verdict request node false := by
  -- Verdicts whose opposite is not given are closed under the truth tables.
  have least : world.Verdict ≤ fun request node verdict => ¬ world.Verdict request node !verdict := by
    refine world.judgement.lfp_le ?_
    rintro request node verdict ⟨permDef, declared, known⟩ opposite
    obtain ⟨permDef', declared', known'⟩ := verdict_iff.mp opposite
    obtain rfl := Except.ok.inj (declared.symm.trans declared')
    cases verdict with
    | true =>
      exact known.exclusive (fun _ _ unopposed refusal => unopposed refusal)
        (fun _ _ grant unopposed => unopposed grant) known'
    | false =>
      exact known'.exclusive (fun _ _ grant unopposed => unopposed grant)
        (fun _ _ unopposed refusal => unopposed refusal) known
  exact least _ _ _ granted

end World

end ZanGuard
