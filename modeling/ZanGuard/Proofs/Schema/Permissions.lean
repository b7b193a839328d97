import ZanGuard.Proofs.Engine.Sound
import ZanGuard.Proofs.Schema.References

/-! Permissions with several forms filled in: when the compiler drops none of them. -/

namespace ZanGuard

variable {V P : Type}

/-- The forms that are filled in, in the order in which the compiler looks for one. -/
def RawPermission.filled (raw : RawPermission) : List PermOp :=
  (if raw.resolve ≠ "" then [.direct] else []) ++ (if raw.union ≠ [] then [.union] else []) ++
    (if raw.intersect ≠ [] then [.intersect] else []) ++
    (if raw.exclusion ≠ [] then [.exclusion] else [])

/-- The items listed under a form. -/
def RawPermission.items (raw : RawPermission) : PermOp → List String
  | .union => raw.union
  | .intersect => raw.intersect
  | .exclusion => raw.exclusion
  | .direct => [raw.resolve]
  | .other _ => []

/-- A child stands for an item: the name of a relation as it is, or what the item reads as. -/
def PermissionRef.StandsFor (operation : PermOp) (item : String) (ref : PermissionRef) : Prop :=
  if operation = .direct then ref = { relationRef := item } else ref.Reads item

/-- A compiled permission keeps all that the document has. -/
structure RawPermission.KeptBy (raw : RawPermission) (permDef : PermissionDef P) : Prop where
  /-- Only one form is filled in, and it is the operation. -/
  operation : raw.filled = [permDef.operation]
  /-- The children are the items of that form, one by one and in order. -/
  children : List.Forall₂ (PermissionRef.StandsFor permDef.operation)
    (raw.items permDef.operation) permDef.children
  condition : permDef.condition.isSome ↔ raw.condition ≠ ""

/-- The expression compiler refuses the condition of a permission. -/
def RawPermission.ConditionRefused (lang : ExprLang V P) (raw : RawPermission) : Prop :=
  raw.condition ≠ "" ∧ ∃ cause, lang.compile (trimSpace raw.condition) = .error cause

/-- The form the compiler comes to first is a list with a broken arrow in it. -/
def RawPermission.ArrowRefused (raw : RawPermission) : Prop :=
  ∃ operation ∈ raw.filled.head?, operation ≠ .direct ∧
    ∃ item ∈ raw.items operation, BrokenArrow item

/-- The compiler takes the first form that is filled in and looks at no other. -/
theorem compileOperation_filled (name : String) (raw : RawPermission) :
    compileOperation name raw =
      match raw.filled with
      | [] => .error (.noOperation name)
      | .direct :: _ => .ok (.direct, [{ relationRef := raw.resolve }])
      | operation :: _ => (operation, ·) <$> (raw.items operation).mapM parsePermissionRef := by
  unfold compileOperation RawPermission.filled
  -- One case for each of the four questions the compiler asks.
  by_cases direct : raw.resolve = ""
  · by_cases union : raw.union = []
    · by_cases intersect : raw.intersect = []
      · by_cases exclusion : raw.exclusion = []
        · -- Nothing is filled in, which is an error.
          simp [direct, union, intersect, exclusion]
        · simp [direct, union, intersect, exclusion, RawPermission.items]
      · simp [direct, union, intersect, RawPermission.items]
    · simp [direct, union, RawPermission.items]
  · simp [direct]

/-- A gate is compiled exactly when there is a condition. -/
theorem compileGate_isSome {lang : ExprLang V P} {raw : RawPermission}
    {condition : Option (ConditionExpr P)} (ran : compileGate lang raw = .ok condition) :
    condition.isSome ↔ raw.condition ≠ "" := by
  unfold compileGate at ran
  split at ran
  · -- A condition that is given is compiled into one.
    rename_i given
    obtain ⟨expr, -, rfl⟩ := Except.of_map_ok ran
    simp [given]
  · rename_i absent
    obtain rfl := Except.ok.inj ran
    simpa using absent

/-- And it is refused exactly when the expression compiler refuses the condition. -/
theorem compileGate_error_iff {lang : ExprLang V P} {raw : RawPermission} :
    (∃ e, compileGate lang raw = .error e) ↔ raw.ConditionRefused lang := by
  unfold compileGate RawPermission.ConditionRefused compileCondition
  by_cases given : raw.condition = ""
  · simp [given]
  · -- The expression compiler sees the condition without the white space around it.
    cases compiled : lang.compile (trimSpace raw.condition) with
    | ok program => simp [given, compiled, Except.mapError, Functor.map, Except.map]
    | error cause => simp [given, compiled, Except.mapError, Functor.map, Except.map]

/-- Reading a list of items fails exactly when one of them is a broken arrow. -/
theorem mapM_parse_error_iff {items : List String} :
    (∃ e, items.mapM parsePermissionRef = .error e) ↔ ∃ item ∈ items, BrokenArrow item := by
  -- A list is read item by item.
  simp only [Except.mapM_error_iff, parsePermissionRef_error_iff]

/-- An operation of forms that are filled in is refused for a broken arrow only. -/
theorem compileOperation_error_iff (name : String) {raw : RawPermission} :
    (∃ e, compileOperation name raw = .error e) ↔ raw.filled = [] ∨ raw.ArrowRefused := by
  rw [compileOperation_filled, RawPermission.ArrowRefused]
  cases filled : raw.filled with
  -- Without a form the compiler gives up.
  | nil => simp
  | cons operation others =>
    have listed : (∃ e, (operation, ·) <$> (raw.items operation).mapM parsePermissionRef =
        .error e) ↔ ∃ item ∈ raw.items operation, BrokenArrow item := by
      rw [← mapM_parse_error_iff]
      cases (raw.items operation).mapM parsePermissionRef with
      | ok children => simp [Functor.map, Except.map]
      | error e => simp [Functor.map, Except.map]
    -- Direct permissions are not read, all others are.
    cases operation with
    | direct => simp
    | union => simpa using listed
    | intersect => simpa using listed
    | exclusion => simpa using listed
    | other code => simpa using listed

/-- A permission is refused for its condition, for lack of a form, or for a broken arrow. -/
theorem compilePermission_error_iff {lang : ExprLang V P} (name : String) {raw : RawPermission} :
    (∃ e, compilePermission lang name raw = .error e) ↔
      raw.ConditionRefused lang ∨ raw.filled = [] ∨ raw.ArrowRefused := by
  -- The condition is compiled before the operation is looked at.
  rw [← compileGate_error_iff, ← compileOperation_error_iff name, compilePermission]
  cases compileGate lang raw with
  | error e => simp [bind, Except.bind]
  | ok condition =>
    cases compileOperation name raw with
    | error e => simp [bind, Except.bind]
    | ok made => simp [bind, Except.bind, pure, Except.pure]

/-- A permission that is compiled keeps the first form that is filled in. -/
theorem compilePermission_first {lang : ExprLang V P} {name : String} {raw : RawPermission}
    {permDef : PermissionDef P} (ran : compilePermission lang name raw = .ok permDef) :
    raw.filled.head? = some permDef.operation ∧
      List.Forall₂ (PermissionRef.StandsFor permDef.operation)
        (raw.items permDef.operation) permDef.children ∧
      (permDef.condition.isSome ↔ raw.condition ≠ "") := by
  obtain ⟨condition, gate, ran⟩ := Except.of_bind_ok ran
  obtain ⟨⟨operation, children⟩, made, ran⟩ := Except.of_bind_ok ran
  rw [compileOperation_filled] at made
  rw [← Except.ok.inj ran]
  have read : ∀ {op : PermOp}, op ≠ .direct →
      (op, ·) <$> (raw.items op).mapM parsePermissionRef = .ok (operation, children) →
      op = operation ∧
        List.Forall₂ (PermissionRef.StandsFor operation) (raw.items operation) children := by
    -- The items are read in order, each by itself.
    intro op listed ran
    obtain ⟨refs, parsed, same⟩ := Except.of_map_ok ran
    obtain ⟨rfl, rfl⟩ := Prod.mk.inj same
    refine ⟨rfl, (Except.mapM_eq_ok_iff.mp parsed).imp fun item ref one => ?_⟩
    rw [PermissionRef.StandsFor, if_neg listed]
    exact parsePermissionRef_reads one
  -- Direct permissions are not read, all others are.
  have kept : raw.filled.head? = some operation ∧
      List.Forall₂ (PermissionRef.StandsFor operation) (raw.items operation) children := by
    cases filled : raw.filled with
    | nil =>
      rw [filled] at made
      cases made
    | cons op others =>
      rw [filled] at made
      cases op with
      | direct =>
        obtain ⟨rfl, rfl⟩ := Prod.mk.inj (Except.ok.inj made)
        exact ⟨rfl, .cons (by simp [PermissionRef.StandsFor]) .nil⟩
      | union | intersect | exclusion | other =>
        obtain ⟨rfl, each⟩ := read (by simp) made
        exact ⟨rfl, each⟩
  exact ⟨kept.1, kept.2, compileGate_isSome gate⟩

/--
A compiled permission keeps all that the document has exactly when one form is filled in at most.

With more of them it is still right when it is not compiled at all.
-/
theorem compilePermission_keeps_iff (lang : ExprLang V P) (name : String) (raw : RawPermission) :
    (∀ permDef, compilePermission lang name raw = .ok permDef → raw.KeptBy permDef) ↔
      raw.filled.length ≤ 1 ∨ raw.ConditionRefused lang ∨ raw.ArrowRefused := by
  cases ran : compilePermission lang name raw with
  | error e =>
    -- What is not compiled keeps nothing and drops nothing.
    have refused := (compilePermission_error_iff name).mp ⟨e, ran⟩
    refine ⟨fun _ => ?_, fun _ permDef made => by cases made⟩
    rcases refused with gate | none | arrow
    · exact .inr (.inl gate)
    · exact .inl (by simp [none])
    · exact .inr (.inr arrow)
  | ok permDef =>
    obtain ⟨first, children, condition⟩ := compilePermission_first ran
    have taken : ¬ (raw.ConditionRefused lang ∨ raw.filled = [] ∨ raw.ArrowRefused) := by
      intro refused
      obtain ⟨e, failed⟩ := (compilePermission_error_iff name).mpr refused
      rw [ran] at failed
      cases failed
    constructor
    · intro kept
      left
      rw [(kept permDef rfl).operation]
      rfl
    · intro right made same
      obtain rfl := Except.ok.inj same
      -- The permission was not refused, so one form is filled in.
      have single : raw.filled.length ≤ 1 := by
        rcases right with single | gate | arrow
        · exact single
        · exact absurd (.inl gate) taken
        · exact absurd (.inr (.inr arrow)) taken
      refine ⟨?_, children, condition⟩
      match filled : raw.filled with
      | [] => simp [filled] at first
      | [operation] => simpa [filled] using first
      | _ :: _ :: _ => simp [filled] at single

/-- A permission for editors that are no members, written with a list too many. -/
def editorsOnly : RawPermission where
  union := ["editor"]
  exclusion := ["member", "banned"]

/-- It is compiled into a permission of all editors, and the exclusion is gone. -/
theorem exclusion_dropped :
    compilePermission literalLang "edit" editorsOnly =
        .ok { name := "edit", operation := .union, children := [{ relationRef := "editor" }] } ∧
      ¬ ∀ permDef, compilePermission literalLang "edit" editorsOnly = .ok permDef →
        editorsOnly.KeptBy permDef := by
  have compiled : compilePermission literalLang "edit" editorsOnly =
      .ok { name := "edit", operation := .union, children := [{ relationRef := "editor" }] } := rfl
  refine ⟨compiled, fun kept => ?_⟩
  have single := (kept _ compiled).operation
  revert single
  decide

end ZanGuard
