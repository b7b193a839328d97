import ZanGuard.Model.Basic

/-! Compiled schemas: types, relations, permissions and the references inside them. -/

namespace ZanGuard

/-- How a permission combines its children. -/
inductive PermOp where
  | union
  | intersect
  | exclusion
  | direct
  /-- The source's operation is an integer, and the walk has a branch for undeclared ones. -/
  | other (code : Int)
  deriving DecidableEq

/-- What a permission reference refers to. -/
inductive RefKind where
  | relation
  | arrow
  | condition
  /-- The walk has a branch for kinds other than the three declared ones. -/
  | other (name : String)
  deriving DecidableEq

/-- One child of a permission, with the unused fields empty. -/
structure PermissionRef where
  relationRef : String := ""
  arrowRef : String := ""
  arrowPermission : String := ""
  conditionExpr : String := ""
  deriving DecidableEq

/-- The kind follows from which field is filled, arrows before conditions before relations. -/
def PermissionRef.kind (ref : PermissionRef) : RefKind :=
  if ref.arrowRef ≠ "" then .arrow
  else if ref.conditionExpr ≠ "" then .condition
  else .relation

/-- A condition with its program; `none` stands for a nil program. -/
structure ConditionExpr (P : Type) where
  raw : String
  compiled : Option P
  deriving DecidableEq

/-- A compiled permission. -/
structure PermissionDef (P : Type) where
  name : String
  operation : PermOp
  children : List PermissionRef
  condition : Option (ConditionExpr P) := none
  deriving DecidableEq

/-- A subject type a relation allows, optionally as a userset of that type. -/
structure AllowedTypeRef where
  type : String
  relation : String := ""
  deriving DecidableEq

/-- A compiled relation. -/
structure RelationDef where
  name : String
  allowedTypes : List AllowedTypeRef
  deriving DecidableEq

/-- A compiled type. -/
structure TypeDef (P : Type) where
  name : String
  attributes : StringMap String := ∅
  relations : StringMap RelationDef := ∅
  permissions : StringMap (PermissionDef P) := ∅
  deriving DecidableEq

/-- A compiled schema, in which every permission bears the name it is filed under. -/
structure CompiledSchema (P : Type) where
  types : StringMap (TypeDef P)
  version : String := ""
  hash : String := ""
  compiledAt : Time := 0
  named : ∀ type ∈ types.entries, ∀ permission ∈ type.2.permissions.entries,
    permission.2.name = permission.1

variable {P : Type}

/-- The definition of a permission on a type, or the reason there is none. -/
def CompiledSchema.getPermission (cs : CompiledSchema P) (objectType permission : String) :
    Except Err (PermissionDef P) :=
  -- An unknown type is reported before an unknown permission.
  match cs.types.lookup objectType with
  | none => .error (.unknownType objectType)
  | some td =>
    match td.permissions.lookup permission with
    | none => .error (.unknownPermission permission objectType)
    | some pd => .ok pd

/-- Every permission of every type satisfies a predicate. -/
def CompiledSchema.All (cs : CompiledSchema P) (p : PermissionDef P → Prop) : Prop :=
  ∀ type ∈ cs.types.entries, ∀ permission ∈ type.2.permissions.entries, p permission.2

instance CompiledSchema.decidableAll (cs : CompiledSchema P) (p : PermissionDef P → Prop)
    [DecidablePred p] : Decidable (cs.All p) :=
  inferInstanceAs (Decidable (∀ type ∈ cs.types.entries,
    ∀ permission ∈ type.2.permissions.entries, p permission.2))

/-- A permission that was found is among the entries of its type. -/
theorem CompiledSchema.getPermission_mem {cs : CompiledSchema P} {objectType permission : String}
    {pd : PermissionDef P} (found : cs.getPermission objectType permission = .ok pd) :
    ∃ td, ⟨objectType, td⟩ ∈ cs.types.entries ∧ ⟨permission, pd⟩ ∈ td.permissions.entries := by
  -- Both of the nested lookups must have hit.
  unfold CompiledSchema.getPermission at found
  cases typed : cs.types.lookup objectType with
  | none => simp [typed] at found
  | some td =>
    cases filed : td.permissions.lookup permission with
    | none => simp [typed, filed] at found
    | some other =>
      simp only [typed, filed, Except.ok.injEq] at found
      subst found
      exact ⟨td, AList.mem_lookup_iff.mp typed, AList.mem_lookup_iff.mp filed⟩

/-- A permission found under a name bears that name. -/
theorem CompiledSchema.getPermission_name {cs : CompiledSchema P} {objectType permission : String}
    {pd : PermissionDef P} (found : cs.getPermission objectType permission = .ok pd) :
    pd.name = permission := by
  obtain ⟨td, typed, filed⟩ := getPermission_mem found
  exact cs.named _ typed _ filed

/-- What holds of every permission holds of one that was found. -/
theorem CompiledSchema.All.found {cs : CompiledSchema P} {p : PermissionDef P → Prop}
    (all : cs.All p) {objectType permission : String} {pd : PermissionDef P}
    (found : cs.getPermission objectType permission = .ok pd) : p pd := by
  obtain ⟨td, typed, filed⟩ := getPermission_mem found
  exact all _ typed _ filed

/-- A reference is an arrow, a condition or a relation, and nothing else. -/
theorem PermissionRef.kind_cases (ref : PermissionRef) :
    ref.kind = .arrow ∨ ref.kind = .condition ∨ ref.kind = .relation := by
  -- The undeclared kinds have no field of their own, so no reference has one.
  unfold PermissionRef.kind
  split
  · exact .inl rfl
  · split
    · exact .inr (.inl rfl)
    · exact .inr (.inr rfl)

end ZanGuard
