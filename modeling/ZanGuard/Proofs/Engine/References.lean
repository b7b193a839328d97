import ZanGuard.Proofs.Engine.Siblings
import ZanGuard.Schema.Validator

/-! A child that names a permission is read as a relation, so it adds nothing to a union. -/

namespace ZanGuard

open Search

variable {V P : Type}

/-- A child that is a bare name, and the name it is. -/
def PermissionRef.names (ref : PermissionRef) (name : String) : Bool :=
  ref.kind = .relation ∧ ref.relationRef = name

/-- A permission without the children that are a name. -/
def PermissionDef.without (permDef : PermissionDef P) (name : String) : PermissionDef P :=
  { permDef with children := permDef.children.filter fun child => !child.names name }

/-- Whether a check stopped because its depth was exceeded. -/
def cutOff (outcome : Except Err CheckResult) : Bool :=
  match outcome with
  | .error (.maxCheckDepthExceeded _) => true
  | _ => false

/-- A store that keeps nothing on an object under a name, neither a direct subject nor a userset. -/
structure Lookups.Empty (store : Lookups V) (type id name : String) : Prop where
  direct : ∀ subjectType subjectID,
    store.checkDirect 0 type id name subjectType subjectID = .ok false
  subjects : store.listSubjects 0 type id name = .ok []

/-- The evidence of a result says whether it grants. -/
theorem CheckResult.evidence_isSome (result : CheckResult) :
    result.evidence.isSome = result.allowed := by
  unfold CheckResult.evidence
  cases result.allowed <;> rfl

section Walker

variable {w : Walker V P}

/-- Two runs that match one search grant alike and are cut off alike. -/
theorem Matches.alike {run other : Except Err CheckResult × WalkState}
    {search : Answer Err (List String) × List String} (first : Matches run search)
    (second : Matches other search) :
    ZanGuard.granted run.1 = ZanGuard.granted other.1 ∧ cutOff run.1 = cutOff other.1 := by
  -- The search has one answer, so both failed with it or both returned it.
  rcases first.cases with ⟨e, st, v, rfl, rfl⟩ | ⟨result, st, rfl, rfl⟩
  · -- One error, and it says the same of both.
    rcases second.cases with ⟨e', st', v', rfl, same⟩ | ⟨result, st', rfl, same⟩
    · cases same
      exact ⟨rfl, rfl⟩
    · cases same
  · rcases second.cases with ⟨e, st', v, rfl, same⟩ | ⟨result', st', rfl, same⟩
    · cases same
    · -- The evidence says whether a result grants.
      have evidence : result.evidence = result'.evidence :=
        Except.ok.inj (congrArg Prod.fst same)
      refine ⟨?_, rfl⟩
      show result.allowed = result'.allowed
      rw [← result.evidence_isSome, evidence, result'.evidence_isSome]

end Walker

end ZanGuard
