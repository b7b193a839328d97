import ZanGuard.Proofs.Engine.References

/-! A relation of groups is followed for one hop, and not from group to group. -/

namespace ZanGuard

open Search

variable {V P : Type}

section Walker

variable {w : Walker V P} {req : CheckRequest V} {subj : SubjectRef}

variable {descend : CheckRequest V → List String → Answer Err (List String) × List String}

end Walker

end ZanGuard
