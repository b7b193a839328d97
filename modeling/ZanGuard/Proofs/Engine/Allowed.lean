import ZanGuard.Api.Tuples
import ZanGuard.Proofs.Engine.Snapshot

/-! The subject types a relation declares bind neither the write handlers nor a check. -/

namespace ZanGuard

variable {V P : Type}

namespace Memory

end Memory

end ZanGuard
