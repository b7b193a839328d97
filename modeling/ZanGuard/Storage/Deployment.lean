import ZanGuard.Storage.System
import ZanGuard.Tenant.Manager

/-! The in-memory deployment with its manager: every store operation, and the lifecycle calls. -/

namespace ZanGuard

variable {V P : Type}

/-- The in-memory store as a manager sees it, which holds the lock for one method at a time. -/
def Memory.tupleStore (clock : Memory.Clock) : TupleStore (StateM (Memory.Store V)) V where
  createTenant tenant := ExceptT.mk fun s => s.createTenant tenant clock
  getTenant tenantID := ExceptT.mk fun s => (s.getTenant tenantID, s)
  updateTenant tenant := ExceptT.mk fun s => s.updateTenant tenant clock

/-- What a deployment is asked to do. -/
inductive Command (V P : Type) where
  /-- A call of the tenant manager, with the clock readings it makes. -/
  | create (id displayName : String) (mode : SchemaMode) (clock : Memory.Clock)
  | activate (tenantID : String) (clock : Memory.Clock)
  | suspend (tenantID : String) (clock : Memory.Clock)
  | delete (tenantID : String) (clock : Memory.Clock)
  /-- An operation of the store or the engine, as one call. -/
  | op (op : Op V P)
  | listTenants (filter : Option TenantFilter)
  | checkDirectCrossTenant
      (targetTenantID objectType objectID relation subjectType subjectID : String)
      (clock : Memory.Clock)
  | exportTenantSnapshot (encode : RelationTuple V → Except String String) (ctx : Context V)
      (clock : Memory.Clock)

/-- What a command is answered with. -/
inductive Outcome (V : Type) where
  | reply (reply : Reply V)
  | tenants (outcome : Except Err (List (Tenant V)))
  | snapshot (outcome : Except Err (List String × Except Err Unit))

/-- Whether a call returned an error. -/
def Reply.failed : Reply V → Bool
  | .done outcome => !outcome.isOk
  | .tenant outcome => !outcome.isOk
  | .tuples outcome => !outcome.isOk
  | .verdict outcome => !outcome.isOk
  | .objects outcome => !outcome.isOk
  | .subjects outcome => !outcome.isOk
  | .tree outcome => !outcome.isOk
  | .attrs outcome => !outcome.isOk
  | .entities outcome => !outcome.isOk
  | .entries outcome => !outcome.isOk
  | .sequence outcome => !outcome.isOk
  | .count outcome => !outcome.isOk
  | .checked outcome => !outcome.isOk

/-- Whether a command returned an error. -/
def Outcome.failed : Outcome V → Bool
  | .reply answer => answer.failed
  | .tenants outcome => !outcome.isOk
  | .snapshot outcome => !outcome.isOk

/-- Run a call of the manager on the store. -/
def System.manage (sys : System V P) {α : Type} (call : ExceptT Err (StateM (Memory.Store V)) α)
    (reply : Except Err α → Reply V) : Outcome V × System V P :=
  let result := call.run.run sys.store
  (.reply (reply result.1), { sys with store := result.2 })

/-- Carry out one command. -/
def System.obey (lang : ExprLang V P) (sys : System V P) : Command V P → Outcome V × System V P
  | .create id displayName mode clock =>
    -- The manager reads the clock once, and the store does from then on.
    sys.manage (Manager.create (Memory.tupleStore fun n => clock (n + 1)) id displayName mode
      (clock 0)) .tenant
  | .activate tenantID clock => sys.manage (Manager.activate (Memory.tupleStore clock) tenantID) .done
  | .suspend tenantID clock => sys.manage (Manager.suspend (Memory.tupleStore clock) tenantID) .done
  | .delete tenantID clock => sys.manage (Manager.delete (Memory.tupleStore clock) tenantID) .done
  | .op op => (sys.step lang op).map .reply id
  | .listTenants filter => (.tenants (sys.store.listTenants filter), sys)
  | .checkDirectCrossTenant targetTenantID objectType objectID relation subjectType subjectID clock =>
    (.reply (.verdict (sys.store.checkDirectCrossTenant targetTenantID objectType objectID relation
      subjectType subjectID clock)), sys)
  | .exportTenantSnapshot encode ctx clock =>
    (.snapshot (sys.store.exportTenantSnapshot encode ctx clock), sys)

/-- The deployment with its manager as a machine. -/
def deployment (lang : ExprLang V P) : Machine (System V P) (Command V P) (Outcome V) where
  step := System.obey lang

end ZanGuard
