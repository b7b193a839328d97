import ZanGuard.Engine.Engine
import ZanGuard.Lib.Machine
import ZanGuard.Storage.Memory

/-! The in-memory deployment: one store and one engine, called by any number of tenants. -/

namespace ZanGuard

/-- The state all tenants share. -/
structure System (V P : Type) where
  store : Memory.Store V
  engine : Engine P

variable {V P : Type}

/-- The subject tree of an object and relation, which the engine leaves to its store. -/
def Engine.expand (_ : Engine P) (store : Memory.Store V) (ctx : Context V)
    (objectType objectID relation : String) (now : Time) : Except Err SubjectTree :=
  store.expand ctx objectType objectID relation now

/-- A call of a store or engine operation, with the clock readings it makes. -/
inductive Op (V P : Type) where
  | createTenant (tenant : Tenant V) (clock : Memory.Clock)
  | getTenant (tenantID : String)
  | updateTenant (tenant : Tenant V) (clock : Memory.Clock)
  | writeTuple (ctx : Context V) (tuple : RelationTuple V) (clock : Memory.Clock)
  | writeTuples (ctx : Context V) (tuples : List (RelationTuple V)) (clock : Memory.Clock)
  | deleteTuple (ctx : Context V) (tuple : RelationTuple V) (clock : Memory.Clock)
  | readTuples (ctx : Context V) (filter : Option TupleFilter) (clock : Memory.Clock)
  | checkDirect (ctx : Context V) (objectType objectID relation subjectType subjectID : String)
      (now : Time)
  | listRelatedObjects (ctx : Context V) (objectType objectID relation : String) (now : Time)
  | listSubjects (ctx : Context V) (objectType objectID relation : String) (now : Time)
  | expand (ctx : Context V) (objectType objectID relation : String) (now : Time)
  | getObjectAttributes (ctx : Context V) (objectType objectID : String)
  | setObjectAttributes (ctx : Context V) (objectType objectID : String) (attrs : AnyMap V)
  | listObjectAttributes (ctx : Context V) (objectType : String)
  | getSubjectAttributes (ctx : Context V) (subjectType subjectID : String)
  | setSubjectAttributes (ctx : Context V) (subjectType subjectID : String) (attrs : AnyMap V)
  | listSubjectAttributes (ctx : Context V) (subjectType : String)
  | appendChangelog (ctx : Context V) (entry : ChangelogEntry V) (clock : Memory.Clock)
  | readChangelog (ctx : Context V) (sinceSeq : UInt64) (limit : Int)
  | latestSequence (ctx : Context V)
  | countTuples (ctx : Context V) (clock : Memory.Clock)
  | purgeTenantData (ctx : Context V)
  | loadSchema (tenantID : String) (cs : CompiledSchema P)
  | loadSharedSchema (ref : String) (cs : CompiledSchema P)
  | check (ctx : Context V) (req : CheckRequest V) (clock : Memory.Clock)

/-- What a call returns. -/
inductive Reply (V : Type) where
  | done (outcome : Except Err Unit)
  | tenant (outcome : Except Err (Tenant V))
  | tuples (outcome : Except Err (List (RelationTuple V)))
  | verdict (outcome : Except Err Bool)
  | objects (outcome : Except Err (List ObjectRef))
  | subjects (outcome : Except Err (List SubjectRef))
  | tree (outcome : Except Err SubjectTree)
  | attrs (outcome : Except Err (AnyMap V))
  | entities (outcome : Except Err (List (EntityAttributes V)))
  | entries (outcome : Except Err (List (ChangelogEntry V)))
  | sequence (outcome : Except Err UInt64)
  | count (outcome : Except Err Nat)
  | checked (outcome : Except Err CheckResult)

/-- The tenant a call works for; a call without a tenant context and a shared schema have none. -/
def Op.owner : Op V P → Option String
  | .createTenant tenant _ | .updateTenant tenant _ => some tenant.id
  | .getTenant tenantID | .loadSchema tenantID _ => some tenantID
  | .loadSharedSchema _ _ => none
  | .writeTuple ctx _ _ | .writeTuples ctx _ _ | .deleteTuple ctx _ _ | .readTuples ctx _ _
  | .checkDirect ctx _ _ _ _ _ _ | .listRelatedObjects ctx _ _ _ _ | .listSubjects ctx _ _ _ _
  | .expand ctx _ _ _ _ | .getObjectAttributes ctx _ _ | .setObjectAttributes ctx _ _ _
  | .listObjectAttributes ctx _ | .getSubjectAttributes ctx _ _ | .setSubjectAttributes ctx _ _ _
  | .listSubjectAttributes ctx _ | .appendChangelog ctx _ _ | .readChangelog ctx _ _
  | .latestSequence ctx | .countTuples ctx _ | .purgeTenantData ctx | .check ctx _ _ =>
    -- All the others work for the tenant of their context.
    ctx.map (·.tenantID)

/-- Apply a store operation that reports only success or failure. -/
def System.mutate (sys : System V P) (result : Except Err Unit × Memory.Store V) :
    Reply V × System V P :=
  (.done result.1, { sys with store := result.2 })

/-- Carry out one call. -/
def System.step (lang : ExprLang V P) (sys : System V P) : Op V P → Reply V × System V P
  | .createTenant tenant clock => sys.mutate (sys.store.createTenant tenant clock)
  | .getTenant tenantID => (.tenant (sys.store.getTenant tenantID), sys)
  | .updateTenant tenant clock => sys.mutate (sys.store.updateTenant tenant clock)
  | .writeTuple ctx tuple clock => sys.mutate (sys.store.writeTuple ctx tuple clock)
  | .writeTuples ctx tuples clock => sys.mutate (sys.store.writeTuples ctx tuples clock)
  | .deleteTuple ctx tuple clock => sys.mutate (sys.store.deleteTuple ctx tuple clock)
  | .readTuples ctx filter clock => (.tuples (sys.store.readTuples ctx filter clock), sys)
  | .checkDirect ctx objectType objectID relation subjectType subjectID now =>
    (.verdict (sys.store.checkDirect ctx objectType objectID relation subjectType subjectID now), sys)
  | .listRelatedObjects ctx objectType objectID relation now =>
    (.objects (sys.store.listRelatedObjects ctx objectType objectID relation now), sys)
  | .listSubjects ctx objectType objectID relation now =>
    (.subjects (sys.store.listSubjects ctx objectType objectID relation now), sys)
  | .expand ctx objectType objectID relation now =>
    (.tree (sys.store.expand ctx objectType objectID relation now), sys)
  | .getObjectAttributes ctx objectType objectID =>
    (.attrs (sys.store.getObjectAttributes ctx objectType objectID), sys)
  | .setObjectAttributes ctx objectType objectID attrs =>
    sys.mutate (sys.store.setObjectAttributes ctx objectType objectID attrs)
  | .listObjectAttributes ctx objectType =>
    (.entities (sys.store.listObjectAttributes ctx objectType), sys)
  | .getSubjectAttributes ctx subjectType subjectID =>
    (.attrs (sys.store.getSubjectAttributes ctx subjectType subjectID), sys)
  | .setSubjectAttributes ctx subjectType subjectID attrs =>
    sys.mutate (sys.store.setSubjectAttributes ctx subjectType subjectID attrs)
  | .listSubjectAttributes ctx subjectType =>
    (.entities (sys.store.listSubjectAttributes ctx subjectType), sys)
  | .appendChangelog ctx entry clock => sys.mutate (sys.store.appendChangelog ctx entry clock)
  | .readChangelog ctx sinceSeq limit => (.entries (sys.store.readChangelog ctx sinceSeq limit), sys)
  | .latestSequence ctx => (.sequence (sys.store.latestSequence ctx), sys)
  | .countTuples ctx clock => (.count (sys.store.countTuples ctx clock), sys)
  | .purgeTenantData ctx => sys.mutate (sys.store.purgeTenantData ctx)
  | .loadSchema tenantID cs =>
    -- Loading a schema never fails, and touches the engine only.
    (.done (.ok ()), { sys with engine := sys.engine.loadSchema tenantID cs })
  | .loadSharedSchema ref cs =>
    (.done (.ok ()), { sys with engine := sys.engine.loadSharedSchema ref cs })
  | .check ctx req clock =>
    (.checked (sys.engine.check lang (sys.store.lookups ctx clock) ctx req), sys)

/-- The deployment as a machine that carries out calls. -/
def system (lang : ExprLang V P) : Machine (System V P) (Op V P) (Reply V) where
  step := System.step lang

/-- A deployment nobody has called yet. -/
def System.new (cfg : Config) : System V P :=
  { store := .new, engine := .new cfg }

end ZanGuard
