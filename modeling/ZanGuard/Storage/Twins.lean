import ZanGuard.Lib.Machine
import ZanGuard.Storage.Cluster
import ZanGuard.Storage.Deployment

/-! The calls that change tenants and tuples, as either store carries them out. -/

namespace ZanGuard

variable {V J : Type}

/-- A call of the manager or of the store that changes tenants or tuples. -/
inductive Edit (V : Type) where
  | create (id displayName : String) (mode : SchemaMode)
  | activate (tenantID : String)
  | suspend (tenantID : String)
  | delete (tenantID : String)
  | writeTuple (ctx : Context V) (tuple : RelationTuple V)
  | writeTuples (ctx : Context V) (tuples : List (RelationTuple V))
  | deleteTuple (ctx : Context V) (tuple : RelationTuple V)

/-- Carry it out in memory, with the clock readings it makes. -/
def Memory.Store.edit (s : Memory.Store V) (clock : Memory.Clock) :
    Edit V → Except Err Unit × Memory.Store V
  | .create id displayName mode =>
    -- The manager reads the clock once, and the store does from then on.
    let result := (Manager.create (tupleStore fun n => clock (n + 1)) id displayName mode
      (clock 0)).run.run s
    (result.1.map fun _ => (), result.2)
  | .activate tenantID => (Manager.activate (tupleStore clock) tenantID).run.run s
  | .suspend tenantID => (Manager.suspend (tupleStore clock) tenantID).run.run s
  | .delete tenantID => (Manager.delete (tupleStore clock) tenantID).run.run s
  | .writeTuple ctx tuple => s.writeTuple ctx tuple clock
  | .writeTuples ctx tuples => s.writeTuples ctx tuples clock
  | .deleteTuple ctx tuple => s.deleteTuple ctx tuple clock

/-- The method that carries it out on Postgres. -/
def Postgres.editing (codec : Postgres.Codec V J) (config : Postgres.ConfigCodec V) (now : Time) :
    Edit V → Postgres.StoreM V Unit
  | .create id displayName mode => do
    let _ ← Manager.create (tupleStore config now) id displayName mode now
  | .activate tenantID => Manager.activate (tupleStore config) tenantID
  | .suspend tenantID => Manager.suspend (tupleStore config) tenantID
  | .delete tenantID => Manager.delete (tupleStore config) tenantID
  | .writeTuple ctx tuple => Postgres.writeTuple codec ctx tuple
  | .writeTuples ctx tuples => Postgres.writeTuples codec ctx tuples
  | .deleteTuple ctx tuple => Postgres.deleteTuple codec ctx tuple

/-- The in-memory store as a machine. -/
def Memory.editor : Machine (Memory.Store V) (Memory.Clock × Edit V) (Except Err Unit) where
  step s input := s.edit input.1 input.2

/-- The Postgres store of one client as a machine; its `NOW()` is the first reading of the clock. -/
def Postgres.editor (codec : Postgres.Codec V J) (config : Postgres.ConfigCodec V) :
    Machine (Postgres.Database J) (Memory.Clock × Edit V) (Except Err Unit) where
  step db input := Postgres.call codec (input.1 0) db (Postgres.editing codec config (input.1 0) input.2)

end ZanGuard
