import ZanGuard.Model.Basic

/-! Relation tuples, references to objects and subjects, and changelog entries. -/

namespace ZanGuard

/-- A single authorization fact, `object#relation@subject[#subject_relation]`. -/
structure RelationTuple (V : Type) where
  tenantID : String := ""
  objectType : String
  objectID : String
  relation : String
  subjectType : String
  subjectID : String
  subjectRelation : String := ""
  subjectTenantID : String := ""
  attributes : AnyMap V := none
  expiresAt : Option Time := none
  createdAt : Time := 0
  updatedAt : Time := 0
  sourceSystem : String := ""
  externalID : String := ""
  deriving DecidableEq

/-- A reference to an object. -/
structure ObjectRef where
  type : String
  id : String
  deriving DecidableEq

/-- A reference to a subject, with the userset relation when there is one. -/
structure SubjectRef where
  type : String
  id : String
  relation : String
  deriving DecidableEq

/-- The subjects found below an object and relation. -/
structure SubjectTree where
  subject : SubjectRef
  /-- A store expands one level only, so the children are leaves. -/
  children : List SubjectRef
  deriving DecidableEq

/-- Optional field filters of a tuple query; an empty field matches everything. -/
structure TupleFilter where
  objectType : String := ""
  objectID : String := ""
  relation : String := ""
  subjectType : String := ""
  subjectID : String := ""
  subjectRelation : String := ""
  includeExpired : Bool := false
  deriving DecidableEq

/-- The kind of change a changelog entry records. -/
inductive ChangeOp where
  | insert
  | delete
  | update
  /-- Any text outside the three declared operations. -/
  | other (text : String)
  deriving DecidableEq

/-- One recorded mutation of the tuple store. -/
structure ChangelogEntry (V : Type) where
  sequence : UInt64 := 0
  tenantID : String := ""
  operation : ChangeOp
  tuple : RelationTuple V
  timestamp : Time := 0
  actor : String := ""
  source : String := ""
  metadata : AnyMap V := none
  deriving DecidableEq

/-- Attributes stored for an object or a subject, as the list calls report them. -/
structure EntityAttributes (V : Type) where
  tenantID : String
  type : String
  id : String
  attributes : AnyMap V
  deriving DecidableEq

variable {V : Type}

/-- The canonical text of a tuple, with the subject relation only when it is set. -/
def RelationTuple.tupleKey (t : RelationTuple V) : String :=
  if t.subjectRelation ≠ "" then
    t.objectType ++ ":" ++ t.objectID ++ "#" ++ t.relation ++ "@" ++
      t.subjectType ++ ":" ++ t.subjectID ++ "#" ++ t.subjectRelation
  else
    t.objectType ++ ":" ++ t.objectID ++ "#" ++ t.relation ++ "@" ++
      t.subjectType ++ ":" ++ t.subjectID

end ZanGuard
