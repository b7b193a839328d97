import ZanGuard.Model.Tenant
import ZanGuard.Model.Tuple
import ZanGuard.Schema.Condition

/-! The permission walk: six walkers that share one visited set and ask the store as they go. -/

namespace ZanGuard

/-- A permission check, with the request-time context its conditions may read. -/
structure CheckRequest (V : Type) where
  objectType : String
  objectID : String
  permission : String
  subjectType : String
  subjectID : String
  context : AnyMap V := none
  deriving DecidableEq

/-- The outcome of a check; an error is reported beside it and not in it. -/
structure CheckResult where
  allowed : Bool
  resolutionPath : List String
  deriving DecidableEq

/-- Access is granted, with the tuples that granted it. -/
def allow (path : List String) : CheckResult :=
  { allowed := true, resolutionPath := path }

/-- Access is refused. -/
def deny : CheckResult :=
  { allowed := false, resolutionPath := [] }

/--
The store methods a check calls, for the tenant of its context.

The first argument counts the lookups this check has made before, so that a store may change,
expire tuples or fail between two lookups of one check.
-/
structure Lookups (V : Type) where
  checkDirect : Nat → String → String → String → String → String → Except Err Bool
  listRelatedObjects : Nat → String → String → String → Except Err (List ObjectRef)
  listSubjects : Nat → String → String → String → Except Err (List SubjectRef)
  getObjectAttributes : Nat → String → String → Except Err (AnyMap V)
  getSubjectAttributes : Nat → String → String → Except Err (AnyMap V)

/-- A lookup made during a check, by the place in the walk that makes it. -/
inductive Lookup where
  | checkDirect (objectType objectID relation subjectType subjectID : String)
  /-- The direct lookup made for a userset whose relation is not a declared permission. -/
  | usersetMember (objectType objectID relation subjectType subjectID : String)
  | listSubjects (objectType objectID relation : String)
  | listRelatedObjects (objectType objectID relation : String)
  | getObjectAttributes (objectType objectID : String)
  | getSubjectAttributes (subjectType subjectID : String)
  deriving DecidableEq

/-- The keys of the nodes a check has visited. -/
structure VisitedSet where
  keys : List String
  deriving DecidableEq

/-- No node has been visited. -/
def VisitedSet.empty : VisitedSet :=
  { keys := [] }

/-- Whether a node was visited. -/
def VisitedSet.has (visited : VisitedSet) (key : String) : Bool :=
  key ∈ visited.keys

/-- Remember a node. -/
def VisitedSet.add (visited : VisitedSet) (key : String) : VisitedSet :=
  { keys := key :: visited.keys }

/-- The key of a node, as one string. -/
def visitKey (objectType objectID permission subjectType subjectID : String) : String :=
  objectType ++ ":" ++ objectID ++ "#" ++ permission ++ "@" ++ subjectType ++ ":" ++ subjectID

/-- What a running check carries along: the visited set, and the lookups made so far. -/
structure WalkState where
  visited : VisitedSet
  lookups : List Lookup
  deriving DecidableEq

/-- A step of the walk may fail, and keeps its state when it does. -/
abbrev WalkM := ExceptT Err (StateM WalkState)

/-- Run a step of the walk from a state. -/
def WalkM.from {α : Type} (step : WalkM α) (st : WalkState) : Except Err α × WalkState :=
  step st

/-- Make a lookup and hand over its answer, error or not. -/
def tryLookup {α : Type} (call : Lookup) (answer : Nat → Except Err α) : WalkM (Except Err α) :=
  fun st => (.ok (answer st.lookups.length), { st with lookups := st.lookups ++ [call] })

/-- Make a lookup and fail when it fails. -/
def lookup {α : Type} (call : Lookup) (answer : Nat → Except Err α) : WalkM α := do
  match ← tryLookup call answer with
  | .ok value => return value
  | .error e => throw e

/-- Engine configuration. -/
structure Config where
  maxCheckDepth : Int
  deriving DecidableEq

/-- The defaults of the engine. -/
def defaultConfig : Config :=
  { maxCheckDepth := 25 }

/-- Everything a walk reads and never changes. -/
structure Walker (V P : Type) where
  cfg : Config
  store : Lookups V
  schema : CompiledSchema P
  lang : ExprLang V P

variable {V P : Type}

/-- The attributes a lookup found; a failed lookup counts as having found none. -/
def attrsOrEmpty (answer : Except Err (AnyMap V)) : AnyMap V :=
  match answer with
  | .ok attrs => attrs
  | .error _ => some ∅

/-- Load the attributes of object and subject and run a condition over them. -/
def evaluateCondition (w : Walker V P) (req : CheckRequest V) (cond : ConditionExpr P) :
    WalkM Bool :=
  match cond.compiled with
  | none => return true
  | some program => do
    let objAttrs ← tryLookup (.getObjectAttributes req.objectType req.objectID)
      (w.store.getObjectAttributes · req.objectType req.objectID)
    let subAttrs ← tryLookup (.getSubjectAttributes req.subjectType req.subjectID)
      (w.store.getSubjectAttributes · req.subjectType req.subjectID)
    match w.lang.run program {
        object := attrsOrEmpty objAttrs
        subject := attrsOrEmpty subAttrs
        request := req.context } with
    | .error cause => throw (.evaluateCondition cond.raw cause)
    | .ok result =>
      match w.lang.asBool result with
      | .error typeName => throw (.conditionNotBool cond.raw typeName)
      | .ok allowed => return allowed

section Walkers

-- `descend` is the recursive entry into `walkPermission`, one hop deeper.
variable (w : Walker V P) (descend : CheckRequest V → PermissionDef P → WalkM CheckResult)

/-- The userset loop of `walkRelation`. -/
def walkSubjects (req : CheckRequest V) : List SubjectRef → WalkM CheckResult
  | [] => return deny
  | subj :: rest => do
    if subj.relation = "" then
      walkSubjects req rest
    else
      -- The request made for a userset does not carry the context on.
      let subReq : CheckRequest V :=
        { objectType := subj.type, objectID := subj.id, permission := subj.relation,
          subjectType := req.subjectType, subjectID := req.subjectID }
      let subKey := visitKey subReq.objectType subReq.objectID subReq.permission
        subReq.subjectType subReq.subjectID
      if (← get).visited.has subKey then
        walkSubjects req rest
      else
        match w.schema.getPermission subj.type subj.relation with
        | .error _ =>
          -- Not a permission: test the subject's direct membership, and skip a failed test.
          match ← tryLookup
              (.usersetMember subj.type subj.id subj.relation req.subjectType req.subjectID)
              (w.store.checkDirect · subj.type subj.id subj.relation req.subjectType
                req.subjectID) with
          | .error _ => walkSubjects req rest
          | .ok subOk =>
            if subOk then
              return allow [subj.type ++ ":" ++ subj.id ++ "#" ++ subj.relation ++ "@" ++
                req.subjectType ++ ":" ++ req.subjectID]
            else
              walkSubjects req rest
        | .ok subPermDef =>
          let subResult ← descend subReq subPermDef
          if subResult.allowed then
            return subResult
          else
            walkSubjects req rest

/-- Direct membership first, then the usersets that hold the relation. -/
def walkRelation (req : CheckRequest V) (relation : String) : WalkM CheckResult := do
  let ok ← lookup
    (.checkDirect req.objectType req.objectID relation req.subjectType req.subjectID)
    (w.store.checkDirect · req.objectType req.objectID relation req.subjectType req.subjectID)
  if ok then
    return allow [req.objectType ++ ":" ++ req.objectID ++ "#" ++ relation ++ "@" ++
      req.subjectType ++ ":" ++ req.subjectID]
  else
    let subjects ← lookup (.listSubjects req.objectType req.objectID relation)
      (w.store.listSubjects · req.objectType req.objectID relation)
    walkSubjects w descend req subjects

/-- The target loop of `walkArrow`. -/
def walkTargets (req : CheckRequest V) (permission : String) : List ObjectRef → WalkM CheckResult
  | [] => return deny
  | target :: rest => do
    let subReq : CheckRequest V :=
      { objectType := target.type, objectID := target.id, permission := permission,
        subjectType := req.subjectType, subjectID := req.subjectID, context := req.context }
    let subKey := visitKey subReq.objectType subReq.objectID subReq.permission
      subReq.subjectType subReq.subjectID
    if (← get).visited.has subKey then
      walkTargets req permission rest
    else
      match w.schema.getPermission target.type permission with
      | .error _ =>
        -- The target's type may not have this permission.
        walkTargets req permission rest
      | .ok permDef =>
        let result ← descend subReq permDef
        if result.allowed then
          return result
        else
          walkTargets req permission rest

/-- Follow a relation to other objects and check a permission there. -/
def walkArrow (req : CheckRequest V) (relation permission : String) : WalkM CheckResult := do
  let targets ← lookup (.listRelatedObjects req.objectType req.objectID relation)
    (w.store.listRelatedObjects · req.objectType req.objectID relation)
  walkTargets w descend req permission targets

/-- Dispatch on the kind of a permission reference. -/
def walkChild (req : CheckRequest V) (child : PermissionRef) : WalkM CheckResult :=
  match child.kind with
  | .relation => walkRelation w descend req child.relationRef
  | .arrow => walkArrow w descend req child.arrowRef child.arrowPermission
  | .condition => do
    -- An inline condition is compiled again each time it is met.
    match compileConditionExpr w.lang child.conditionExpr with
    | .error e => throw e
    | .ok cond =>
      if ← evaluateCondition w req cond then return allow [] else return deny
  | .other kind => throw (.unknownPermissionRefKind kind)

/-- Allowed as soon as one child allows. -/
def walkUnion (req : CheckRequest V) : List PermissionRef → WalkM CheckResult
  | [] => return deny
  | child :: rest => do
    let result ← walkChild w descend req child
    if result.allowed then
      return result
    else
      walkUnion req rest

/-- The child loop of `walkIntersect`. -/
def walkAll (req : CheckRequest V) : List PermissionRef → WalkM CheckResult
  | [] => return allow []
  | child :: rest => do
    let result ← walkChild w descend req child
    if !result.allowed then
      return deny
    else
      walkAll req rest

/-- Allowed only if there are children and all of them allow. -/
def walkIntersect (req : CheckRequest V) (children : List PermissionRef) : WalkM CheckResult :=
  if children.isEmpty then
    return deny
  else
    walkAll w descend req children

/-- The exclusion loop of `walkExclusion`. -/
def walkExcluded (req : CheckRequest V) : List PermissionRef → WalkM CheckResult
  | [] => return allow []
  | child :: rest => do
    let excluded ← walkChild w descend req child
    if excluded.allowed then
      return deny
    else
      walkExcluded req rest

/-- Allowed if the first child allows and no later child does. -/
def walkExclusion (req : CheckRequest V) : List PermissionRef → WalkM CheckResult
  | [] => return deny
  | first :: excluded => do
    let base ← walkChild w descend req first
    if !base.allowed then
      return deny
    else
      walkExcluded w descend req excluded

/-- The switch of `walkPermission` on the operation of a permission. -/
def walkOperation (req : CheckRequest V) (permDef : PermissionDef P) : WalkM CheckResult :=
  match permDef.operation with
  | .union | .direct => walkUnion w descend req permDef.children
  | .intersect => walkIntersect w descend req permDef.children
  | .exclusion => walkExclusion w descend req permDef.children
  | .other code => throw (.unknownPermissionOperation code)

end Walkers

/--
Evaluate a permission definition, with a number of hops left.

The source counts a depth up and fails when it passes `MaxCheckDepth`.
The hops left are `MaxCheckDepth + 1 - depth`, so they run out exactly where the source fails.
-/
def walkPermission (w : Walker V P) : Nat → CheckRequest V → PermissionDef P → WalkM CheckResult
  | 0, _, _ => throw (.maxCheckDepthExceeded w.cfg.maxCheckDepth)
  | hops + 1, req, permDef => do
    let key := visitKey req.objectType req.objectID permDef.name req.subjectType req.subjectID
    if (← get).visited.has key then
      -- A node met again is refused.
      return deny
    else
      modify fun st => { st with visited := st.visited.add key }
      walkOperation w (walkPermission w hops) req permDef

/-- The hops left at a depth. -/
def Walker.hopsAt (w : Walker V P) (depth : Nat) : Nat :=
  (w.cfg.maxCheckDepth + 1 - depth).toNat

/-- `walkPermission` as the source calls it, at a depth. -/
def Walker.permissionAt (w : Walker V P) (depth : Nat) (req : CheckRequest V)
    (permDef : PermissionDef P) : WalkM CheckResult :=
  walkPermission w (w.hopsAt depth) req permDef

end ZanGuard
