import ZanGuard.Engine.Engine
import ZanGuard.Lib.Visits
import ZanGuard.Spec.Derives

/-! The permission walk once more, with a record of the nodes it enters and passes over. -/

namespace ZanGuard

open Visits

/-- A step of the recorded walk keeps its state and its record when it fails. -/
abbrev VisitM := ExceptT Err (StateM (WalkState × List (Event Node)))

/-- Run a step of the recorded walk from a state and a record. -/
def VisitM.from {α : Type} (step : VisitM α) (st : WalkState × List (Event Node)) :
    Except Err α × WalkState × List (Event Node) :=
  step st

/-- A step of the walk that comes to no node leaves the record as it is. -/
def WalkM.unrecorded {α : Type} (step : WalkM α) : VisitM α :=
  fun st => ((step.from st.1).1, (step.from st.1).2, st.2)

/-- Put an event on the record. -/
def record (event : Event Node) : VisitM PUnit :=
  modify fun st => (st.1, st.2 ++ [event])

variable {V P : Type}

section Walkers

variable (w : Walker V P) (descend : CheckRequest V → PermissionDef P → VisitM CheckResult)

/-- `walkSubjects`, recorded. -/
def visitSubjects (req : CheckRequest V) : List SubjectRef → VisitM CheckResult
  | [] => return deny
  | subj :: rest => do
    if subj.relation = "" then
      visitSubjects req rest
    else
      let subReq : CheckRequest V :=
        { objectType := subj.type, objectID := subj.id, permission := subj.relation,
          subjectType := req.subjectType, subjectID := req.subjectID }
      let subKey := visitKey subReq.objectType subReq.objectID subReq.permission
        subReq.subjectType subReq.subjectID
      if (← (get : WalkM WalkState).unrecorded).visited.has subKey then
        record (.skipped { type := subj.type, id := subj.id, permission := subj.relation })
        visitSubjects req rest
      else
        match w.schema.getPermission subj.type subj.relation with
        -- The direct test of a userset that is no permission does not visit it.
        | .error _ =>
          match ← (tryLookup
              (.usersetMember subj.type subj.id subj.relation req.subjectType req.subjectID)
              (w.store.checkDirect · subj.type subj.id subj.relation req.subjectType
                req.subjectID)).unrecorded with
          | .error _ => visitSubjects req rest
          | .ok subOk =>
            if subOk then
              return allow [subj.type ++ ":" ++ subj.id ++ "#" ++ subj.relation ++ "@" ++
                req.subjectType ++ ":" ++ req.subjectID]
            else
              visitSubjects req rest
        | .ok subPermDef =>
          let subResult ← descend subReq subPermDef
          if subResult.allowed then
            return subResult
          else
            visitSubjects req rest

/-- `walkRelation`, recorded. -/
def visitRelation (req : CheckRequest V) (relation : String) : VisitM CheckResult := do
  let ok ← (lookup
    (.checkDirect req.objectType req.objectID relation req.subjectType req.subjectID)
    (w.store.checkDirect · req.objectType req.objectID relation req.subjectType
      req.subjectID)).unrecorded
  if ok then
    return allow [req.objectType ++ ":" ++ req.objectID ++ "#" ++ relation ++ "@" ++
      req.subjectType ++ ":" ++ req.subjectID]
  else
    let subjects ← (lookup (.listSubjects req.objectType req.objectID relation)
      (w.store.listSubjects · req.objectType req.objectID relation)).unrecorded
    visitSubjects w descend req subjects

/-- `walkTargets`, recorded. -/
def visitTargets (req : CheckRequest V) (permission : String) :
    List ObjectRef → VisitM CheckResult
  | [] => return deny
  | target :: rest => do
    let subReq : CheckRequest V :=
      { objectType := target.type, objectID := target.id, permission := permission,
        subjectType := req.subjectType, subjectID := req.subjectID, context := req.context }
    let subKey := visitKey subReq.objectType subReq.objectID subReq.permission
      subReq.subjectType subReq.subjectID
    if (← (get : WalkM WalkState).unrecorded).visited.has subKey then
      record (.skipped { type := target.type, id := target.id, permission })
      visitTargets req permission rest
    else
      match w.schema.getPermission target.type permission with
      | .error _ => visitTargets req permission rest
      | .ok permDef =>
        let result ← descend subReq permDef
        if result.allowed then
          return result
        else
          visitTargets req permission rest

/-- `walkArrow`, recorded. -/
def visitArrow (req : CheckRequest V) (relation permission : String) : VisitM CheckResult := do
  let targets ← (lookup (.listRelatedObjects req.objectType req.objectID relation)
    (w.store.listRelatedObjects · req.objectType req.objectID relation)).unrecorded
  visitTargets w descend req permission targets

/-- `walkChild`, recorded. -/
def visitChild (req : CheckRequest V) (child : PermissionRef) : VisitM CheckResult :=
  match child.kind with
  | .relation => visitRelation w descend req child.relationRef
  | .arrow => visitArrow w descend req child.arrowRef child.arrowPermission
  | .condition => do
    match compileConditionExpr w.lang child.conditionExpr with
    | .error e => throw e
    | .ok cond =>
      if ← (evaluateCondition w req cond).unrecorded then return allow [] else return deny
  | .other kind => throw (.unknownPermissionRefKind kind)

/-- `walkUnion`, recorded. -/
def visitUnion (req : CheckRequest V) : List PermissionRef → VisitM CheckResult
  | [] => return deny
  | child :: rest => do
    let result ← visitChild w descend req child
    if result.allowed then
      return result
    else
      visitUnion req rest

/-- `walkAll`, recorded. -/
def visitAll (req : CheckRequest V) : List PermissionRef → VisitM CheckResult
  | [] => return allow []
  | child :: rest => do
    let result ← visitChild w descend req child
    if !result.allowed then
      return deny
    else
      visitAll req rest

/-- `walkIntersect`, recorded. -/
def visitIntersect (req : CheckRequest V) (children : List PermissionRef) : VisitM CheckResult :=
  if children.isEmpty then
    return deny
  else
    visitAll w descend req children

/-- `walkExcluded`, recorded. -/
def visitExcluded (req : CheckRequest V) : List PermissionRef → VisitM CheckResult
  | [] => return allow []
  | child :: rest => do
    let excluded ← visitChild w descend req child
    if excluded.allowed then
      return deny
    else
      visitExcluded req rest

/-- `walkExclusion`, recorded. -/
def visitExclusion (req : CheckRequest V) : List PermissionRef → VisitM CheckResult
  | [] => return deny
  | first :: excluded => do
    let base ← visitChild w descend req first
    if !base.allowed then
      return deny
    else
      visitExcluded w descend req excluded

/-- `walkOperation`, recorded. -/
def visitOperation (req : CheckRequest V) (permDef : PermissionDef P) : VisitM CheckResult :=
  match permDef.operation with
  | .union | .direct => visitUnion w descend req permDef.children
  | .intersect => visitIntersect w descend req permDef.children
  | .exclusion => visitExclusion w descend req permDef.children
  | .other code => throw (.unknownPermissionOperation code)

end Walkers

/-- `walkPermission`, recorded: the node is the one its key is made of. -/
def visitPermission (w : Walker V P) : Nat → CheckRequest V → PermissionDef P → VisitM CheckResult
  | 0, req, permDef => do
    record (.stopped { type := req.objectType, id := req.objectID, permission := permDef.name })
    throw (.maxCheckDepthExceeded w.cfg.maxCheckDepth)
  | hops + 1, req, permDef => do
    let key := visitKey req.objectType req.objectID permDef.name req.subjectType req.subjectID
    if (← (get : WalkM WalkState).unrecorded).visited.has key then
      record (.skipped { type := req.objectType, id := req.objectID, permission := permDef.name })
      return deny
    else
      (modify fun st => { st with visited := st.visited.add key } : WalkM PUnit).unrecorded
      -- From here on the body of the source's function runs.
      record (.entered { type := req.objectType, id := req.objectID, permission := permDef.name })
      visitOperation w (visitPermission w hops) req permDef

/-- `Walker.check`, recorded. -/
def Walker.visitCheck (w : Walker V P) (req : CheckRequest V) : VisitM CheckResult :=
  match w.schema.getPermission req.objectType req.permission with
  | .error e => throw e
  | .ok permDef => do
    let result ← visitPermission w (w.hopsAt 0) req permDef
    match result.allowed, permDef.condition with
    | true, some cond =>
      let allowed ← ExceptT.adapt .conditionEvaluation (evaluateCondition w req cond).unrecorded
      if !allowed then return deny else return result
    | _, _ => return result

/-- `Engine.check`, recorded: its outcome, and what it did with the nodes it came to. -/
def Engine.visits (e : Engine P) (lang : ExprLang V P) (store : Lookups V) (ctx : Context V)
    (req : CheckRequest V) : Except Err CheckResult × List (Event Node) :=
  match checkTenant ctx with
  -- A check that is refused here comes to no node.
  | .error refused => (.error refused, [])
  | .ok tc =>
    match e.schemaForTenant tc with
    | .error missing => (.error missing, [])
    | .ok cs =>
      let w : Walker V P := { cfg := e.cfg, store, schema := cs, lang }
      let run := (w.visitCheck req).from (.start, [])
      (run.1, run.2.2)

end ZanGuard
