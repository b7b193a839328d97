import ZanGuard.Lib.Search
import ZanGuard.Proofs.Engine.Inversion

/-! On a store that does not change, the six walkers are one search over a graph of requests. -/

namespace ZanGuard

open Search

variable {V P : Type}

/-- A store that gives the same answer whenever it is asked. -/
structure Lookups.Steady (store : Lookups V) : Prop where
  checkDirect : ∀ n, store.checkDirect n = store.checkDirect 0
  listRelatedObjects : ∀ n, store.listRelatedObjects n = store.listRelatedObjects 0
  listSubjects : ∀ n, store.listSubjects n = store.listSubjects 0
  getObjectAttributes : ∀ n, store.getObjectAttributes n = store.getObjectAttributes 0
  getSubjectAttributes : ∀ n, store.getSubjectAttributes n = store.getSubjectAttributes 0

/-- The evidence of a result that grants. -/
def CheckResult.evidence (result : CheckResult) : Option (List String) :=
  if result.allowed then some result.resolutionPath else none

/-- The direct membership of the request's subject, as a leaf of the search. -/
def Walker.directAnswer (w : Walker V P) (req : CheckRequest V)
    (objectType objectID relation : String) : Answer Err (List String) :=
  match w.store.checkDirect 0 objectType objectID relation req.subjectType req.subjectID with
  | .error e => .error e
  | .ok true => .ok (some [objectType ++ ":" ++ objectID ++ "#" ++ relation ++ "@" ++
      req.subjectType ++ ":" ++ req.subjectID])
  | .ok false => .ok none

/-- Direct membership with its failures swallowed. -/
def Walker.memberAnswer (w : Walker V P) (req : CheckRequest V)
    (objectType objectID relation : String) : Answer Err (List String) :=
  match w.directAnswer req objectType objectID relation with
  -- A failed test of membership is not told apart from one that finds nothing.
  | .error _ => .ok none
  | answer => answer

/-- What a condition evaluates to over the attributes of a request's object and subject. -/
def Walker.conditionAnswer (w : Walker V P) (req : CheckRequest V) (cond : ConditionExpr P) :
    Except Err Bool :=
  match cond.compiled with
  | none => .ok true
  | some program =>
    match w.lang.run program {
        object := attrsOrEmpty (w.store.getObjectAttributes 0 req.objectType req.objectID)
        subject := attrsOrEmpty (w.store.getSubjectAttributes 0 req.subjectType req.subjectID)
        request := req.context } with
    | .error cause => .error (.evaluateCondition cond.raw cause)
    | .ok result =>
      match w.lang.asBool result with
      | .error typeName => .error (.conditionNotBool cond.raw typeName)
      | .ok allowed => .ok allowed

/-- An inline condition as a leaf: compiled, evaluated, and granting without a path. -/
def Walker.inlineAnswer (w : Walker V P) (req : CheckRequest V) (expr : String) :
    Answer Err (List String) :=
  match compileConditionExpr w.lang expr with
  | .error e => .error e
  | .ok cond =>
    match w.conditionAnswer req cond with
    | .error e => .error e
    | .ok allowed => .ok (if allowed then some [] else none)

/-- The items of the search. -/
abbrev RequestItem (V : Type) := Item (CheckRequest V) String Err (List String)

/-- What one subject of a relation contributes to the search. -/
def Walker.subjectItems (w : Walker V P) (req : CheckRequest V) (subj : SubjectRef) :
    List (RequestItem V) :=
  -- A plain subject is found by the direct test, and needs no item of its own.
  if subj.relation = "" then []
  else match w.schema.getPermission subj.type subj.relation with
    | .error _ => [.leaf (some (req.userset subj).key)
        (w.memberAnswer req subj.type subj.id subj.relation)]
    | .ok _ => [.node (req.userset subj)]

/-- What one target of an arrow contributes to the search. -/
def Walker.targetItems (w : Walker V P) (req : CheckRequest V) (permission : String)
    (target : ObjectRef) : List (RequestItem V) :=
  match w.schema.getPermission target.type permission with
  -- A target whose type has no such permission is passed over.
  | .error _ => []
  | .ok _ => [.node (req.target permission target)]

/-- The branch a child of a permission opens. -/
def Walker.childItems (w : Walker V P) (req : CheckRequest V) (child : PermissionRef) :
    List (RequestItem V) :=
  match child.kind with
  | .relation =>
    .leaf none (w.directAnswer req req.objectType req.objectID child.relationRef) ::
      match w.store.listSubjects 0 req.objectType req.objectID child.relationRef with
      | .error e => [.leaf none (.error e)]
      | .ok subjects => subjects.flatMap (w.subjectItems req)
  | .arrow =>
    match w.store.listRelatedObjects 0 req.objectType req.objectID child.arrowRef with
    | .error e => [.leaf none (.error e)]
    | .ok targets => targets.flatMap (w.targetItems req child.arrowPermission)
  | .condition => [.leaf none (w.inlineAnswer req child.conditionExpr)]
  | .other kind => [.leaf none (.error (.unknownPermissionRefKind kind))]

/-- The rule a permission definition gives a request. -/
def Walker.permissionRule (w : Walker V P) (req : CheckRequest V) (permDef : PermissionDef P) :
    Rule (CheckRequest V) String Err (List String) :=
  match permDef.operation with
  | .union | .direct => .any (permDef.children.map (w.childItems req))
  | .intersect => .all (permDef.children.map (w.childItems req))
  | .exclusion =>
    match permDef.children with
    -- Without children there is nothing to exclude from.
    | [] => .any []
    | base :: excluded => .butNot (w.childItems req base) (excluded.map (w.childItems req))
  -- An operation nobody knows fails as soon as the node is entered.
  | .other code => .any [[.leaf none (.error (.unknownPermissionOperation code))]]

/-- The graph whose nodes are requests and whose rules are the permissions they name. -/
def Walker.graph (w : Walker V P) : Graph (CheckRequest V) String Err (List String) where
  key := CheckRequest.key
  rule req :=
    match w.schema.getPermission req.objectType req.permission with
    | .error e => .any [[.leaf none (.error e)]]
    | .ok permDef => w.permissionRule req permDef
  blank := []
  tooDeep := .maxCheckDepthExceeded w.cfg.maxCheckDepth

/-- A run of a walker and a run of the search that tell the same story. -/
def Matches (run : Except Err CheckResult × WalkState)
    (search : Answer Err (List String) × List String) : Prop :=
  match run.1, search.1 with
  | .error e, .error e' => e = e'
  | .ok result, .ok out => result.evidence = out ∧ run.2.visited.keys = search.2
  | _, _ => False

end ZanGuard
