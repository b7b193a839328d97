import ZanGuard.Engine.Visits
import ZanGuard.Proofs.Engine.Congruence
import ZanGuard.Proofs.Engine.Sound

/-! The record of a walk is that of a search for nodes, and the walk is otherwise as it was. -/

namespace ZanGuard

open Visits

variable {V P α β : Type} {rules : Rules Node String} {least : Nat}

namespace VisitM

/-- A second step starts where the first one stopped, unless the first one failed. -/
theorem from_bind (step : VisitM α) (next : α → VisitM β) (st : WalkState × List (Event Node)) :
    (step >>= next).from st =
      match step.from st with
      | (.ok a, after) => (next a).from after
      | (.error e, after) => (.error e, after) := by
  -- The transformer runs the first step and continues on its outcome.
  show (match step.from st with | (out, after) => ExceptT.bindCont next out after) = _
  rcases step.from st with ⟨out, after⟩
  cases out <;> rfl

@[simp] theorem from_pure (a : α) (st : WalkState × List (Event Node)) :
    (pure a : VisitM α).from st = (.ok a, st) := rfl

@[simp] theorem from_unrecorded (step : WalkM α) (st : WalkState) (events : List (Event Node)) :
    step.unrecorded.from (st, events) = ((step.from st).1, (step.from st).2, events) := rfl

@[simp] theorem from_record (event : Event Node) (st : WalkState) (events : List (Event Node)) :
    (record event).from (st, events) = (.ok ⟨⟩, st, events ++ [event]) := rfl

@[simp] theorem from_ite (c : Prop) [Decidable c] (yes no : VisitM α)
    (st : WalkState × List (Event Node)) :
    (if c then yes else no).from st = if c then yes.from st else no.from st := by
  split <;> rfl

end VisitM

/-- A record that is allowed, of the nodes a state has visited, which are no fewer than `least`. -/
structure Kept (rules : Rules Node String) (least : Nat) (st : WalkState)
    (events : List (Event Node)) : Prop where
  allowed : rules.Allows events
  visited : st.visited.keys = ((entered events).map rules.key).reverse
  least : least ≤ (entered events).length

/-- From such a state on the recorded step does what the step does, and keeps the record so. -/
def RecordedFrom (rules : Rules Node String) (least : Nat) (pre : WalkState → Prop)
    (visit : VisitM α) (step : WalkM α) : Prop :=
  ∀ st events, Kept rules least st events → pre st → ∃ after,
    visit.from (st, events) = ((step.from st).1, (step.from st).2, after) ∧
      Kept rules least (step.from st).2 after

/-- The recorded step does what the step does, wherever it starts. -/
abbrev Recorded (rules : Rules Node String) (least : Nat) (visit : VisitM α) (step : WalkM α) :
    Prop :=
  RecordedFrom rules least (fun _ => True) visit step

/-- The keys a record enters are those its state has visited. -/
theorem Kept.has_iff {st : WalkState} {events : List (Event Node)}
    (kept : Kept rules least st events) (key : String) :
    st.visited.has key = true ↔ key ∈ (entered events).map rules.key := by
  rw [VisitedSet.has_iff, kept.visited, List.mem_reverse]

/-- A node whose key is not visited is new to the record. -/
theorem Kept.unknown {st : WalkState} {events : List (Event Node)}
    (kept : Kept rules least st events) {node : Node} {key : String} (keyed : rules.key node = key)
    (new : st.visited.has key = false) : rules.key node ∉ (entered events).map rules.key := by
  rw [keyed, ← kept.has_iff, new]
  exact Bool.false_ne_true

namespace RecordedFrom

/-- Where a step starts does not matter to one that may start anywhere. -/
theorem weaken {pre : WalkState → Prop} {visit : VisitM α} {step : WalkM α}
    (recorded : Recorded rules least visit step) : RecordedFrom rules least pre visit step :=
  fun st events kept _ => recorded st events kept trivial

/-- A step that visits nothing leaves the record as it is. -/
theorem quiet (step : WalkM α) (still : ∀ st, (step.from st).2.visited = st.visited) :
    Recorded rules least step.unrecorded step := by
  intro st events kept _
  refine ⟨events, rfl, kept.allowed, ?_, kept.least⟩
  -- What was visited is what it was.
  rw [still st, kept.visited]

theorem pure (a : α) : Recorded rules least (Pure.pure a) (Pure.pure a) :=
  quiet (Pure.pure a) fun _ => rfl

theorem throw (e : Err) :
    Recorded rules least (MonadExcept.throw e : VisitM α) (MonadExcept.throw e) :=
  quiet (MonadExcept.throw e) fun _ => rfl

theorem tryLookup (call : Lookup) (answer : Nat → Except Err α) :
    Recorded rules least (tryLookup call answer).unrecorded (tryLookup call answer) :=
  quiet _ fun _ => rfl

theorem lookup (call : Lookup) (answer : Nat → Except Err α) :
    Recorded rules least (lookup call answer).unrecorded (lookup call answer) :=
  quiet _ fun st => by rw [WalkM.from_lookup]

/-- Two steps in a row are recorded one after the other. -/
theorem bind {pre : WalkState → Prop} {first : VisitM α} {step : WalkM α} {next : α → VisitM β}
    {rest : α → WalkM β} (head : RecordedFrom rules least pre first step)
    (tail : ∀ a, Recorded rules least (next a) (rest a)) :
    RecordedFrom rules least pre (first >>= next) (step >>= rest) := by
  intro st events kept before
  obtain ⟨mid, ran, still⟩ := head st events kept before
  rw [VisitM.from_bind, ran, WalkM.from_bind]
  rcases outcome : step.from st with ⟨out | a, reached⟩
  · -- A failed first step ends both.
    rw [outcome] at still
    exact ⟨mid, rfl, still⟩
  · rw [outcome] at still
    exact tail a reached mid still trivial

/-- A test decides alike in the walk and in its record. -/
theorem ite (c : Prop) [Decidable c] {pre : WalkState → Prop} {yes no : VisitM α}
    {yes' no' : WalkM α} (first : RecordedFrom rules least pre yes yes')
    (second : RecordedFrom rules least pre no no') :
    RecordedFrom rules least pre (if c then yes else no) (if c then yes' else no') := by
  split
  · exact first
  · exact second

/-- Wrapping the error of a step keeps its record. -/
theorem adapt (wrap : Err → Err) {visit : VisitM α} {step : WalkM α}
    (inner : Recorded rules least visit step) :
    Recorded rules least (ExceptT.adapt wrap visit : VisitM α) (ExceptT.adapt wrap step) := by
  intro st events kept _
  obtain ⟨after, ran, still⟩ := inner st events kept trivial
  -- Wrapping touches the outcome only.
  have wrapped : VisitM.from (ExceptT.adapt wrap visit) (st, events) =
      ((visit.from (st, events)).1.mapError wrap, (visit.from (st, events)).2) := rfl
  refine ⟨after, ?_, still⟩
  rw [wrapped, ran, WalkM.from_adapt]

/-- Going on unless the first step granted. -/
theorem orElse {pre : WalkState → Prop} {first rest : VisitM CheckResult}
    {first' rest' : WalkM CheckResult} (head : RecordedFrom rules least pre first first')
    (tail : Recorded rules least rest rest') :
    RecordedFrom rules least pre (first >>= fun r => if r.allowed = true then Pure.pure r else rest)
      (first' >>= fun r => if r.allowed = true then Pure.pure r else rest') :=
  RecordedFrom.bind head fun r => ite _ (pure r) tail

/-- A node whose key was visited is passed over, on the record. -/
theorem test {node : Node} {key : String} (keyed : rules.key node = key)
    (may : rules.maySkip node) {yes no : VisitM α} {yes' no' : WalkM α}
    (met : Recorded rules least yes yes')
    (new : RecordedFrom rules least (fun st => st.visited.has key = false) no no') :
    Recorded rules least
      ((get : WalkM WalkState).unrecorded >>= fun st =>
        if st.visited.has key = true then record (.skipped node) >>= fun _ => yes else no)
      (get >>= fun st => if st.visited.has key = true then yes' else no') := by
  intro st events kept _
  -- Both look at the same set, and only one of them writes down what it found.
  rw [VisitM.from_bind, WalkM.from_bind]
  simp only [VisitM.from_unrecorded, WalkM.from_get, WalkM.andThen_ok, WalkM.from_ite,
    VisitM.from_ite]
  cases seen : st.visited.has key with
  | false => exact new st events kept seen
  | true =>
    have known : rules.key node ∈ (entered events).map rules.key := by
      rw [keyed]
      exact (kept.has_iff key).mp seen
    have permitted : rules.Permits events (.skipped node) := ⟨may, known⟩
    rw [VisitM.from_bind, VisitM.from_record]
    refine met st (events ++ [.skipped node]) ⟨kept.allowed.concat permitted, ?_, ?_⟩ trivial
    · simpa using kept.visited
    · simpa using kept.least

end RecordedFrom

/-- A condition visits nothing. -/
theorem evaluateCondition_still (w : Walker V P) (req : CheckRequest V) (cond : ConditionExpr P)
    (st : WalkState) : ((evaluateCondition w req cond).from st).2.visited = st.visited := by
  unfold evaluateCondition
  -- At most one lookup is made, which visits nothing, and then the program runs.
  cases cond.compiled with
  | none => rfl
  | some program =>
    simp only [WalkM.from_bind, WalkM.from_tryLookup, WalkM.andThen_ok]
    cases w.lang.run program _ with
    | error cause => rfl
    | ok value =>
      simp only
      cases w.lang.asBool value with
      | error typeName => rfl
      | ok allowed => rfl

/-- The same walk with another limit of depth. -/
def Walker.limited (w : Walker V P) (cfg : Config) : Walker V P :=
  { w with cfg }

/-- A permission that a type declares. -/
def CompiledSchema.Declares (cs : CompiledSchema P) (type permission : String) : Prop :=
  ∃ permDef, cs.getPermission type permission = .ok permDef

/-- The nodes that a walk for a subject comes to obey rules. -/
structure Walker.Obeys (w : Walker V P) (rules : Rules Node String)
    (subjectType subjectID : String) : Prop where
  key : ∀ node : Node,
    rules.key node = visitKey node.type node.id node.permission subjectType subjectID
  userset : ∀ {n type id relation listed},
    w.store.listSubjects n type id relation = .ok listed →
      ∀ subj ∈ listed, subj.relation ≠ "" → rules.maySkip ⟨subj.type, subj.id, subj.relation⟩ ∧
        (w.schema.Declares subj.type subj.relation →
          rules.mayEnter ⟨subj.type, subj.id, subj.relation⟩)
  target : ∀ {type permission permDef child n id listed},
    w.schema.getPermission type permission = .ok permDef → child ∈ permDef.children →
      child.kind = .arrow → w.store.listRelatedObjects n type id child.arrowRef = .ok listed →
        ∀ target ∈ listed, rules.maySkip ⟨target.type, target.id, child.arrowPermission⟩ ∧
          (w.schema.Declares target.type child.arrowPermission →
            rules.mayEnter ⟨target.type, target.id, child.arrowPermission⟩)

section Walkers

variable {w : Walker V P} {cfg : Config} {subjectType subjectID : String}
  {descendV : CheckRequest V → PermissionDef P → VisitM CheckResult}
  {descend : CheckRequest V → PermissionDef P → WalkM CheckResult} {req : CheckRequest V}

/-- The recursive entries tell the same of every new node that a walk for the subject enters. -/
def DescentRecorded (w : Walker V P) (rules : Rules Node String) (least : Nat)
    (subjectType subjectID : String)
    (descendV : CheckRequest V → PermissionDef P → VisitM CheckResult)
    (descend : CheckRequest V → PermissionDef P → WalkM CheckResult) : Prop :=
  ∀ req permDef, req.By subjectType subjectID → rules.mayEnter req.node →
    w.schema.getPermission req.objectType req.permission = .ok permDef →
      RecordedFrom rules least (fun st => st.visited.has req.key = false) (descendV req permDef)
        (descend req permDef)

/-- A lookup hands on only what it was answered with. -/
theorem RecordedFrom.listed {call : Lookup} {answer : Nat → Except Err α}
    {visit : α → VisitM β} {step : α → WalkM β}
    (each : ∀ n listed, answer n = .ok listed → Recorded rules least (visit listed) (step listed)) :
    Recorded rules least ((ZanGuard.lookup call answer).unrecorded >>= visit)
      (ZanGuard.lookup call answer >>= step) := by
  intro st events kept _
  obtain ⟨after, ran, still⟩ := RecordedFrom.lookup call answer st events kept trivial
  rw [VisitM.from_bind, ran, WalkM.from_bind]
  rw [WalkM.from_lookup] at still ⊢
  -- The answer is the one the store gives at this point of the walk.
  cases found : answer st.lookups.length with
  | error e =>
    exact ⟨after, rfl, still⟩
  | ok listed => exact each _ listed found _ after still trivial

/-- The userset loop. -/
theorem visitSubjects_recorded (obeys : w.Obeys rules subjectType subjectID)
    (descends : DescentRecorded w rules least subjectType subjectID descendV descend)
    (own : req.By subjectType subjectID) (subjects : List SubjectRef)
    (among : ∀ subj ∈ subjects, subj.relation ≠ "" →
      rules.maySkip ⟨subj.type, subj.id, subj.relation⟩ ∧
        (w.schema.Declares subj.type subj.relation →
          rules.mayEnter ⟨subj.type, subj.id, subj.relation⟩)) :
    Recorded rules least (visitSubjects w descendV req subjects)
      (walkSubjects (w.limited cfg) descend req subjects) := by
  -- By induction on the subjects, as the loop goes.
  induction subjects with
  | nil => exact .pure deny
  | cons subj rest ih =>
    have later := ih fun other member => among other (List.mem_cons_of_mem _ member)
    have keyed : rules.key ⟨subj.type, subj.id, subj.relation⟩ = (req.userset subj).key := by
      rw [obeys.key, ← own.1, ← own.2]
      rfl
    rw [visitSubjects, walkSubjects]
    by_cases plain : subj.relation = ""
    · rw [if_pos plain, if_pos plain]
      exact later
    · obtain ⟨may, mayEnter⟩ := among subj List.mem_cons_self plain
      rw [if_neg plain, if_neg plain]
      refine .test keyed may later ?_
      have schema : (w.limited cfg).schema = w.schema := rfl
      rw [schema]
      cases declared : w.schema.getPermission subj.type subj.relation with
      | error e =>
        -- The direct test visits nothing.
        refine RecordedFrom.weaken (RecordedFrom.bind (.tryLookup _ _) fun answer => ?_)
        cases answer with
        | error _ => exact later
        | ok subOk => exact .ite _ (.pure _) later
      | ok permDef =>
        exact .orElse
          (descends (req.userset subj) permDef own (mayEnter ⟨_, declared⟩) declared) later

/-- Direct membership first, then the usersets. -/
theorem visitRelation_recorded (obeys : w.Obeys rules subjectType subjectID)
    (descends : DescentRecorded w rules least subjectType subjectID descendV descend)
    (own : req.By subjectType subjectID) (relation : String) :
    Recorded rules least (visitRelation w descendV req relation)
      (walkRelation (w.limited cfg) descend req relation) := by
  refine .bind (.lookup _ _) fun ok => .ite _ (.pure _) ?_
  refine RecordedFrom.listed fun n listed found => ?_
  exact visitSubjects_recorded obeys descends own listed (obeys.userset found)

/-- The target loop. -/
theorem visitTargets_recorded (obeys : w.Obeys rules subjectType subjectID)
    (descends : DescentRecorded w rules least subjectType subjectID descendV descend)
    (own : req.By subjectType subjectID) (permission : String) (targets : List ObjectRef)
    (among : ∀ target ∈ targets, rules.maySkip ⟨target.type, target.id, permission⟩ ∧
      (w.schema.Declares target.type permission →
        rules.mayEnter ⟨target.type, target.id, permission⟩)) :
    Recorded rules least (visitTargets w descendV req permission targets)
      (walkTargets (w.limited cfg) descend req permission targets) := by
  -- By induction on the targets; unlike usersets, they have no direct form.
  induction targets with
  | nil => exact .pure deny
  | cons target rest ih =>
    have later := ih fun other member => among other (List.mem_cons_of_mem _ member)
    have keyed : rules.key ⟨target.type, target.id, permission⟩ =
        (req.target permission target).key := by
      rw [obeys.key, ← own.1, ← own.2]
      rfl
    obtain ⟨may, mayEnter⟩ := among target List.mem_cons_self
    rw [visitTargets, walkTargets]
    refine .test keyed may later ?_
    have schema : (w.limited cfg).schema = w.schema := rfl
    rw [schema]
    cases declared : w.schema.getPermission target.type permission with
    | error e => exact later.weaken
    | ok permDef =>
      exact .orElse (descends (req.target permission target) permDef own
        (mayEnter ⟨_, declared⟩) declared) later

/-- A child of a declared permission. -/
theorem visitChild_recorded (obeys : w.Obeys rules subjectType subjectID)
    (descends : DescentRecorded w rules least subjectType subjectID descendV descend)
    (own : req.By subjectType subjectID) {permission : String} {permDef : PermissionDef P}
    (declared : w.schema.getPermission req.objectType permission = .ok permDef)
    {child : PermissionRef} (among : child ∈ permDef.children) :
    Recorded rules least (visitChild w descendV req child)
      (walkChild (w.limited cfg) descend req child) := by
  -- One case for each kind of child.
  unfold visitChild walkChild
  cases kind : child.kind with
  | relation => exact visitRelation_recorded obeys descends own _
  | arrow =>
    refine RecordedFrom.listed fun n listed found => ?_
    exact visitTargets_recorded obeys descends own _ listed
      (obeys.target declared among kind found)
  | condition =>
    have lang : (w.limited cfg).lang = w.lang := rfl
    rw [lang]
    cases compileConditionExpr w.lang child.conditionExpr with
    | error e => exact .throw e
    | ok cond =>
      exact .bind (.quiet _ (evaluateCondition_still _ req cond)) fun verdict =>
        .ite _ (.pure _) (.pure _)
  | other kind => exact .throw _

/-- The three child loops, for children that are each recorded. -/
theorem visitChildren_recorded {children : List PermissionRef}
    (each : ∀ child ∈ children, Recorded rules least (visitChild w descendV req child)
      (walkChild (w.limited cfg) descend req child)) :
    Recorded rules least (visitUnion w descendV req children)
        (walkUnion (w.limited cfg) descend req children) ∧
      Recorded rules least (visitAll w descendV req children)
        (walkAll (w.limited cfg) descend req children) ∧
      Recorded rules least (visitExcluded w descendV req children)
        (walkExcluded (w.limited cfg) descend req children) := by
  -- By induction on the children; the loops differ only in the result that stops them.
  induction children with
  | nil => exact ⟨.pure _, .pure _, .pure _⟩
  | cons child rest ih =>
    have head := each child List.mem_cons_self
    obtain ⟨union, all, excluded⟩ :=
      ih fun later member => each later (List.mem_cons_of_mem _ member)
    refine ⟨RecordedFrom.orElse head union, ?_, ?_⟩
    · exact .bind head fun r => .ite _ (.pure deny) all
    · exact .bind head fun r => .ite _ (.pure deny) excluded

/-- The operation of a declared permission. -/
theorem visitOperation_recorded (obeys : w.Obeys rules subjectType subjectID)
    (descends : DescentRecorded w rules least subjectType subjectID descendV descend)
    (own : req.By subjectType subjectID) {permission : String} {permDef : PermissionDef P}
    (declared : w.schema.getPermission req.objectType permission = .ok permDef) :
    Recorded rules least (visitOperation w descendV req permDef)
      (walkOperation (w.limited cfg) descend req permDef) := by
  have each : ∀ child ∈ permDef.children,
      Recorded rules least (visitChild w descendV req child)
        (walkChild (w.limited cfg) descend req child) :=
    fun child among => visitChild_recorded obeys descends own declared among
  unfold visitOperation walkOperation
  -- By the operation; all but the exclusion go through the children with one loop.
  cases operation : permDef.operation with
  | union | direct => exact (visitChildren_recorded each).1
  | intersect => exact .ite _ (.pure deny) (visitChildren_recorded each).2.1
  | exclusion =>
    cases listed : permDef.children with
    | nil => exact .pure deny
    | cons base excluded =>
      rw [listed] at each
      refine .bind (each base List.mem_cons_self) fun r => .ite _ (.pure deny) ?_
      exact (visitChildren_recorded
        fun child member => each child (List.mem_cons_of_mem _ member)).2.2
  | other code => exact .throw _

end Walkers

section Steps

variable {w : Walker V P} {descend : CheckRequest V → PermissionDef P → VisitM CheckResult}
  {req : CheckRequest V} {st : WalkState} {events : List (Event Node)}

/-- A userset whose key was visited is passed over. -/
theorem visitSubjects_met {subj : SubjectRef} (userset : subj.relation ≠ "")
    (met : st.visited.has (req.userset subj).key = true) (rest : List SubjectRef) :
    (visitSubjects w descend req (subj :: rest)).from (st, events) =
      (visitSubjects w descend req rest).from
        (st, events ++ [.skipped ⟨subj.type, subj.id, subj.relation⟩]) := by
  rw [visitSubjects, if_neg userset, VisitM.from_bind]
  simp only [VisitM.from_unrecorded, WalkM.from_get, VisitM.from_ite]
  -- The test is the one of the walk.
  exact if_pos met

/-- A relation without a direct tuple goes on to the subjects that are listed. -/
theorem visitRelation_listed {relation : String} {subjects : List SubjectRef}
    (direct : ∀ n, w.store.checkDirect n req.objectType req.objectID relation req.subjectType
      req.subjectID = .ok false)
    (listed : ∀ n, w.store.listSubjects n req.objectType req.objectID relation = .ok subjects) :
    ∃ after, after.visited = st.visited ∧
      (visitRelation w descend req relation).from (st, events) =
        (visitSubjects w descend req subjects).from (after, events) := by
  let tested : List Lookup := st.lookups ++
    [.checkDirect req.objectType req.objectID relation req.subjectType req.subjectID]
  -- Two lookups are made, and no node is visited by them.
  refine ⟨{ st with
    lookups := tested ++ [.listSubjects req.objectType req.objectID relation] }, rfl, ?_⟩
  rw [visitRelation, VisitM.from_bind, VisitM.from_unrecorded, WalkM.from_lookup, direct]
  simp only [Bool.false_eq_true, if_false]
  rw [VisitM.from_bind, VisitM.from_unrecorded, WalkM.from_lookup, listed]

/-- A new node is entered with a hop left, and its operation runs with its key visited. -/
theorem visitPermission_new {permDef : PermissionDef P}
    (declared : w.schema.getPermission req.objectType req.permission = .ok permDef)
    (new : st.visited.has req.key = false) (hops : Nat) :
    (visitPermission w (hops + 1) req permDef).from (st, events) =
      (visitOperation w (visitPermission w hops) req permDef).from
        ({ st with visited := st.visited.add req.key }, events ++ [.entered req.node]) := by
  rw [visitPermission, VisitM.from_bind]
  simp only [VisitM.from_unrecorded, WalkM.from_get, VisitM.from_ite]
  -- The node of the request has the permission's own name as well.
  rw [CheckRequest.visitKey_declared declared, if_neg (by simp [new]),
    CompiledSchema.getPermission_name declared]
  rfl

end Steps

/-- There is room for all the nodes a search may enter. -/
def Roomy (rules : Rules Node String) : Prop :=
  ∃ nodes : Finset Node, (∀ node, rules.mayEnter node → node ∈ nodes) ∧ nodes.card ≤ rules.limit

/-- The keys of the nodes a walk for a subject enters are those of its requests. -/
theorem Walker.Obeys.key_node {w : Walker V P} {subjectType subjectID : String}
    (obeys : w.Obeys rules subjectType subjectID) {req : CheckRequest V}
    (own : req.By subjectType subjectID) : rules.key req.node = req.key := by
  rw [obeys.key, ← own.1, ← own.2]
  rfl

/--
The recursive walk, with a number of hops left.

Where there is room for all nodes, the record is also that of a walk with more hops left.
-/
theorem visitPermission_recorded {w : Walker V P} {cfg : Config} {subjectType subjectID : String}
    (obeys : w.Obeys rules subjectType subjectID) (hops hops' : Nat)
    (alike : (hops' = hops ∧ cfg = w.cfg) ∨ (hops ≤ hops' ∧ Roomy rules)) :
    DescentRecorded w rules (rules.limit - hops) subjectType subjectID (visitPermission w hops)
      (walkPermission (w.limited cfg) hops') := by
  -- By induction on the hops left; each hop enters a node, so the record keeps up with them.
  induction hops generalizing hops' with
  | zero =>
    intro req permDef own may declared st events kept new
    have named := CompiledSchema.getPermission_name declared
    have permitted : rules.Permits events (.stopped req.node) :=
      ⟨may, kept.unknown (obeys.key_node own) new, kept.least⟩
    have allowed := kept.allowed.concat permitted
    rcases alike with ⟨rfl, rfl⟩ | ⟨-, nodes, among, room⟩
    · have node : ({ type := req.objectType, id := req.objectID, permission := permDef.name } :
          Node) = req.node := by
        rw [named, CheckRequest.node]
      have failed : (walkPermission (w.limited w.cfg) 0 req permDef).from st =
          (.error (.maxCheckDepthExceeded w.cfg.maxCheckDepth), st) := rfl
      rw [failed]
      refine ⟨events ++ [.stopped req.node], ?_, allowed, ?_, ?_⟩
      · rw [← node]
        rfl
      · simpa using kept.visited
      · simpa using kept.least
    · -- With room for all nodes, a new one cannot be met with no hop left.
      exact absurd (by simp) (allowed.not_stopped among room req.node)
  | succ hops ih =>
    intro req permDef own may declared st events kept new
    obtain ⟨hops', rfl, below⟩ : ∃ more, hops' = more + 1 ∧
        ((more = hops ∧ cfg = w.cfg) ∨ (hops ≤ more ∧ Roomy rules)) := by
      rcases alike with ⟨same, limit⟩ | ⟨more, room⟩
      · exact ⟨hops, same, .inl ⟨rfl, limit⟩⟩
      · exact ⟨hops' - 1, by omega, .inr ⟨by omega, room⟩⟩
    have permitted : rules.Permits events (.entered req.node) :=
      ⟨may, kept.unknown (obeys.key_node own) new⟩
    -- Below the node the walk goes on from a record that has entered it.
    have entering : Kept rules (rules.limit - hops) { st with visited := st.visited.add req.key }
        (events ++ [.entered req.node]) := by
      refine ⟨kept.allowed.concat permitted, ?_, ?_⟩
      · simp [VisitedSet.add, kept.visited, obeys.key_node own]
      · have least := kept.least
        simp only [entered_append, entered_entered, List.length_append, List.length_singleton]
        omega
    have operation : Recorded rules (rules.limit - hops)
        (visitOperation w (visitPermission w hops) req permDef)
        (walkOperation (w.limited cfg) (walkPermission (w.limited cfg) hops') req permDef) :=
      visitOperation_recorded obeys (ih hops' below) own declared
    obtain ⟨after, ran, still⟩ := operation _ _ entering trivial
    have walk : (walkPermission (w.limited cfg) (hops' + 1) req permDef).from st =
        (walkOperation (w.limited cfg) (walkPermission (w.limited cfg) hops') req permDef).from
          { st with visited := st.visited.add req.key } := by
      rw [walkPermission, WalkM.from_bind, WalkM.from_get, WalkM.andThen_ok, WalkM.from_ite,
        CheckRequest.visitKey_declared declared, if_neg (by simp [new]), WalkM.from_bind,
        WalkM.from_modify, WalkM.andThen_ok]
    rw [visitPermission_new declared new, walk]
    have least := still.least
    exact ⟨after, ran, still.allowed, still.visited, by omega⟩

/-- A check from the start, its gate included. -/
theorem Walker.visitCheck_recorded {w : Walker V P} {req : CheckRequest V}
    (obeys : w.Obeys rules req.subjectType req.subjectID)
    (root : w.schema.Declares req.objectType req.permission → rules.mayEnter req.node)
    (limit : rules.limit = w.hopsAt 0) (cfg : Config)
    (alike : cfg = w.cfg ∨ (w.cfg.maxCheckDepth ≤ cfg.maxCheckDepth ∧ Roomy rules)) :
    ∃ after, (w.visitCheck req).from (.start, []) = ((((w.limited cfg).check req).from .start).1,
        (((w.limited cfg).check req).from .start).2, after) ∧ rules.Allows after := by
  have start : Kept rules 0 .start [] := ⟨.nil, rfl, le_rfl⟩
  have new : WalkState.start.visited.has req.key = false := rfl
  have recorded : RecordedFrom rules 0 (fun st => st.visited.has req.key = false) (w.visitCheck req)
      ((w.limited cfg).check req) := by
    unfold Walker.visitCheck Walker.check
    have schema : (w.limited cfg).schema = w.schema := rfl
    rw [schema]
    cases declared : w.schema.getPermission req.objectType req.permission with
    | error e => exact RecordedFrom.weaken (.throw e)
    | ok permDef =>
      have hops : (w.limited cfg).hopsAt 0 = (cfg.maxCheckDepth + 1 - (0 : Nat)).toNat := rfl
      have room : ((w.limited cfg).hopsAt 0 = w.hopsAt 0 ∧ cfg = w.cfg) ∨
          (w.hopsAt 0 ≤ (w.limited cfg).hopsAt 0 ∧ Roomy rules) := by
        rcases alike with rfl | ⟨deeper, room⟩
        · exact .inl ⟨rfl, rfl⟩
        · refine .inr ⟨?_, room⟩
          rw [hops, Walker.hopsAt]
          omega
      have walk := visitPermission_recorded obeys _ _ room req permDef ⟨rfl, rfl⟩
        (root ⟨permDef, declared⟩) declared
      rw [limit, Nat.sub_self] at walk
      refine RecordedFrom.bind walk fun result => ?_
      -- The gate visits nothing.
      cases result.allowed with
      | false => exact .pure result
      | true =>
        cases permDef.condition with
        | none => exact .pure result
        | some cond =>
          have gate : Recorded rules 0 (evaluateCondition w req cond).unrecorded
              (evaluateCondition (w.limited cfg) req cond) :=
            .quiet _ (evaluateCondition_still w req cond)
          exact .bind (.adapt _ gate) fun verdict => .ite _ (.pure deny) (.pure result)
  obtain ⟨after, ran, kept⟩ := recorded .start [] start new
  exact ⟨after, ran, kept.allowed⟩

/-- The same engine with another limit of depth. -/
def Engine.limited (e : Engine P) (cfg : Config) : Engine P :=
  { e with cfg }

/-- The schema that checks for the tenant of a context follow. -/
def Engine.InForce (e : Engine P) (ctx : Context V) (cs : CompiledSchema P) : Prop :=
  ∃ tc, checkTenant ctx = .ok tc ∧ e.schemaForTenant tc = .ok cs

/--
A check leaves a record of a search, and otherwise does what it does.

Where there is room for all nodes, a larger limit of depth makes no difference.
-/
theorem Engine.visits_recorded {e : Engine P} {lang : ExprLang V P} {store : Lookups V}
    {ctx : Context V} {req : CheckRequest V}
    (obeys : ∀ cs, e.InForce ctx cs →
      (e.walker lang store cs).Obeys rules req.subjectType req.subjectID)
    (root : ∀ cs, e.InForce ctx cs →
      cs.Declares req.objectType req.permission → rules.mayEnter req.node)
    (limit : rules.limit = (e.cfg.maxCheckDepth + 1).toNat) :
    (e.visits lang store ctx req).1 = e.check lang store ctx req ∧
      rules.Allows (e.visits lang store ctx req).2 ∧
      (Roomy rules → ∀ cfg : Config, e.cfg.maxCheckDepth ≤ cfg.maxCheckDepth →
        (e.limited cfg).check lang store ctx req = e.check lang store ctx req) := by
  cases passed : checkTenant ctx with
  | error refused =>
    -- A check that is refused walks nowhere.
    simp only [Engine.visits, Engine.check, passed]
    exact ⟨rfl, .nil, fun _ _ _ => rfl⟩
  | ok tc =>
    have schema : ∀ cfg, (e.limited cfg).schemaForTenant tc = e.schemaForTenant tc := fun _ => rfl
    simp only [Engine.visits, Engine.check, passed, bind, Except.bind, schema]
    cases chosen : e.schemaForTenant tc with
    | error missing => exact ⟨rfl, .nil, fun _ _ _ => rfl⟩
    | ok cs =>
      have force : e.InForce ctx cs := ⟨tc, passed, chosen⟩
      have hops : rules.limit = (e.walker lang store cs).hopsAt 0 := by
        rw [limit, Walker.hopsAt, Engine.walker]
        simp
      have same := Walker.visitCheck_recorded (obeys cs force) (root cs force) hops
      obtain ⟨after, ran, allowed⟩ := same e.cfg (.inl rfl)
      have visits : (({ cfg := e.cfg, store, schema := cs, lang } : Walker V P).visitCheck req).from
          (.start, []) = _ := ran
      simp only [visits]
      refine ⟨rfl, allowed, fun room cfg deeper => ?_⟩
      -- Both limits leave the one record.
      obtain ⟨_, again, -⟩ := same cfg (.inr ⟨deeper, room⟩)
      exact (congrArg Prod.fst again).symm.trans (congrArg Prod.fst ran)

end ZanGuard
