import ZanGuard.Proofs.Engine.Graph

/-! The walkers refine the search: same answer, same error, same visited keys. -/

namespace ZanGuard

open Search

variable {V P : Type} {w : Walker V P}

/-- A condition evaluates to its answer and visits nothing. -/
theorem evaluateCondition_steady (steady : w.store.Steady) (req : CheckRequest V)
    (cond : ConditionExpr P) (st : WalkState) :
    ((evaluateCondition w req cond).from st).1 = w.conditionAnswer req cond ∧
      ((evaluateCondition w req cond).from st).2.visited = st.visited := by
  -- The two sides split on the program, its run and the type of its value in the same order.
  unfold evaluateCondition Walker.conditionAnswer
  cases cond.compiled with
  | none => exact ⟨rfl, rfl⟩
  | some program =>
    -- Both attribute lookups are answered as they would be at any other moment.
    simp only [WalkM.from_bind, WalkM.from_tryLookup, WalkM.andThen_ok,
      steady.getObjectAttributes st.lookups.length,
      steady.getSubjectAttributes (st.lookups ++ [_]).length]
    generalize w.lang.run program _ = ran
    rcases ran with cause | result
    · exact ⟨rfl, rfl⟩
    · simp only
      cases w.lang.asBool result <;> exact ⟨rfl, rfl⟩

/-- A result that grants shows its path, and one that refuses shows nothing. -/
theorem CheckResult.evidence_cases (result : CheckResult) :
    (result.allowed = true ∧ result.evidence = some result.resolutionPath) ∨
      (result.allowed = false ∧ result.evidence = none) := by
  -- The evidence is defined by the verdict.
  unfold CheckResult.evidence
  cases result.allowed <;> simp

/-- Runs that match failed with one error, or returned and visited the same keys. -/
theorem Matches.cases {run : Except Err CheckResult × WalkState}
    {search : Answer Err (List String) × List String} (matched : Matches run search) :
    (∃ e st v, run = (.error e, st) ∧ search = (.error e, v)) ∨
      ∃ result st, run = (.ok result, st) ∧ search = (.ok result.evidence, st.visited.keys) := by
  -- A failure does not match a return, whichever side it is on.
  rcases run with ⟨e | result, st⟩ <;> rcases search with ⟨e' | out, v⟩
  · obtain rfl : e = e' := matched
    exact .inl ⟨e, st, v, rfl, rfl⟩
  · exact matched.elim
  · exact matched.elim
  · obtain ⟨rfl, rfl⟩ : result.evidence = out ∧ st.visited.keys = v := matched
    exact .inr ⟨result, st, rfl, rfl⟩

/-- Going on after a refusal matches, if what comes next matches from every state. -/
theorem Matches.orElse {run : Except Err CheckResult × WalkState}
    {search : Answer Err (List String) × List String} (matched : Matches run search)
    {next : WalkState → Except Err CheckResult × WalkState}
    {rest : List String → Answer Err (List String) × List String}
    (after : ∀ st, Matches (next st) (rest st.visited.keys)) :
    Matches
      (WalkM.andThen run fun result st =>
        if result.allowed = true then (.ok result, st) else next st)
      (goOn search rest) := by
  -- Both sides read the same verdict, so both stop or both go on.
  rcases matched.cases with ⟨e, st, v, rfl, rfl⟩ | ⟨result, st, rfl, rfl⟩
  · exact rfl
  · rcases result.evidence_cases with ⟨allowed, shown⟩ | ⟨refused, shown⟩
    · rw [WalkM.andThen_ok, if_pos allowed, shown]
      exact ⟨shown, rfl⟩
    · rw [WalkM.andThen_ok, if_neg (by simp [refused]), shown]
      exact after st

/-- Going on after a grant matches, if what comes next matches from every state. -/
theorem Matches.andAlso {run : Except Err CheckResult × WalkState}
    {search : Answer Err (List String) × List String} (matched : Matches run search)
    {next : WalkState → Except Err CheckResult × WalkState}
    {rest : List String → Answer Err (List String) × List String}
    (after : ∀ st, Matches (next st) (rest st.visited.keys)) :
    Matches
      (WalkM.andThen run fun result st =>
        if (!result.allowed) = true then (.ok deny, st) else next st)
      (ifGranted search rest) := by
  -- An intersection forgets the path of a child, so its refusal is a plain one.
  rcases matched.cases with ⟨e, st, v, rfl, rfl⟩ | ⟨result, st, rfl, rfl⟩
  · exact rfl
  · rcases result.evidence_cases with ⟨allowed, shown⟩ | ⟨refused, shown⟩
    · rw [WalkM.andThen_ok, if_neg (by simp [allowed]), shown]
      exact after st
    · rw [WalkM.andThen_ok, if_pos (by simp [refused]), shown]
      exact ⟨rfl, rfl⟩

/-- Refusing after a grant matches, if what comes after a refusal matches from every state. -/
theorem Matches.unless {run : Except Err CheckResult × WalkState}
    {search : Answer Err (List String) × List String} (matched : Matches run search)
    {next : WalkState → Except Err CheckResult × WalkState}
    {rest : List String → Answer Err (List String) × List String}
    (after : ∀ st, Matches (next st) (rest st.visited.keys)) :
    Matches
      (WalkM.andThen run fun result st =>
        if result.allowed = true then (.ok deny, st) else next st)
      (ifRefused search rest) := by
  -- A grant of an excluded child refuses without its path.
  rcases matched.cases with ⟨e, st, v, rfl, rfl⟩ | ⟨result, st, rfl, rfl⟩
  · exact rfl
  · rcases result.evidence_cases with ⟨allowed, shown⟩ | ⟨refused, shown⟩
    · rw [WalkM.andThen_ok, if_pos allowed, shown]
      exact ⟨rfl, rfl⟩
    · rw [WalkM.andThen_ok, if_neg (by simp [refused]), shown]
      exact after st

section Walkers

variable {descend : CheckRequest V → PermissionDef P → WalkM CheckResult}
  {d : CheckRequest V → List String → Answer Err (List String) × List String}

/-- The recursive entry of the walkers matches the one of the search. -/
def DescentMatches (w : Walker V P) (descend : CheckRequest V → PermissionDef P → WalkM CheckResult)
    (d : CheckRequest V → List String → Answer Err (List String) × List String) : Prop :=
  ∀ req permDef st, w.schema.getPermission req.objectType req.permission = .ok permDef →
    Matches ((descend req permDef).from st) (d req st.visited.keys)

/-- The userset loop matches the items its subjects contribute. -/
theorem walkSubjects_matches (steady : w.store.Steady) (descends : DescentMatches w descend d)
    (req : CheckRequest V) (subjects : List SubjectRef) (st : WalkState) :
    Matches ((walkSubjects w descend req subjects).from st)
      (walkItems w.graph d (subjects.flatMap (w.subjectItems req)) st.visited.keys) := by
  -- By induction on the subjects, from any state, since each hop below may visit more.
  induction subjects generalizing st with
  | nil => exact ⟨rfl, rfl⟩
  | cons subj rest ih =>
    rw [List.flatMap_cons, walkSubjects]
    by_cases direct : subj.relation = ""
    · -- A direct subject was covered by the membership test and contributes nothing.
      rw [if_pos direct, Walker.subjectItems, if_pos direct]
      exact ih st
    · rw [if_neg direct, WalkM.from_bind, Walker.subjectItems, if_neg direct]
      simp only [WalkM.from_get, WalkM.andThen_ok, WalkM.from_ite]
      have tested : st.visited.has (visitKey subj.type subj.id subj.relation req.subjectType
          req.subjectID) = true ↔ (req.userset subj).key ∈ st.visited.keys :=
        st.visited.has_iff _
      cases declared : w.schema.getPermission subj.type subj.relation with
      | error e =>
        simp only [List.cons_append, List.nil_append, walkItems, Option.any_some, decide_eq_true_eq]
        by_cases visited : (req.userset subj).key ∈ st.visited.keys
        · rw [if_pos (tested.mpr visited), if_pos visited]
          exact ih st
        · rw [if_neg (mt tested.mp visited), if_neg visited, WalkM.from_bind]
          simp only [WalkM.from_tryLookup, WalkM.andThen_ok, steady.checkDirect st.lookups.length]
          -- A failed membership test is passed over, exactly as a test that says no.
          rw [Walker.memberAnswer, Walker.directAnswer]
          cases w.store.checkDirect 0 subj.type subj.id subj.relation req.subjectType
              req.subjectID with
          | error e => exact ih { st with lookups := st.lookups ++ [_] }
          | ok member =>
            cases member with
            | false => exact ih { st with lookups := st.lookups ++ [_] }
            | true => exact ⟨rfl, rfl⟩
      | ok permDef =>
        simp only [List.cons_append, List.nil_append, walkItems]
        by_cases visited : (req.userset subj).key ∈ st.visited.keys
        · rw [if_pos (tested.mpr visited), if_pos (show w.graph.key _ ∈ _ from visited)]
          exact ih st
        · rw [if_neg (mt tested.mp visited), if_neg (show w.graph.key _ ∉ _ from visited),
            WalkM.from_bind]
          simp only [WalkM.from_ite, WalkM.from_pure]
          exact (descends (req.userset subj) permDef st declared).orElse ih

/-- The target loop matches the items its targets contribute. -/
theorem walkTargets_matches (descends : DescentMatches w descend d) (req : CheckRequest V)
    (permission : String) (targets : List ObjectRef) (st : WalkState) :
    Matches ((walkTargets w descend req permission targets).from st)
      (walkItems w.graph d (targets.flatMap (w.targetItems req permission)) st.visited.keys) := by
  -- By induction on the targets, from any state.
  induction targets generalizing st with
  | nil => exact ⟨rfl, rfl⟩
  | cons target rest ih =>
    rw [List.flatMap_cons, walkTargets, WalkM.from_bind, Walker.targetItems]
    simp only [WalkM.from_get, WalkM.andThen_ok, WalkM.from_ite]
    have tested : st.visited.has (visitKey target.type target.id permission req.subjectType
        req.subjectID) = true ↔ (req.target permission target).key ∈ st.visited.keys :=
      st.visited.has_iff _
    cases declared : w.schema.getPermission target.type permission with
    | error e =>
      -- An undeclared permission is passed over on both branches of the visited test.
      simp only [List.nil_append]
      split <;> exact ih st
    | ok permDef =>
      simp only [List.cons_append, List.nil_append, walkItems]
      by_cases visited : (req.target permission target).key ∈ st.visited.keys
      · rw [if_pos (tested.mpr visited), if_pos (show w.graph.key _ ∈ _ from visited)]
        exact ih st
      · rw [if_neg (mt tested.mp visited), if_neg (show w.graph.key _ ∉ _ from visited),
          WalkM.from_bind]
        simp only [WalkM.from_ite, WalkM.from_pure]
        exact (descends (req.target permission target) permDef st declared).orElse ih

/-- A child of a permission matches the branch it opens. -/
theorem walkChild_matches (steady : w.store.Steady) (descends : DescentMatches w descend d)
    (req : CheckRequest V) (child : PermissionRef) (st : WalkState) :
    Matches ((walkChild w descend req child).from st)
      (walkItems w.graph d (w.childItems req child) st.visited.keys) := by
  -- One case for each kind of child, as the branches of the graph were defined.
  unfold walkChild Walker.childItems
  cases child.kind with
  | relation =>
    -- The membership test is the first leaf, and the subjects follow only when it says no.
    simp only [walkRelation, WalkM.from_bind, WalkM.from_lookup,
      steady.checkDirect st.lookups.length, walkItems, Option.any_none, Bool.false_eq_true, if_false,
      Walker.directAnswer]
    rcases w.store.checkDirect 0 req.objectType req.objectID child.relationRef req.subjectType
      req.subjectID with e | member
    · exact rfl
    · cases member with
      | true => exact ⟨rfl, rfl⟩
      | false =>
        simp only [WalkM.andThen_ok, Bool.false_eq_true, if_false, WalkM.from_bind,
          WalkM.from_lookup, steady.listSubjects (st.lookups ++ [_]).length, goOn]
        rcases w.store.listSubjects 0 req.objectType req.objectID child.relationRef with
          e | subjects
        · exact rfl
        · exact walkSubjects_matches steady descends req subjects
            { st with lookups := st.lookups ++ [_] ++ [_] }
  | arrow =>
    simp only [walkArrow, WalkM.from_bind, WalkM.from_lookup,
      steady.listRelatedObjects st.lookups.length]
    rcases w.store.listRelatedObjects 0 req.objectType req.objectID child.arrowRef with
      e | targets
    · exact rfl
    · exact walkTargets_matches descends req child.arrowPermission targets
        { st with lookups := st.lookups ++ [_] }
  | condition =>
    simp only [walkItems, Walker.inlineAnswer, Option.any_none, Bool.false_eq_true, if_false]
    rcases compileConditionExpr w.lang child.conditionExpr with e | cond
    · exact rfl
    · -- The evaluation makes two lookups and visits nothing.
      obtain ⟨answered, kept⟩ := evaluateCondition_steady steady req cond st
      simp only [WalkM.from_bind]
      rcases ran : (evaluateCondition w req cond).from st with ⟨out, after⟩
      rw [ran] at answered kept
      simp only at answered kept
      rw [← answered]
      rcases out with e | allowed
      · exact rfl
      · cases allowed <;> exact ⟨rfl, congrArg VisitedSet.keys kept⟩
  | other kind => exact rfl

/-- A union matches the search for a first granting branch. -/
theorem walkUnion_matches (steady : w.store.Steady) (descends : DescentMatches w descend d)
    (req : CheckRequest V) (children : List PermissionRef) (st : WalkState) :
    Matches ((walkUnion w descend req children).from st)
      (firstGrant (scan w.graph d true (children.map (w.childItems req)) st.visited.keys)) := by
  -- By induction on the children: the scan stops where the loop does.
  induction children generalizing st with
  | nil => exact ⟨rfl, rfl⟩
  | cons child rest ih =>
    rw [walkUnion, WalkM.from_bind, List.map_cons, firstGrant_scan_cons]
    simp only [WalkM.from_ite, WalkM.from_pure]
    exact (walkChild_matches steady descends req child st).orElse ih

/-- The loop of an intersection matches the scan for a refusing branch. -/
theorem walkAll_matches (steady : w.store.Steady) (descends : DescentMatches w descend d)
    (req : CheckRequest V) (children : List PermissionRef) (st : WalkState) :
    Matches ((walkAll w descend req children).from st)
      (noneStopped [] (scan w.graph d false (children.map (w.childItems req))
        st.visited.keys)) := by
  -- By induction on the children, going on as long as they grant.
  induction children generalizing st with
  | nil => exact ⟨rfl, rfl⟩
  | cons child rest ih =>
    rw [walkAll, WalkM.from_bind, List.map_cons, noneStopped_scan_false_cons]
    simp only [WalkM.from_ite, WalkM.from_pure]
    exact (walkChild_matches steady descends req child st).andAlso ih

/-- The loop over excluded children matches the scan for a granting branch. -/
theorem walkExcluded_matches (steady : w.store.Steady) (descends : DescentMatches w descend d)
    (req : CheckRequest V) (children : List PermissionRef) (st : WalkState) :
    Matches ((walkExcluded w descend req children).from st)
      (noneStopped [] (scan w.graph d true (children.map (w.childItems req))
        st.visited.keys)) := by
  -- By induction on the children, going on as long as they refuse.
  induction children generalizing st with
  | nil => exact ⟨rfl, rfl⟩
  | cons child rest ih =>
    rw [walkExcluded, WalkM.from_bind, List.map_cons, noneStopped_scan_true_cons]
    simp only [WalkM.from_ite, WalkM.from_pure]
    exact (walkChild_matches steady descends req child st).unless ih

end Walkers

/-- The recursive walk matches the search, whatever number of hops is left. -/
theorem walkPermission_matches (steady : w.store.Steady) (hops : Nat) :
    DescentMatches w (walkPermission w hops) (walk w.graph hops) := by
  -- One hop of the walk is one rule of the graph, with the operators in correspondence.
  induction hops with
  | zero => exact fun req permDef st _ => rfl
  | succ hops ih =>
    intro req permDef st declared
    have rule : w.graph.rule req = w.permissionRule req permDef := by
      simp only [Walker.graph, declared]
    have named := CompiledSchema.getPermission_name declared
    rw [walkPermission, WalkM.from_bind, walk, rule, named]
    simp only [WalkM.from_get, WalkM.andThen_ok, WalkM.from_ite, WalkM.from_pure]
    have tested := st.visited.has_iff (visitKey req.objectType req.objectID req.permission
      req.subjectType req.subjectID)
    -- The test on the visited set is the same one, made on the same key.
    by_cases visited : w.graph.key req ∈ st.visited.keys
    · rw [if_pos (tested.mpr visited), if_pos visited]
      exact ⟨rfl, rfl⟩
    · rw [if_neg (mt tested.mp visited), if_neg visited, WalkM.from_bind, WalkM.from_modify,
        WalkM.andThen_ok]
      unfold walkOperation Walker.permissionRule
      cases permDef.operation with
      | union => exact walkUnion_matches steady ih req permDef.children _
      | direct => exact walkUnion_matches steady ih req permDef.children _
      | intersect =>
        simp only [walkIntersect, walkRule, List.isEmpty_map, WalkM.from_ite, WalkM.from_pure]
        split
        · exact ⟨rfl, rfl⟩
        · exact walkAll_matches steady ih req permDef.children _
      | exclusion =>
        cases permDef.children with
        | nil => exact ⟨rfl, rfl⟩
        | cons base excluded =>
          simp only [walkExclusion, walkRule, WalkM.from_bind, WalkM.from_ite, WalkM.from_pure]
          exact (walkChild_matches steady ih req base _).andAlso
            (walkExcluded_matches steady ih req excluded)
      | other code => exact rfl

end ZanGuard
