import ZanGuard.Proofs.Engine.Monad

/-! What a walker must have done when it returned without an error. -/

namespace ZanGuard

variable {V P : Type} {w : Walker V P}
  {descend : CheckRequest V → PermissionDef P → WalkM CheckResult}

/-- The visit key of the node a request is about. -/
def CheckRequest.key (req : CheckRequest V) : String :=
  visitKey req.objectType req.objectID req.permission req.subjectType req.subjectID

/-- The walk makes the key of a declared permission with the permission's own name. -/
theorem CheckRequest.visitKey_declared {cs : CompiledSchema P} {req : CheckRequest V}
    {permDef : PermissionDef P}
    (declared : cs.getPermission req.objectType req.permission = .ok permDef) :
    visitKey req.objectType req.objectID permDef.name req.subjectType req.subjectID = req.key := by
  rw [CompiledSchema.getPermission_name declared, CheckRequest.key]

/-- The request made for a userset, which drops the context. -/
def CheckRequest.userset (req : CheckRequest V) (subj : SubjectRef) : CheckRequest V :=
  { objectType := subj.type, objectID := subj.id, permission := subj.relation,
    subjectType := req.subjectType, subjectID := req.subjectID }

/-- The request made for an arrow's target, which keeps the context. -/
def CheckRequest.target (req : CheckRequest V) (permission : String) (target : ObjectRef) :
    CheckRequest V :=
  { objectType := target.type, objectID := target.id, permission := permission,
    subjectType := req.subjectType, subjectID := req.subjectID, context := req.context }

/-- A lookup that succeeded shows its answer and leaves the visited set alone. -/
theorem lookup_ok {α : Type} {call : Lookup} {answer : Nat → Except Err α} {st after : WalkState}
    {value : α} (ran : (lookup call answer).from st = (.ok value, after)) :
    answer st.lookups.length = .ok value ∧ after.visited = st.visited := by
  -- A lookup only appends to the lookups made.
  rw [WalkM.from_lookup] at ran
  obtain ⟨answered, rfl⟩ := Prod.mk.inj ran
  exact ⟨answered, rfl⟩

/-- The tail shared by every loop that stops at the first grant. -/
theorem orElse_ok {first rest : WalkM CheckResult} {st after : WalkState} {result : CheckResult}
    (ran : (first >>= fun r => if r.allowed = true then pure r else rest).from st =
      (.ok result, after)) :
    ∃ r mid, first.from st = (.ok r, mid) ∧
      ((r.allowed = true ∧ result = r ∧ after = mid) ∨
        (r.allowed = false ∧ rest.from mid = (.ok result, after))) := by
  -- Peel off the first step, then follow the test on its result.
  obtain ⟨r, mid, done, next⟩ := WalkM.from_bind_ok ran
  refine ⟨r, mid, done, ?_⟩
  rw [WalkM.from_ite] at next
  cases granted : r.allowed with
  | true =>
    rw [if_pos granted, WalkM.from_pure] at next
    obtain ⟨same, rfl⟩ := Prod.mk.inj next
    exact .inl ⟨rfl, (Except.ok.inj same).symm, rfl⟩
  | false =>
    rw [if_neg (by simp [granted])] at next
    exact .inr ⟨rfl, next⟩

/-- How one subject of a relation was dealt with before the next one. -/
inductive SubjectStep (w : Walker V P)
    (descend : CheckRequest V → PermissionDef P → WalkM CheckResult) (req : CheckRequest V)
    (subj : SubjectRef) (st : WalkState) : Option CheckResult → WalkState → Prop
  /-- A direct subject is not a userset. -/
  | direct (plain : subj.relation = "") : SubjectStep w descend req subj st none st
  /-- The userset was visited before. -/
  | visited (userset : subj.relation ≠ "") (met : st.visited.has (req.userset subj).key = true) :
      SubjectStep w descend req subj st none st
  /-- An undeclared userset was tested, and the test said no or failed. -/
  | refusedMember (userset : subj.relation ≠ "") {e : Err}
      (undeclared : w.schema.getPermission subj.type subj.relation = .error e) {n : Nat}
      (tested : w.store.checkDirect n subj.type subj.id subj.relation req.subjectType
        req.subjectID ≠ .ok true) {after : WalkState} (kept : after.visited = st.visited) :
      SubjectStep w descend req subj st none after
  /-- An undeclared userset has the subject as a member. -/
  | member (userset : subj.relation ≠ "") {e : Err}
      (undeclared : w.schema.getPermission subj.type subj.relation = .error e) {n : Nat}
      (tested : w.store.checkDirect n subj.type subj.id subj.relation req.subjectType
        req.subjectID = .ok true) {result : CheckResult} (granted : result.allowed = true)
      {after : WalkState} : SubjectStep w descend req subj st (some result) after
  /-- The walk below a declared userset refused. -/
  | refused (userset : subj.relation ≠ "") {permDef : PermissionDef P}
      (declared : w.schema.getPermission subj.type subj.relation = .ok permDef)
      {sub : CheckResult} {after : WalkState}
      (walked : (descend (req.userset subj) permDef).from st = (.ok sub, after))
      (refused : sub.allowed = false) : SubjectStep w descend req subj st none after
  /-- The walk below a declared userset granted. -/
  | granted (userset : subj.relation ≠ "") {permDef : PermissionDef P}
      (declared : w.schema.getPermission subj.type subj.relation = .ok permDef)
      {sub : CheckResult} {after : WalkState}
      (walked : (descend (req.userset subj) permDef).from st = (.ok sub, after))
      (granted : sub.allowed = true) : SubjectStep w descend req subj st (some sub) after

/-- A userset loop that returned dealt with its first subject, and with the rest if that passed. -/
theorem walkSubjects_cons_ok {req : CheckRequest V} {subj : SubjectRef} {rest : List SubjectRef}
    {st after : WalkState} {result : CheckResult}
    (ran : (walkSubjects w descend req (subj :: rest)).from st = (.ok result, after)) :
    (∃ mid, SubjectStep w descend req subj st none mid ∧
      (walkSubjects w descend req rest).from mid = (.ok result, after)) ∨
    SubjectStep w descend req subj st (some result) after := by
  -- Follow the source: skip direct subjects, then visited ones, then resolve the userset.
  rw [walkSubjects] at ran
  by_cases plain : subj.relation = ""
  · rw [if_pos plain] at ran
    exact .inl ⟨st, .direct plain, ran⟩
  · rw [if_neg plain] at ran
    obtain ⟨seen, mid, read, ran⟩ := WalkM.from_bind_ok ran
    -- The visited set that is tested is the one at the start of the step.
    rw [WalkM.from_get] at read
    obtain ⟨same, rfl⟩ := Prod.mk.inj read
    obtain rfl := Except.ok.inj same
    rw [WalkM.from_ite] at ran
    split at ran
    · rename_i met
      exact .inl ⟨st, .visited plain met, ran⟩
    · cases found : w.schema.getPermission subj.type subj.relation with
      | error e =>
        -- The fallback test never fails the walk: an error is passed over like a no.
        rw [found] at ran
        simp only [WalkM.from_bind, WalkM.from_tryLookup, WalkM.andThen_ok] at ran
        cases tested : w.store.checkDirect st.lookups.length subj.type subj.id subj.relation
            req.subjectType req.subjectID with
        | error cause =>
          rw [tested] at ran
          exact .inl ⟨{ st with lookups := st.lookups ++ [_] },
            .refusedMember plain found (by rw [tested]; simp) rfl, ran⟩
        | ok member =>
          rw [tested] at ran
          cases member with
          | false =>
            exact .inl ⟨{ st with lookups := st.lookups ++ [_] },
              .refusedMember plain found (by rw [tested]; simp) rfl, ran⟩
          | true =>
            simp only [if_true, WalkM.from_pure] at ran
            obtain ⟨same, -⟩ := Prod.mk.inj ran
            obtain rfl := Except.ok.inj same
            exact .inr (.member plain found tested rfl)
      | ok permDef =>
        rw [found] at ran
        obtain ⟨sub, mid, walked, outcome⟩ := orElse_ok ran
        rcases outcome with ⟨granted, rfl, rfl⟩ | ⟨refused, ran⟩
        · exact .inr (.granted plain found walked granted)
        · exact .inl ⟨mid, .refused plain found walked refused, ran⟩

/-- How one target of an arrow was dealt with before the next one. -/
inductive TargetStep (w : Walker V P)
    (descend : CheckRequest V → PermissionDef P → WalkM CheckResult) (req : CheckRequest V)
    (permission : String) (target : ObjectRef) (st : WalkState) :
    Option CheckResult → WalkState → Prop
  /-- The target was visited before. -/
  | visited (met : st.visited.has (req.target permission target).key = true) :
      TargetStep w descend req permission target st none st
  /-- The target's type does not have the permission. -/
  | undeclared {e : Err} (undeclared : w.schema.getPermission target.type permission = .error e) :
      TargetStep w descend req permission target st none st
  /-- The walk below the target refused. -/
  | refused {permDef : PermissionDef P}
      (declared : w.schema.getPermission target.type permission = .ok permDef)
      {sub : CheckResult} {after : WalkState}
      (walked : (descend (req.target permission target) permDef).from st = (.ok sub, after))
      (refused : sub.allowed = false) : TargetStep w descend req permission target st none after
  /-- The walk below the target granted. -/
  | granted {permDef : PermissionDef P}
      (declared : w.schema.getPermission target.type permission = .ok permDef)
      {sub : CheckResult} {after : WalkState}
      (walked : (descend (req.target permission target) permDef).from st = (.ok sub, after))
      (granted : sub.allowed = true) :
      TargetStep w descend req permission target st (some sub) after

/-- A target loop that returned dealt with its first target, and with the rest if that passed. -/
theorem walkTargets_cons_ok {req : CheckRequest V} {permission : String} {target : ObjectRef}
    {rest : List ObjectRef} {st after : WalkState} {result : CheckResult}
    (ran : (walkTargets w descend req permission (target :: rest)).from st = (.ok result, after)) :
    (∃ mid, TargetStep w descend req permission target st none mid ∧
      (walkTargets w descend req permission rest).from mid = (.ok result, after)) ∨
    TargetStep w descend req permission target st (some result) after := by
  -- Unlike usersets, targets have neither a direct form nor a fallback test.
  rw [walkTargets] at ran
  obtain ⟨seen, mid, read, ran⟩ := WalkM.from_bind_ok ran
  rw [WalkM.from_get] at read
  obtain ⟨same, rfl⟩ := Prod.mk.inj read
  obtain rfl := Except.ok.inj same
  rw [WalkM.from_ite] at ran
  split at ran
  · rename_i met
    exact .inl ⟨st, .visited met, ran⟩
  · cases found : w.schema.getPermission target.type permission with
    | error e =>
      rw [found] at ran
      exact .inl ⟨st, .undeclared found, ran⟩
    | ok permDef =>
      rw [found] at ran
      obtain ⟨sub, mid, walked, outcome⟩ := orElse_ok ran
      rcases outcome with ⟨granted, rfl, rfl⟩ | ⟨refused, ran⟩
      · exact .inr (.granted found walked granted)
      · exact .inl ⟨mid, .refused found walked refused, ran⟩

/-- A relation that returned either found a direct tuple or went through the listed subjects. -/
theorem walkRelation_ok {req : CheckRequest V} {relation : String} {st after : WalkState}
    {result : CheckResult}
    (ran : (walkRelation w descend req relation).from st = (.ok result, after)) :
    (result.allowed = true ∧ ∃ n, w.store.checkDirect n req.objectType req.objectID relation
      req.subjectType req.subjectID = .ok true) ∨
    ∃ n m subjects mid, w.store.checkDirect n req.objectType req.objectID relation
        req.subjectType req.subjectID = .ok false ∧
      w.store.listSubjects m req.objectType req.objectID relation = .ok subjects ∧
      mid.visited = st.visited ∧
      (walkSubjects w descend req subjects).from mid = (.ok result, after) := by
  -- The membership test comes first, and only its refusal lists the subjects.
  obtain ⟨ok, mid, tested, ran⟩ := WalkM.from_bind_ok ran
  obtain ⟨answered, kept⟩ := lookup_ok tested
  rw [WalkM.from_ite] at ran
  cases ok with
  | true =>
    rw [if_pos rfl, WalkM.from_pure] at ran
    obtain ⟨same, -⟩ := Prod.mk.inj ran
    obtain rfl := Except.ok.inj same
    exact .inl ⟨rfl, _, answered⟩
  | false =>
    rw [if_neg (by simp)] at ran
    obtain ⟨subjects, later, listed, ran⟩ := WalkM.from_bind_ok ran
    obtain ⟨found, still⟩ := lookup_ok listed
    exact .inr ⟨_, _, subjects, later, answered, found, still.trans kept, ran⟩

/-- An arrow that returned went through the targets that were listed. -/
theorem walkArrow_ok {req : CheckRequest V} {relation permission : String} {st after : WalkState}
    {result : CheckResult}
    (ran : (walkArrow w descend req relation permission).from st = (.ok result, after)) :
    ∃ n targets mid, w.store.listRelatedObjects n req.objectType req.objectID relation =
        .ok targets ∧
      mid.visited = st.visited ∧
      (walkTargets w descend req permission targets).from mid = (.ok result, after) := by
  -- Listing the targets is the only step before the loop.
  obtain ⟨targets, mid, listed, ran⟩ := WalkM.from_bind_ok ran
  obtain ⟨found, kept⟩ := lookup_ok listed
  exact ⟨_, targets, mid, found, kept, ran⟩

/-- A permission that returned refused a visited node, or entered it and ran its operation. -/
theorem walkPermission_ok {hops : Nat} {req : CheckRequest V} {permDef : PermissionDef P}
    {st after : WalkState} {result : CheckResult}
    (declared : w.schema.getPermission req.objectType req.permission = .ok permDef)
    (ran : (walkPermission w (hops + 1) req permDef).from st = (.ok result, after)) :
    (st.visited.has req.key = true ∧ result = deny ∧ after = st) ∨
    (st.visited.has req.key = false ∧ (walkOperation w (walkPermission w hops) req permDef).from
      { st with visited := st.visited.add req.key } = (.ok result, after)) := by
  -- The walk keys the node by the permission's own name, which is the requested one.
  have named := CompiledSchema.getPermission_name declared
  rw [walkPermission, WalkM.from_bind, WalkM.from_get, WalkM.andThen_ok, WalkM.from_ite,
    named] at ran
  split at ran
  · rename_i visited
    obtain ⟨same, kept⟩ := Prod.mk.inj ran
    exact .inl ⟨visited, (Except.ok.inj same).symm, kept.symm⟩
  · rename_i unvisited
    rw [WalkM.from_bind, WalkM.from_modify, WalkM.andThen_ok] at ran
    exact .inr ⟨Bool.eq_false_iff.mpr unvisited, ran⟩

/-- A check that returned walked its permission, and opened the gate only after a grant. -/
theorem Walker.check_ok {req : CheckRequest V} {st after : WalkState} {result : CheckResult}
    (ran : (w.check req).from st = (.ok result, after)) :
    ∃ permDef walked mid,
      w.schema.getPermission req.objectType req.permission = .ok permDef ∧
      (w.permissionAt 0 req permDef).from st = (.ok walked, mid) ∧
      ((walked.allowed = true ∧ ∃ cond verdict, permDef.condition = some cond ∧
          (evaluateCondition w req cond).from mid = (.ok verdict, after) ∧
          result = if verdict = true then walked else deny) ∨
        ((walked.allowed = false ∨ permDef.condition = none) ∧ result = walked ∧ after = mid)) := by
  -- The check stops at an undeclared permission, so there is one to walk.
  unfold Walker.check at ran
  cases declared : w.schema.getPermission req.objectType req.permission with
  | error e => simp [declared] at ran
  | ok permDef =>
    rw [declared] at ran
    obtain ⟨walked, mid, done, ran⟩ := WalkM.from_bind_ok ran
    refine ⟨permDef, walked, mid, rfl, done, ?_⟩
    cases granted : walked.allowed with
    | false =>
      -- A refusal is returned as it is, without a look at the gate.
      rw [granted] at ran
      obtain ⟨same, kept⟩ := Prod.mk.inj ran
      exact .inr ⟨.inl rfl, (Except.ok.inj same).symm, kept.symm⟩
    | true =>
      rw [granted] at ran
      cases gate : permDef.condition with
      | none =>
        rw [gate] at ran
        obtain ⟨same, kept⟩ := Prod.mk.inj ran
        exact .inr ⟨.inr rfl, (Except.ok.inj same).symm, kept.symm⟩
      | some cond =>
        rw [gate] at ran
        obtain ⟨verdict, later, evaluated, ran⟩ := WalkM.from_bind_ok ran
        -- Wrapping the error of the evaluation does not touch a verdict.
        rw [WalkM.from_adapt] at evaluated
        cases outcome : (evaluateCondition w req cond).from mid with
        | mk out reached =>
          rw [outcome] at evaluated
          obtain ⟨same, rfl⟩ := Prod.mk.inj evaluated
          cases out with
          | error e => simp [Except.mapError] at same
          | ok value =>
            obtain rfl := Except.ok.inj same
            rw [WalkM.from_ite] at ran
            cases value with
            | false =>
              rw [if_pos (by simp)] at ran
              obtain ⟨same, rfl⟩ := Prod.mk.inj ran
              exact .inl ⟨rfl, cond, false, rfl, outcome, (Except.ok.inj same).symm⟩
            | true =>
              rw [if_neg (by simp)] at ran
              obtain ⟨same, rfl⟩ := Prod.mk.inj ran
              exact .inl ⟨rfl, cond, true, rfl, outcome, (Except.ok.inj same).symm⟩

/-- The walk a check runs once its tenant and schema are known. -/
def Engine.walker (e : Engine P) (lang : ExprLang V P) (store : Lookups V)
    (cs : CompiledSchema P) : Walker V P :=
  { cfg := e.cfg, store, schema := cs, lang }

/-- Once tenant and schema are known, a check is its walk from the start. -/
theorem Engine.check_eq {e : Engine P} {lang : ExprLang V P} {store : Lookups V}
    {tc : TenantContext V} {req : CheckRequest V} {cs : CompiledSchema P}
    (passes : checkTenant (some tc) = .ok tc) (chosen : e.schemaForTenant tc = .ok cs) :
    e.check lang store (some tc) req =
      (((e.walker lang store cs).check req).from .start).1 := by
  -- The guards only read the tenant, and the schema is chosen before the walk starts.
  unfold Engine.check
  rw [passes]
  simp only [bind, Except.bind, chosen]
  rfl

/-- A depth limit that is not negative leaves a hop for the root. -/
theorem Walker.hopsAt_zero (deep : 0 ≤ w.cfg.maxCheckDepth) : ∃ hops, w.hopsAt 0 = hops + 1 := by
  refine ⟨w.cfg.maxCheckDepth.toNat, ?_⟩
  unfold Walker.hopsAt
  omega

/-- A check is refused with what its tenant is refused with. -/
theorem Engine.check_refused {e : Engine P} {lang : ExprLang V P} {store : Lookups V}
    {ctx : Context V} {req : CheckRequest V} {refused : Err}
    (failed : checkTenant ctx = .error refused) :
    e.check lang store ctx req = .error refused := by
  -- The guards come before the schema and the walk.
  unfold Engine.check
  rw [failed]
  rfl

/-- A tenant that passes is the tenant of the context. -/
theorem checkTenant_same {tc passed : TenantContext V}
    (found : checkTenant (some tc) = .ok passed) : passed = tc := by
  -- Deleted and unreadable tenants fail, and otherwise the context is handed on.
  simp only [checkTenant] at found
  split at found
  · cases found
  · split at found
    · cases found
    · exact (Except.ok.inj found).symm

/-- A tenant is refused for being absent, for being deleted, or for its status. -/
theorem checkTenant_error {ctx : Context V} {e : Err} (refused : checkTenant ctx = .error e) :
    e = .noTenantContext ∨ e = .tenantDeleted ∨ ∃ id status, e = .tenantNotReadable id status := by
  unfold checkTenant at refused
  split at refused
  · exact .inl (Except.error.inj refused).symm
  · split at refused
    · exact .inr (.inl (Except.error.inj refused).symm)
    · split at refused
      · exact .inr (.inr ⟨_, _, (Except.error.inj refused).symm⟩)
      · cases refused

/-- A check that returned let its tenant pass, and ran the walk of that tenant's schema. -/
theorem Engine.check_ok {e : Engine P} {lang : ExprLang V P} {store : Lookups V}
    {tc : TenantContext V} {req : CheckRequest V} {cs : CompiledSchema P} {result : CheckResult}
    (chosen : e.schemaForTenant tc = .ok cs)
    (checked : e.check lang store (some tc) req = .ok result) :
    checkTenant (some tc) = .ok tc ∧
      ∃ after, ((e.walker lang store cs).check req).from .start = (.ok result, after) := by
  -- A tenant that does not pass fails the check before any walk.
  cases passed : checkTenant (some tc) with
  | error err =>
    unfold Engine.check at checked
    rw [passed] at checked
    cases checked
  | ok other =>
    obtain rfl := checkTenant_same passed
    refine ⟨rfl, ?_⟩
    rw [Engine.check_eq passed chosen] at checked
    cases outcome : ((e.walker lang store cs).check req).from .start with
    | mk out after =>
      rw [outcome] at checked
      obtain rfl : out = .ok result := checked
      exact ⟨after, rfl⟩

end ZanGuard
