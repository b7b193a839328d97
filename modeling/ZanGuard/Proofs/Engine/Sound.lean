import ZanGuard.Proofs.Engine.Inversion
import ZanGuard.Spec.Derives
import ZanGuard.Storage.Memory

/-! A check that grants has a derivation, on graphs of any shape and under a moving clock. -/

namespace ZanGuard

variable {V P : Type}

/-- The node a request asks about. -/
def CheckRequest.node (req : CheckRequest V) : Node :=
  { type := req.objectType, id := req.objectID, permission := req.permission }

/-- A request made for the subject of a world. -/
def World.Asks (world : World V P) (req : CheckRequest V) : Prop :=
  req.subjectType = world.subjectType ∧ req.subjectID = world.subjectID

/-- A walk that reads a world's schema and is shown its attributes. -/
structure Walker.Reads (w : Walker V P) (world : World V P) : Prop where
  schema : world.schema = w.schema
  lang : world.lang = w.lang
  objectAttrs : ∀ n type id,
    attrsOrEmpty (w.store.getObjectAttributes n type id) = world.objectAttrs type id
  subjectAttrs : ∀ n, attrsOrEmpty (w.store.getSubjectAttributes n world.subjectType
    world.subjectID) = world.subjectAttrs

/-- A walk that is shown nothing but the facts of a world. -/
structure Walker.Shows (w : Walker V P) (world : World V P) : Prop extends w.Reads world where
  direct : ∀ n type id relation,
    w.store.checkDirect n type id relation world.subjectType world.subjectID = .ok true →
      world.Direct type id relation
  subjects : ∀ n type id relation listed,
    w.store.listSubjects n type id relation = .ok listed →
      ∀ subj ∈ listed, world.Subject type id relation subj
  related : ∀ n type id relation listed,
    w.store.listRelatedObjects n type id relation = .ok listed →
      ∀ target ∈ listed, world.Related type id relation target

/-- The programs an inline condition compiles to do not read the request. -/
def IgnoresRequest (lang : ExprLang V P) (expr : String) : Prop :=
  ∀ program, lang.compile (trimSpace expr) = .ok program →
    ∀ env request, lang.run program { env with request } = lang.run program env

/-- No inline condition of the schema reads the request. -/
def CompiledSchema.IgnoresRequest (cs : CompiledSchema P) (lang : ExprLang V P) : Prop :=
  cs.All fun permDef => ∀ child ∈ permDef.children, child.kind = .condition →
    ZanGuard.IgnoresRequest lang child.conditionExpr

/-- No permission of the schema subtracts. -/
def CompiledSchema.NoExclusion (cs : CompiledSchema P) : Prop :=
  cs.All fun permDef => permDef.operation ≠ .exclusion

section Walkers

variable {w : Walker V P} {world : World V P}
  {descend : CheckRequest V → PermissionDef P → WalkM CheckResult}

/-- A condition that was evaluated ran its program over the world's attributes. -/
theorem evaluateCondition_ok (reads : w.Reads world) {req : CheckRequest V}
    (asks : world.Asks req) {cond : ConditionExpr P} {st after : WalkState} {verdict : Bool}
    (ran : (evaluateCondition w req cond).from st = (.ok verdict, after)) :
    after.visited = st.visited ∧ (cond.compiled = none → verdict = true) ∧
      ∀ program, cond.compiled = some program → ∃ value, world.lang.run program
          { object := world.objectAttrs req.objectType req.objectID,
            subject := world.subjectAttrs, request := req.context } = .ok value ∧
        world.lang.asBool value = .ok verdict := by
  -- Without a program the condition is true and nothing is loaded.
  unfold evaluateCondition at ran
  cases compiled : cond.compiled with
  | none =>
    rw [compiled] at ran
    simp only [WalkM.from_pure, Prod.mk.injEq, Except.ok.injEq] at ran
    exact ⟨by rw [← ran.2], fun _ => ran.1.symm, by simp⟩
  | some program =>
    rw [compiled] at ran
    simp only [WalkM.from_bind, WalkM.from_tryLookup, WalkM.andThen_ok] at ran
    -- What was loaded is what the world holds, whether or not the lookups succeeded.
    have object := reads.objectAttrs st.lookups.length req.objectType req.objectID
    have subject := reads.subjectAttrs
      (st.lookups ++ [Lookup.getObjectAttributes req.objectType req.objectID]).length
    rw [← asks.1, ← asks.2] at subject
    rw [object, subject, ← reads.lang] at ran
    cases evaluated : world.lang.run program
        { object := world.objectAttrs req.objectType req.objectID, subject := world.subjectAttrs,
          request := req.context } with
    | error cause => simp [evaluated] at ran
    | ok value =>
      simp only [evaluated] at ran
      cases shown : world.lang.asBool value with
      | error typeName => simp [shown] at ran
      | ok allowed =>
        simp only [shown, WalkM.from_pure, Prod.mk.injEq, Except.ok.injEq] at ran
        obtain ⟨rfl, rfl⟩ := ran
        refine ⟨rfl, by simp, ?_⟩
        intro other same
        obtain rfl := Option.some.inj same
        exact ⟨value, evaluated, shown⟩

/-- An inline condition that was evaluated says whether the condition is true. -/
theorem inlineCondition_ok (reads : w.Reads world) {req : CheckRequest V} (asks : world.Asks req)
    {expr : String} (blind : IgnoresRequest w.lang expr) {program : P}
    (compiled : w.lang.compile (trimSpace expr) = .ok program) {st after : WalkState}
    {verdict : Bool}
    (ran : (evaluateCondition w req { raw := expr, compiled := some program }).from st =
      (.ok verdict, after)) :
    after.visited = st.visited ∧
      (world.Condition req.objectType req.objectID expr ↔ verdict = true) := by
  obtain ⟨kept, -, outcome⟩ := evaluateCondition_ok reads asks ran
  obtain ⟨value, evaluated, shown⟩ := outcome program rfl
  -- The request's context does not matter to the program.
  have forgotten := blind program compiled
    { object := world.objectAttrs req.objectType req.objectID, subject := world.subjectAttrs,
      request := req.context } none
  rw [← reads.lang] at forgotten
  refine ⟨kept, ?_, ?_⟩
  · rintro ⟨other, recompiled, again, rerun, truth⟩
    rw [reads.lang, compiled] at recompiled
    obtain rfl := Except.ok.inj recompiled
    have same : again = value := Except.ok.inj (rerun.symm.trans (forgotten.trans evaluated))
    rw [same, shown] at truth
    exact Except.ok.inj truth
  · rintro rfl
    exact ⟨program, by rw [reads.lang, compiled], value, forgotten.trans evaluated, shown⟩

/-- The recursive entry grants only nodes that derive. -/
def DescentSound (w : Walker V P) (world : World V P)
    (descend : CheckRequest V → PermissionDef P → WalkM CheckResult) : Prop :=
  ∀ req permDef st result after, world.Asks req →
    w.schema.getPermission req.objectType req.permission = .ok permDef →
    (descend req permDef).from st = (.ok result, after) → result.allowed = true →
      world.Derives req.node

/-- A userset loop that grants found a userset that holds. -/
theorem walkSubjects_sound (shows : w.Shows world) (sound : DescentSound w world descend)
    {req : CheckRequest V} (asks : world.Asks req) {subjects : List SubjectRef}
    {st after : WalkState} {result : CheckResult}
    (ran : (walkSubjects w descend req subjects).from st = (.ok result, after))
    (allowed : result.allowed = true) :
    ∃ subj ∈ subjects, world.UsersetHolds world.Derives subj := by
  -- By induction on the subjects, from whatever state the loop reached.
  induction subjects generalizing st with
  | nil =>
    simp only [walkSubjects, WalkM.from_pure, Prod.mk.injEq, Except.ok.injEq] at ran
    rw [← ran.1] at allowed
    exact absurd allowed (by decide)
  | cons subj rest ih =>
    rcases walkSubjects_cons_ok ran with ⟨mid, -, later⟩ | step
    · obtain ⟨other, member, holds⟩ := ih later
      exact ⟨other, List.mem_cons_of_mem _ member, holds⟩
    · refine ⟨subj, List.mem_cons_self, ?_⟩
      -- Only a member of an undeclared userset and a grant below a declared one stop the loop.
      cases step with
      | member userset undeclared tested granted =>
        rw [asks.1, asks.2] at tested
        refine ⟨userset, .inr ⟨?_, shows.direct _ _ _ _ tested⟩⟩
        rintro ⟨permDef, declared⟩
        rw [shows.schema, undeclared] at declared
        cases declared
      | granted userset declared walked granted =>
        have derived := sound (req.userset subj) _ _ _ _ asks declared walked granted
        exact ⟨userset, .inl ⟨⟨_, shows.schema ▸ declared⟩, derived⟩⟩

/-- A target loop that grants found a target that holds. -/
theorem walkTargets_sound (shows : w.Shows world) (sound : DescentSound w world descend)
    {req : CheckRequest V} (asks : world.Asks req) {permission : String}
    {targets : List ObjectRef} {st after : WalkState} {result : CheckResult}
    (ran : (walkTargets w descend req permission targets).from st = (.ok result, after))
    (allowed : result.allowed = true) :
    ∃ target ∈ targets, world.TargetHolds world.Derives permission target := by
  -- By induction on the targets, as for the usersets but without a fallback test.
  induction targets generalizing st with
  | nil =>
    simp only [walkTargets, WalkM.from_pure, Prod.mk.injEq, Except.ok.injEq] at ran
    rw [← ran.1] at allowed
    exact absurd allowed (by decide)
  | cons target rest ih =>
    rcases walkTargets_cons_ok ran with ⟨mid, -, later⟩ | step
    · obtain ⟨other, member, holds⟩ := ih later
      exact ⟨other, List.mem_cons_of_mem _ member, holds⟩
    · cases step with
      | granted declared walked granted =>
        have derived := sound (req.target permission target) _ _ _ _ asks declared walked granted
        exact ⟨target, List.mem_cons_self, ⟨_, shows.schema ▸ declared⟩, derived⟩

/-- A child that grants holds. -/
theorem walkChild_sound (shows : w.Shows world) (sound : DescentSound w world descend)
    {req : CheckRequest V} (asks : world.Asks req) {child : PermissionRef}
    (blind : child.kind = .condition → IgnoresRequest w.lang child.conditionExpr)
    {st after : WalkState} {result : CheckResult}
    (ran : (walkChild w descend req child).from st = (.ok result, after))
    (allowed : result.allowed = true) :
    world.ChildHolds world.Derives req.objectType req.objectID child := by
  -- Each kind of child grants for the reason its own rule names.
  unfold walkChild at ran
  unfold World.ChildHolds
  cases kind : child.kind with
  | relation =>
    rw [kind] at ran
    rcases walkRelation_ok ran with ⟨-, n, tested⟩ | ⟨n, m, subjects, mid, -, listed, -, ran⟩
    · rw [asks.1, asks.2] at tested
      exact .inl (shows.direct _ _ _ _ tested)
    · obtain ⟨subj, member, holds⟩ := walkSubjects_sound shows sound asks ran allowed
      exact .inr ⟨subj, shows.subjects _ _ _ _ _ listed subj member, holds⟩
  | arrow =>
    rw [kind] at ran
    obtain ⟨n, targets, mid, listed, -, ran⟩ := walkArrow_ok ran
    obtain ⟨target, member, holds⟩ := walkTargets_sound shows sound asks ran allowed
    exact ⟨target, shows.related _ _ _ _ _ listed target member, holds⟩
  | condition =>
    rw [kind] at ran
    -- An expression that does not compile fails the walk, so a grant has a program.
    simp only [compileConditionExpr, compileCondition] at ran
    cases compiled : w.lang.compile (trimSpace child.conditionExpr) with
    | error cause => simp [compiled] at ran
    | ok program =>
      rw [compiled] at ran
      obtain ⟨verdict, mid, evaluated, ran⟩ := WalkM.from_bind_ok ran
      cases verdict with
      | false =>
        simp only [Bool.false_eq_true, if_false, WalkM.from_pure, Prod.mk.injEq,
          Except.ok.injEq] at ran
        rw [← ran.1] at allowed
        exact absurd allowed (by decide)
      | true =>
        exact (inlineCondition_ok shows.toReads asks (blind kind) compiled evaluated).2.mpr rfl
  | other name =>
    rw [kind] at ran
    simp at ran

/-- A union that grants has a child that holds. -/
theorem walkUnion_sound (shows : w.Shows world) (sound : DescentSound w world descend)
    {req : CheckRequest V} (asks : world.Asks req) {children : List PermissionRef}
    (blind : ∀ child ∈ children, child.kind = .condition →
      IgnoresRequest w.lang child.conditionExpr)
    {st after : WalkState} {result : CheckResult}
    (ran : (walkUnion w descend req children).from st = (.ok result, after))
    (allowed : result.allowed = true) :
    ∃ child ∈ children, world.ChildHolds world.Derives req.objectType req.objectID child := by
  -- By induction on the children: the first that grants ends the loop.
  induction children generalizing st with
  | nil =>
    simp only [walkUnion, WalkM.from_pure, Prod.mk.injEq, Except.ok.injEq] at ran
    rw [← ran.1] at allowed
    exact absurd allowed (by decide)
  | cons child rest ih =>
    obtain ⟨first, mid, walked, outcome⟩ := orElse_ok ran
    rcases outcome with ⟨granted, -, -⟩ | ⟨-, later⟩
    · exact ⟨child, List.mem_cons_self,
        walkChild_sound shows sound asks (blind child List.mem_cons_self) walked granted⟩
    · obtain ⟨other, member, holds⟩ :=
        ih (fun other member => blind other (List.mem_cons_of_mem _ member)) later
      exact ⟨other, List.mem_cons_of_mem _ member, holds⟩

/-- The loop of an intersection grants only when every child holds. -/
theorem walkAll_sound (shows : w.Shows world) (sound : DescentSound w world descend)
    {req : CheckRequest V} (asks : world.Asks req) {children : List PermissionRef}
    (blind : ∀ child ∈ children, child.kind = .condition →
      IgnoresRequest w.lang child.conditionExpr)
    {st after : WalkState} {result : CheckResult}
    (ran : (walkAll w descend req children).from st = (.ok result, after))
    (allowed : result.allowed = true) :
    ∀ child ∈ children, world.ChildHolds world.Derives req.objectType req.objectID child := by
  -- By induction on the children: a grant of the loop has passed every one of them.
  induction children generalizing st with
  | nil => simp
  | cons child rest ih =>
    obtain ⟨first, mid, walked, ran⟩ := WalkM.from_bind_ok ran
    rw [WalkM.from_ite] at ran
    cases granted : first.allowed with
    | false =>
      -- A child that refuses ends the loop with a refusal.
      rw [if_pos (by simp [granted]), WalkM.from_pure] at ran
      obtain ⟨same, -⟩ := Prod.mk.inj ran
      rw [← Except.ok.inj same] at allowed
      exact absurd allowed (by decide)
    | true =>
      rw [if_neg (by simp [granted])] at ran
      intro other member
      rcases List.mem_cons.mp member with rfl | later
      · exact walkChild_sound shows sound asks (blind other List.mem_cons_self) walked granted
      · exact ih (fun other member => blind other (List.mem_cons_of_mem _ member)) ran other later

end Walkers

/-- The recursive walk grants only nodes that derive, whatever number of hops is left. -/
theorem walkPermission_sound {w : Walker V P} {world : World V P} (shows : w.Shows world)
    (plain : w.schema.NoExclusion) (blind : w.schema.IgnoresRequest w.lang) (hops : Nat) :
    DescentSound w world (walkPermission w hops) := by
  -- Each hop turns grants of the children into one application of a derivation rule.
  induction hops with
  | zero =>
    intro req permDef st result after _ _ ran _
    simp [walkPermission] at ran
  | succ hops ih =>
    intro req permDef st result after asks declared ran allowed
    rcases walkPermission_ok declared ran with ⟨-, rfl, -⟩ | ⟨-, ran⟩
    · exact absurd allowed (by decide)
    · unfold walkOperation at ran
      have ignores := blind.found declared
      have filed : world.schema.getPermission req.node.type req.node.permission = .ok permDef :=
        shows.schema ▸ declared
      refine World.Derives.intro filed ?_
      unfold World.PermissionHolds
      cases operation : permDef.operation with
      | union | direct =>
        rw [operation] at ran
        exact walkUnion_sound shows ih asks ignores ran allowed
      | intersect =>
        rw [operation] at ran
        simp only [walkIntersect, WalkM.from_ite] at ran
        split at ran
        · obtain ⟨same, -⟩ := Prod.mk.inj ran
          rw [← Except.ok.inj same] at allowed
          exact absurd allowed (by decide)
        · rename_i nonempty
          exact ⟨by simpa using nonempty, walkAll_sound shows ih asks ignores ran allowed⟩
      | exclusion => exact absurd operation (plain.found declared)
      | other code =>
        rw [operation] at ran
        simp at ran

/-- The world a store shows one subject of a tenant at an instant. -/
def Memory.Store.world (s : Memory.Store V) (tc : TenantContext V) (lang : ExprLang V P)
    (cs : CompiledSchema P) (now : Time) (subjectType subjectID : String) : World V P where
  schema := cs
  lang := lang
  live t := t ∈ s.tuplesOf tc.tenantID ∧ Memory.tupleIsExpiredAt t now = false
  objectAttrs type id := attrsOrEmpty (s.getObjectAttributes (some tc) type id)
  subjectAttrs := attrsOrEmpty (s.getSubjectAttributes (some tc) subjectType subjectID)
  subjectType := subjectType
  subjectID := subjectID

namespace Memory

/-- A tuple that is live at some instant was live at every earlier one. -/
theorem live_earlier {t : RelationTuple V} {now later : Time} (order : now ≤ later)
    (live : tupleIsExpiredAt t later = false) : tupleIsExpiredAt t now = false := by
  -- A tuple without an expiry is live forever, and the others expire once.
  unfold tupleIsExpiredAt at live ⊢
  cases expiry : t.expiresAt with
  | none => rfl
  | some expiresAt =>
    rw [expiry] at live
    simp only [Bool.not_eq_eq_eq_not, Bool.not_false, decide_eq_true_eq] at live ⊢
    exact lt_of_le_of_lt order live

/-- A read that succeeded found a readable tenant and ran its body. -/
theorem Store.reading_ok {α : Type} {s : Store V} {tc : TenantContext V}
    {body : String → Except Err α} {value : α} (read : s.reading (some tc) body = .ok value) :
    s.checkTenantReadable tc.tenantID = .ok () ∧ body tc.tenantID = .ok value := by
  -- The guard comes before the body, and its error would have been the answer.
  unfold Store.reading tenantIDFromCtx at read
  simp only [bind, Except.bind] at read
  cases readable : s.checkTenantReadable tc.tenantID with
  | error e =>
    rw [readable] at read
    cases read
  | ok _ =>
    rw [readable] at read
    exact ⟨rfl, read⟩

/-- What is listed of an object and relation is read off one of its live tuples. -/
theorem Store.mem_map_liveTuples {α : Type} {s : Store V} {tenantID type id relation : String}
    {now : Time} {read : RelationTuple V → α} {a : α} :
    a ∈ (s.liveTuples tenantID type id relation now).map read ↔
      ∃ t, (t ∈ s.tuplesOf tenantID ∧ tupleIsExpiredAt t now = false) ∧ t.objectType = type ∧
        t.objectID = id ∧ t.relation = relation ∧ a = read t := by
  have live : ∀ t, t ∈ s.liveTuples tenantID type id relation now ↔
      t ∈ s.tuplesOf tenantID ∧ t.objectType = type ∧ t.objectID = id ∧ t.relation = relation ∧
        tupleIsExpiredAt t now = false := by
    intro t
    simp [Store.liveTuples, and_assoc]
  -- What is read off a live tuple, in either direction.
  rw [List.mem_map]
  constructor
  · rintro ⟨t, inside, rfl⟩
    obtain ⟨stored, hot, hoi, hr, fresh⟩ := (live t).mp inside
    exact ⟨t, ⟨stored, fresh⟩, hot, hoi, hr, rfl⟩
  · rintro ⟨t, ⟨stored, fresh⟩, hot, hoi, hr, rfl⟩
    exact ⟨t, (live t).mpr ⟨stored, hot, hoi, hr, fresh⟩, rfl⟩

/-- A lookup of an object and relation lists what is read off its live tuples. -/
theorem Store.mem_of_listed {α : Type} {s : Store V} {tc : TenantContext V}
    {type id relation : String} {now : Time} {read : RelationTuple V → α} {listed : List α} {a : α}
    (found : s.reading (some tc) (fun tenantID =>
      .ok ((s.liveTuples tenantID type id relation now).map read)) = .ok listed)
    (member : a ∈ listed) :
    ∃ t, (t ∈ s.tuplesOf tc.tenantID ∧ tupleIsExpiredAt t now = false) ∧ t.objectType = type ∧
      t.objectID = id ∧ t.relation = relation ∧ a = read t := by
  obtain ⟨-, found⟩ := Store.reading_ok found
  obtain rfl := Except.ok.inj found
  exact Store.mem_map_liveTuples.mp member

/-- A membership test that says yes has found a stored tuple that is live at its moment. -/
theorem Store.checkDirect_found {s : Store V} {tc : TenantContext V} {clock : Clock} {n : Nat}
    {type id relation subjectType subjectID : String}
    (tested : (s.lookups (some tc) clock).checkDirect n type id relation subjectType subjectID =
      .ok true) :
    ∃ t ∈ s.tuplesOf tc.tenantID, tupleIsExpiredAt t (clock n) = false ∧ t.objectType = type ∧
      t.objectID = id ∧ t.relation = relation ∧ t.subjectType = subjectType ∧
      t.subjectID = subjectID ∧ t.subjectRelation = "" := by
  -- The test compares six fields of a stored tuple, and its expiry with the clock.
  obtain ⟨-, found⟩ := Store.reading_ok tested
  simp only [Except.ok.injEq, List.any_eq_true, Bool.and_eq_true, beq_iff_eq,
    Bool.not_eq_eq_eq_not, Bool.not_true] at found
  obtain ⟨t, stored, fields, live⟩ := found
  obtain ⟨⟨⟨⟨⟨hot, hoi⟩, hr⟩, hst⟩, hsi⟩, hsr⟩ := fields
  exact ⟨t, stored, live, hot, hoi, hr, hst, hsi, hsr⟩

/-- From an instant on, the store shows only facts of that instant's world. -/
theorem Store.shows (s : Store V) (tc : TenantContext V) (e : Engine P) (lang : ExprLang V P)
    (cs : CompiledSchema P) {clock : Clock} {now : Time} (forward : ∀ n, now ≤ clock n)
    (subjectType subjectID : String) :
    (e.walker lang (s.lookups (some tc) clock) cs).Shows
      (s.world tc lang cs now subjectType subjectID) where
  schema := rfl
  lang := rfl
  objectAttrs _ _ _ := rfl
  subjectAttrs _ := rfl
  direct := by
    intro n type id relation tested
    obtain ⟨t, stored, live, fields⟩ := Store.checkDirect_found tested
    exact ⟨t, ⟨stored, live_earlier (forward n) live⟩, fields⟩
  subjects := by
    intro n type id relation listed found subj member
    obtain ⟨t, ⟨stored, live⟩, fields⟩ := Store.mem_of_listed found member
    exact ⟨t, ⟨stored, live_earlier (forward n) live⟩, fields⟩
  related := by
    intro n type id relation listed found target member
    obtain ⟨t, ⟨stored, live⟩, fields⟩ := Store.mem_of_listed found member
    exact ⟨t, ⟨stored, live_earlier (forward n) live⟩, fields⟩

end Memory

/-- A check that grants derives from tuples that were live when it began, with its gate open. -/
theorem check_sound (e : Engine P) (lang : ExprLang V P) (s : Memory.Store V)
    (tc : TenantContext V) (clock : Memory.Clock) (now : Time) (req : CheckRequest V)
    {cs : CompiledSchema P} {result : CheckResult} (forward : ∀ n, now ≤ clock n)
    (chosen : e.schemaForTenant tc = .ok cs) (plain : cs.NoExclusion)
    (blind : cs.IgnoresRequest lang)
    (checked : e.check lang (s.lookups (some tc) clock) (some tc) req = .ok result)
    (allowed : result.allowed = true) :
    (s.world tc lang cs now req.subjectType req.subjectID).Derives req.node ∧
      (s.world tc lang cs now req.subjectType req.subjectID).GateOpen req.objectType req.objectID
        req.permission req.context := by
  obtain ⟨-, after, ran⟩ := Engine.check_ok chosen checked
  obtain ⟨permDef, walked, mid, declared, walk, outcome⟩ := Walker.check_ok ran
  have shows := s.shows tc e lang cs forward req.subjectType req.subjectID
  have asks : (s.world tc lang cs now req.subjectType req.subjectID).Asks req := ⟨rfl, rfl⟩
  -- The walk granted, whichever way the gate was passed.
  have granted : walked.allowed = true := by
    rcases outcome with ⟨granted, -⟩ | ⟨-, rfl, -⟩
    · exact granted
    · exact allowed
  refine ⟨walkPermission_sound shows plain blind _ req permDef _ walked mid asks declared walk
    granted, ?_⟩
  intro other cond program found gated compiled
  obtain rfl : permDef = other := Except.ok.inj (declared.symm.trans found)
  rcases outcome with ⟨-, gate, verdict, same, evaluated, rfl⟩ | ⟨refused | ungated, -, -⟩
  · obtain rfl := Option.some.inj (same.symm.trans gated)
    cases verdict with
    | false => simp [deny] at allowed
    | true => exact (evaluateCondition_ok shows.toReads asks evaluated).2.2 program compiled
  · rw [granted] at refused
    cases refused
  · rw [ungated] at gated
    cases gated

/-- A language of the two boolean literals, enough to run a check on a concrete store. -/
def literalLang : ExprLang Bool Bool where
  compile text :=
    if text = "true" then .ok true
    else if text = "false" then .ok false
    else .error "unexpected token"
  run program _ := .ok program
  asBool value := .ok value

/-- An active tenant with a schema of its own. -/
def acme : TenantContext Bool :=
  { tenantID := "acme", tenant := { id := "acme", status := .active, schemaMode := .own } }

/-- A store that holds the given tuples for that tenant. -/
def acmeStore (tuples : List (RelationTuple Bool)) : Memory.Store Bool :=
  { Memory.Store.new with
    tenants := AList.insert "acme" acme.tenant ∅
    tuples := AList.insert "acme" tuples ∅ }

/-- An engine that has a schema loaded for that tenant. -/
def acmeEngine (cs : CompiledSchema Bool) (maxCheckDepth : Int) : Engine Bool :=
  (Engine.new { maxCheckDepth }).loadSchema "acme" cs

/-- File values under keys of their own. -/
def filed {α β : Type} (key : α → String) (value : α → β) (list : List α) : StringMap β :=
  list.foldr (fun a map => map.insert (key a) (value a)) ∅

/-- Whatever was filed came from the list. -/
theorem mem_filed {α β : Type} {key : α → String} {value : α → β} {list : List α}
    {entry : Sigma fun _ : String => β} (member : entry ∈ (filed key value list).entries) :
    ∃ a ∈ list, entry = ⟨key a, value a⟩ := by
  -- A later insertion can only drop entries filed before it.
  induction list with
  | nil => exact absurd member List.not_mem_nil
  | cons a rest ih =>
    rw [filed, List.foldr_cons, AList.entries_insert] at member
    rcases List.mem_cons.mp member with rfl | member
    · exact ⟨a, List.mem_cons_self, rfl⟩
    · obtain ⟨other, among, same⟩ := ih ((List.kerase_sublist _ _).subset member)
      exact ⟨other, List.mem_cons_of_mem _ among, same⟩

/-- A schema of the given types, each with its permissions. -/
def schemaWith (types : List (String × List (PermissionDef Bool))) : CompiledSchema Bool where
  types := filed Prod.fst
    (fun type => { name := type.1, permissions := filed PermissionDef.name id type.2 }) types
  named := by
    intro type typed permission among
    obtain ⟨given, -, rfl⟩ := mem_filed typed
    obtain ⟨permDef, -, rfl⟩ := mem_filed among
    rfl

/-- A tuple between an object and a subject. -/
def fact (objectType objectID relation subjectType subjectID : String) : RelationTuple Bool :=
  { objectType, objectID, relation, subjectType, subjectID }

/-- Folders are viewed by their viewers and by whoever views the folder above. -/
def folderSchema : CompiledSchema Bool :=
  schemaWith [("folder", [{
    name := "view", operation := .union
    children := [{ relationRef := "viewer" }, { arrowRef := "parent", arrowPermission := "view" }]
    condition := some { raw := "true", compiled := some true } }])]

/-- Two folders that are each other's parents. -/
def folderLoop : List (RelationTuple Bool) :=
  [fact "folder" "a" "parent" "folder" "b", fact "folder" "b" "parent" "folder" "a",
   { fact "folder" "b" "viewer" "user" "u" with expiresAt := some 5 }]

/-- A request to view the first folder of the loop. -/
def folderRequest : CheckRequest Bool :=
  { objectType := "folder", objectID := "a", permission := "view",
    subjectType := "user", subjectID := "u" }

/-- A request to view the document. -/
def docRequest : CheckRequest Bool :=
  { objectType := "doc", objectID := "1", permission := "view",
    subjectType := "user", subjectID := "u" }

/-- The viewer of one folder of a loop derives the other, while the clock ticks. -/
theorem check_sound_folderLoop :
    ((acmeStore folderLoop).world acme literalLang folderSchema 0 "user" "u").Derives
        { type := "folder", id := "a", permission := "view" } ∧
      ((acmeStore folderLoop).world acme literalLang folderSchema 0 "user" "u").GateOpen
        "folder" "a" "view" none :=
  check_sound (acmeEngine folderSchema 25) literalLang (acmeStore folderLoop) acme
    (fun n => if n < 2 then 1 else 4) 0 folderRequest (by intro n; split <;> decide) rfl
    (by unfold CompiledSchema.NoExclusion; decide) (fun _ _ _ _ _ _ _ _ _ _ _ => rfl)
    (show _ = Except.ok (allow ["folder:b#viewer@user:u"]) from rfl) rfl

end ZanGuard
