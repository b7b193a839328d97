import ZanGuard.Proofs.Engine.Congruence
import ZanGuard.Proofs.Engine.Sound
import ZanGuard.Proofs.Storage.Live
import ZanGuard.Schema.Validator

/-! What the passes of an upload rule out at check time, and what they let through. -/

namespace ZanGuard

variable {V P : Type}

/-- An error that stems from the text of the schema and not from what is asked or stored. -/
def Err.stemsFromSchema : Err → Bool
  | .unknownPermissionOperation _ | .unknownPermissionRefKind _ | .compileExpression _ _ => true
  | .conditionEvaluation inner => inner.stemsFromSchema
  | _ => false

/-- Every inline condition is one the expression compiler takes. -/
def CompiledSchema.InlineCompile (cs : CompiledSchema P) (lang : ExprLang V P) : Prop :=
  cs.All fun permDef => ∀ child ∈ permDef.children, child.kind = .condition →
    ∃ program, lang.compile (trimSpace child.conditionExpr) = .ok program

/-! ### What the compiler guarantees -/

/-- A compiled permission has one of the declared operations. -/
theorem compileOperation_declared {name : String} {raw : RawPermission} {operation : PermOp}
    {children : List PermissionRef}
    (ran : compileOperation name raw = .ok (operation, children)) (code : Int) :
    operation ≠ .other code := by
  -- Each form that is filled in chooses an operation of its own.
  unfold compileOperation at ran
  split at ran
  · obtain ⟨rfl, -⟩ := Prod.mk.inj (Except.ok.inj ran)
    exact PermOp.noConfusion
  have chosen : ∀ {op : PermOp} {items : List String},
      (op, ·) <$> items.mapM parsePermissionRef = .ok (operation, children) → operation = op := by
    intro op items ran
    obtain ⟨parsed, -, same⟩ := Except.of_map_ok ran
    exact (Prod.mk.inj same).1.symm
  split at ran
  · rw [chosen ran]
    exact PermOp.noConfusion
  split at ran
  · rw [chosen ran]
    exact PermOp.noConfusion
  split at ran
  · rw [chosen ran]
    exact PermOp.noConfusion
  · cases ran

/-- The types of an accepted schema are those the compiler made. -/
theorem acceptSchema_types {yaml : YamlDecoder} {lang : ExprLang V P} {data : List UInt8}
    {now : Time} {cs : CompiledSchema P} (accepted : acceptSchema yaml lang data now = .ok cs) :
    ∃ raw, compileTypes lang raw = .ok cs.types := by
  obtain ⟨raw, -, accepted⟩ := Except.of_bind_ok accepted
  obtain ⟨compiled, made, accepted⟩ := Except.of_bind_ok accepted
  -- A schema is accepted as it was compiled, if validation finds nothing.
  refine ⟨raw, ?_⟩
  split at accepted
  · obtain rfl := Except.ok.inj accepted
    unfold compile at made
    split at made
    · cases made
    · rename_i types ran
      rw [← Except.ok.inj made]
      exact ran
  · cases accepted

/-- No permission of an accepted schema has an operation the walk does not know. -/
theorem acceptSchema_operation {yaml : YamlDecoder} {lang : ExprLang V P} {data : List UInt8}
    {now : Time} {cs : CompiledSchema P} (accepted : acceptSchema yaml lang data now = .ok cs)
    {objectType permission : String} {permDef : PermissionDef P}
    (declared : cs.getPermission objectType permission = .ok permDef) (code : Int) :
    permDef.operation ≠ .other code := by
  obtain ⟨raw, compiled⟩ := acceptSchema_types accepted
  obtain ⟨td, typed, filed⟩ := CompiledSchema.getPermission_mem declared
  obtain ⟨rawPerm, ran⟩ := compileTypes_permission compiled _ typed _ filed
  exact compileOperation_declared (compilePermission_ok ran).2 code

/-! ### Checks that end with an error of another kind -/

/-- Compiling an inline condition can fail in one way only. -/
theorem compileConditionExpr_error {lang : ExprLang V P} {raw : String} {e : Err}
    (failed : compileConditionExpr lang raw = .error e) :
    ∃ cause, lang.compile (trimSpace raw) = .error cause ∧
      e = .compileExpression (trimSpace raw) cause := by
  unfold compileConditionExpr compileCondition at failed
  dsimp only at failed
  cases compiled : lang.compile (trimSpace raw) with
  | ok program => simp [compiled] at failed
  | error cause =>
    simp only [compiled, Except.error.injEq] at failed
    exact ⟨cause, rfl, failed.symm⟩

/-- A step whose errors do not stem from the schema. -/
def Clean {α : Type} (step : WalkM α) : Prop :=
  ∀ st e after, step.from st = (.error e, after) → e.stemsFromSchema = false

/-- Cleanliness is kept by everything a walk does besides lookups. -/
theorem clean_relation :
    StepRelation (·.stemsFromSchema = false) fun step _ => Clean step where
  pure _ _ _ _ ran := by cases ran
  throw e clean st error after ran := by
    rw [WalkM.from_throw] at ran
    obtain ⟨same, -⟩ := Prod.mk.inj ran
    rw [← Except.error.inj same]
    exact clean
  bind := by
    intro α β first _ next _ head tail st e after ran
    rw [WalkM.from_bind] at ran
    cases outcome : first.from st with
    | mk answer mid =>
      rw [outcome] at ran
      cases answer with
      | error early =>
        obtain ⟨same, -⟩ := Prod.mk.inj ran
        rw [← Except.error.inj same]
        exact head st early mid outcome
      | ok a => exact tail a mid e after ran
  get _ _ _ ran := by cases ran
  mark _ _ _ _ ran := by cases ran
  gate := by
    intro α step _ inner st e after ran
    rw [WalkM.from_adapt] at ran
    obtain ⟨same, -⟩ := Prod.mk.inj ran
    cases outcome : (step.from st).1 with
    | ok value => simp [outcome, Except.mapError] at same
    | error early =>
      -- The wrapper is looked through.
      simp only [outcome, Except.mapError, Except.error.injEq] at same
      rw [← same]
      exact inner st early (step.from st).2 (Prod.ext outcome rfl)

/-- The walks of an accepted schema whose inline conditions compile throw clean errors only. -/
theorem acceptSchema_mayThrow {yaml : YamlDecoder} {w : Walker V P} {data : List UInt8}
    {now : Time} (accepted : acceptSchema yaml w.lang data now = .ok w.schema)
    (inline : w.schema.InlineCompile w.lang) : w.MayThrow (·.stemsFromSchema = false) where
  depth := rfl
  undeclared := by
    intro objectType permission e missing
    unfold CompiledSchema.getPermission at missing
    split at missing
    · rw [← Except.error.inj missing]
      rfl
    · split at missing
      · rw [← Except.error.inj missing]
        rfl
      · cases missing
  operation := by
    intro objectType permission permDef code declared other
    exact absurd other (acceptSchema_operation accepted declared code)
  inline := by
    intro objectType permission permDef declared child among kind e failed
    -- The compiler would have to reject what it takes.
    obtain ⟨program, taken⟩ := inline.found declared child among kind
    obtain ⟨cause, rejected, -⟩ := compileConditionExpr_error failed
    rw [taken] at rejected
    cases rejected
  evaluate _ _ := rfl
  notBool _ _ := rfl

namespace Memory

/-- A guarded read fails with an error of its guard or of its body. -/
theorem Store.reading_clean {s : Store V} {ctx : Context V} {α : Type}
    {body : String → Except Err α}
    (clean : ∀ tenantID e, body tenantID = .error e → e.stemsFromSchema = false) {e : Err}
    (failed : s.reading ctx body = .error e) : e.stemsFromSchema = false := by
  unfold Store.reading tenantIDFromCtx at failed
  cases ctx with
  | none =>
    rw [← Except.error.inj failed]
    rfl
  | some tc =>
    simp only [bind, Except.bind, Store.checkTenantReadable] at failed
    split at failed
    · -- The guard knows two errors.
      rename_i guard
      split at guard
      · rw [← Except.error.inj failed, ← Except.error.inj guard]
        rfl
      · split at guard
        · rw [← Except.error.inj failed, ← Except.error.inj guard]
          rfl
        · cases guard
    · exact clean _ _ failed

/-- A lookup of the store whose failure ends the check is clean. -/
theorem clean_lookup {α : Type} {call : Lookup} {answer : Nat → Except Err α}
    (clean : ∀ n e, answer n = .error e → e.stemsFromSchema = false) :
    Clean (lookup call answer) := by
  intro st e after ran
  rw [WalkM.from_lookup] at ran
  exact clean _ e (Prod.mk.inj ran).1

/-- Handing on a part of a result adds no error. -/
theorem Clean.map {α β : Type} {step : WalkM α} (clean : Clean step) (part : α → β) :
    Clean (part <$> step) := by
  intro st e after ran
  rw [map_eq_pure_bind, WalkM.from_bind] at ran
  -- Only the step itself can fail, not what is made of its answer.
  cases outcome : step.from st with
  | mk answer mid =>
    rw [outcome] at ran
    cases answer with
    | ok a => cases ran
    | error early =>
      obtain ⟨same, -⟩ := Prod.mk.inj ran
      rw [← Except.error.inj same]
      exact clean st early mid outcome

/-- A lookup whose failure is swallowed has no error at all. -/
theorem clean_tryLookup {α β : Type} {call : Lookup} {answer : Nat → Except Err α}
    {part : Except Err α → β} : Clean (part <$> tryLookup call answer) := by
  intro st e after ran
  cases ran

/-- The lookups of the in-memory store are clean, whatever it holds. -/
theorem Store.lookups_clean (s : Store V) (ctx : Context V) (clock : Clock)
    (schema : CompiledSchema P) (subjectType subjectID : String) :
    Lookups.Related (fun step _ => Clean step) schema subjectType subjectID
      (s.lookups ctx clock) (s.lookups ctx clock) where
  direct _ _ _ := clean_lookup fun _ _ failed =>
    Store.reading_clean (fun _ _ none => by cases none) failed
  member _ _ _ := clean_tryLookup
  subjects _ _ _ := Clean.map (clean_lookup fun _ _ failed =>
    Store.reading_clean (fun _ _ none => by cases none) failed) _
  related _ _ _ _ := clean_lookup fun _ _ failed =>
    Store.reading_clean (fun _ _ none => by cases none) failed
  objectAttrs _ _ := clean_tryLookup
  subjectAttrs := clean_tryLookup

end Memory

/-- Checks of an accepted schema whose inline conditions compile end with clean errors only. -/
theorem Engine.check_clean {yaml : YamlDecoder} {lang : ExprLang V P} {data : List UInt8}
    {now : Time} {cs : CompiledSchema P} (accepted : acceptSchema yaml lang data now = .ok cs)
    (inline : cs.InlineCompile lang) {e : Engine P} {tc : TenantContext V}
    (chosen : e.schemaForTenant tc = .ok cs) {s : Memory.Store V} {clock : Memory.Clock}
    {req : CheckRequest V} {err : Err}
    (failed : e.check lang (s.lookups (some tc) clock) (some tc) req = .error err) :
    err.stemsFromSchema = false := by
  cases passes : checkTenant (some tc) with
  | error refused =>
    -- A tenant that is turned away never gets to its schema.
    rw [Engine.check_refused passes] at failed
    obtain rfl : refused = err := Except.error.inj failed
    rcases checkTenant_error passes with rfl | rfl | ⟨id, status, rfl⟩ <;> rfl
  | ok passed =>
    obtain rfl := checkTenant_same passes
    rw [Engine.check_eq passes chosen] at failed
    have throws : (e.walker lang (s.lookups (some passed) clock) cs).MayThrow
        (·.stemsFromSchema = false) := acceptSchema_mayThrow accepted inline
    have clean : Clean ((e.walker lang (s.lookups (some passed) clock) cs).check req) :=
      Walker.check_related clean_relation throws (s.lookups_clean (some passed) clock _ _ _)
    exact clean .start err _ (Prod.ext failed rfl)

/-! ### Checks that come to an inline condition -/

/--
A store in which the subject holds some relations to the object directly, and no others.

Conditions are evaluated over the given variables.
-/
structure Lookups.HoldsOnly (store : Lookups V) (req : CheckRequest V) (held : List String)
    (env : Env V) : Prop where
  direct : ∀ n relation, store.checkDirect n req.objectType req.objectID relation req.subjectType
    req.subjectID = .ok (decide (relation ∈ held))
  subjects : ∀ n relation, ∃ list,
    store.listSubjects n req.objectType req.objectID relation = .ok list ∧ usersets list = []
  related : ∀ n relation, relation ∉ held →
    store.listRelatedObjects n req.objectType req.objectID relation = .ok []
  object : ∀ n, attrsOrEmpty (store.getObjectAttributes n req.objectType req.objectID) = env.object
  subject : ∀ n,
    attrsOrEmpty (store.getSubjectAttributes n req.subjectType req.subjectID) = env.subject
  request : req.context = env.request

/-- An inline condition that compiles and evaluates to a verdict. -/
def PermissionRef.Evaluates (lang : ExprLang V P) (env : Env V) (verdict : Bool)
    (ref : PermissionRef) : Prop :=
  ref.kind = .condition ∧ ∃ program value, lang.compile (trimSpace ref.conditionExpr) = .ok program ∧
    lang.run program env = .ok value ∧ lang.asBool value = .ok verdict

/-- A relation that is held, or a condition that is true. -/
def PermissionRef.Granted (lang : ExprLang V P) (held : List String) (env : Env V)
    (ref : PermissionRef) : Prop :=
  ref.kind = .relation ∧ ref.relationRef ∈ held ∨ ref.Evaluates lang env true

/-- A relation or an arrow along a relation that is not held, or a condition that is false. -/
def PermissionRef.Denied (lang : ExprLang V P) (held : List String) (env : Env V)
    (ref : PermissionRef) : Prop :=
  ref.kind = .relation ∧ ref.relationRef ∉ held ∨ ref.kind = .arrow ∧ ref.arrowRef ∉ held ∨
    ref.Evaluates lang env false

/-- The siblings before a child let a check come to it. -/
def PassedBy (lang : ExprLang V P) (held : List String) (env : Env V) :
    PermOp → List PermissionRef → Prop
  | .union, before | .direct, before => ∀ ref ∈ before, ref.Denied lang held env
  | .intersect, before => ∀ ref ∈ before, ref.Granted lang held env
  | .exclusion, [] => True
  | .exclusion, base :: excluded =>
    base.Granted lang held env ∧ ∀ ref ∈ excluded, ref.Denied lang held env
  | .other _, _ => False

section Reach

variable {w : Walker V P} (descend : CheckRequest V → PermissionDef P → WalkM CheckResult)
  {req : CheckRequest V} {held : List String} {env : Env V}

/-- An inline condition grants or refuses as it evaluates. -/
theorem walkChild_evaluates (holds : w.store.HoldsOnly req held env) {ref : PermissionRef}
    {verdict : Bool} (evaluates : ref.Evaluates w.lang env verdict) (st : WalkState) :
    ∃ after, (walkChild w descend req ref).from st =
      (.ok (if verdict then allow [] else deny), after) := by
  obtain ⟨kind, program, value, compiled, ran, truth⟩ := evaluates
  simp only [walkChild, kind, compileConditionExpr, compileCondition, compiled, evaluateCondition,
    WalkM.from_bind, WalkM.from_tryLookup, WalkM.andThen_ok, holds.object, holds.subject,
    holds.request, ran, truth, WalkM.from_pure, WalkM.from_ite]
  cases verdict with
  | true => exact ⟨_, rfl⟩
  | false => exact ⟨_, rfl⟩

/-- A relation that is held grants. -/
theorem walkChild_granted (holds : w.store.HoldsOnly req held env) {ref : PermissionRef}
    (granted : ref.Granted w.lang held env) (st : WalkState) :
    ∃ path after, (walkChild w descend req ref).from st = (.ok (allow path), after) := by
  rcases granted with ⟨kind, held⟩ | evaluates
  · simp only [walkChild, kind, walkRelation, WalkM.from_bind, WalkM.from_lookup, holds.direct,
      WalkM.andThen_ok, WalkM.from_ite, held, decide_true, if_true, WalkM.from_pure]
    exact ⟨_, _, rfl⟩
  · exact ⟨[], walkChild_evaluates descend holds evaluates st⟩

/-- What is not held refuses. -/
theorem walkChild_denied (holds : w.store.HoldsOnly req held env) {ref : PermissionRef}
    (denied : ref.Denied w.lang held env) (st : WalkState) :
    ∃ after, (walkChild w descend req ref).from st = (.ok deny, after) := by
  rcases denied with ⟨kind, missing⟩ | ⟨kind, missing⟩ | evaluates
  · -- No direct tuple, and no userset to go through.
    obtain ⟨list, listed, none⟩ := holds.subjects (st.lookups.length + 1) ref.relationRef
    have refused : ∀ mid, (walkSubjects w descend req list).from mid = (.ok deny, mid) := by
      intro mid
      rw [← walkSubjects_usersets, none]
      rfl
    simp [walkChild, kind, walkRelation, WalkM.from_bind, holds.direct, missing, listed, refused]
  · simp only [walkChild, kind, walkArrow, WalkM.from_bind, WalkM.from_lookup,
      holds.related _ _ missing, WalkM.andThen_ok, walkTargets, WalkM.from_pure]
    exact ⟨_, rfl⟩
  · exact walkChild_evaluates descend holds evaluates st

/-- An inline condition the compiler rejects ends the check. -/
theorem walkChild_rejected {child : PermissionRef} (kind : child.kind = .condition) {cause : String}
    (rejected : w.lang.compile (trimSpace child.conditionExpr) = .error cause) (st : WalkState) :
    (walkChild w descend req child).from st =
      (.error (.compileExpression (trimSpace child.conditionExpr) cause), st) := by
  simp only [walkChild, kind, compileConditionExpr, compileCondition, rejected, WalkM.from_throw]

/-- An error of a child is the error of the loops that come to it. -/
theorem loops_reach (holds : w.store.HoldsOnly req held env) {child : PermissionRef} {error : Err}
    (fails : ∀ st, (walkChild w descend req child).from st = (.error error, st))
    (before after : List PermissionRef) (st : WalkState) :
    ((∀ ref ∈ before, ref.Denied w.lang held env) →
      ((walkUnion w descend req (before ++ child :: after)).from st).1 = .error error ∧
      ((walkExcluded w descend req (before ++ child :: after)).from st).1 = .error error) ∧
    ((∀ ref ∈ before, ref.Granted w.lang held env) →
      ((walkAll w descend req (before ++ child :: after)).from st).1 = .error error) := by
  -- By induction on the siblings before the child, each of which lets the loop go on.
  induction before generalizing st with
  | nil => simp [walkUnion, walkExcluded, walkAll, WalkM.from_bind, fails]
  | cons first rest ih =>
    constructor
    · intro denied
      have first_denied := denied first List.mem_cons_self
      obtain ⟨mid, refused⟩ := walkChild_denied descend holds first_denied st
      have later := (ih mid).1 fun ref member => denied ref (List.mem_cons_of_mem _ member)
      simp only [List.cons_append, walkUnion, walkExcluded, WalkM.from_bind, refused,
        WalkM.andThen_ok, WalkM.from_ite, deny, Bool.false_eq_true, if_false]
      exact later
    · intro granted
      have first_granted := granted first List.mem_cons_self
      obtain ⟨path, mid, passed⟩ := walkChild_granted descend holds first_granted st
      have later := (ih mid).2 fun ref member => granted ref (List.mem_cons_of_mem _ member)
      simp only [List.cons_append, walkAll, WalkM.from_bind, passed, WalkM.andThen_ok,
        WalkM.from_ite, allow, Bool.not_true, Bool.false_eq_true, if_false]
      exact later

/-- So an operation fails when its siblings let it come to a rejected inline condition. -/
theorem walkOperation_reach (holds : w.store.HoldsOnly req held env) {permDef : PermissionDef P}
    {before after : List PermissionRef} {child : PermissionRef}
    (listed : permDef.children = before ++ child :: after)
    (passed : PassedBy w.lang held env permDef.operation before) {error : Err}
    (fails : ∀ st, (walkChild w descend req child).from st = (.error error, st))
    (st : WalkState) : ((walkOperation w descend req permDef).from st).1 = .error error := by
  unfold walkOperation
  rw [listed]
  cases operation : permDef.operation with
  | union | direct =>
    rw [operation] at passed
    exact ((loops_reach descend holds fails before after st).1 passed).1
  | intersect =>
    rw [operation] at passed
    have some_child : (before ++ child :: after).isEmpty = false := by simp
    simp only [walkIntersect, some_child, Bool.false_eq_true, if_false]
    exact (loops_reach descend holds fails before after st).2 passed
  | exclusion =>
    rw [operation] at passed
    cases before with
    | nil => simp [walkExclusion, WalkM.from_bind, fails]
    | cons base excluded =>
      -- The base grants, and nothing before the child is excluded.
      obtain ⟨grants, denied⟩ := passed
      obtain ⟨path, mid, ran⟩ := walkChild_granted descend holds grants st
      simp only [List.cons_append, walkExclusion, WalkM.from_bind, ran, WalkM.andThen_ok,
        WalkM.from_ite, allow, Bool.not_true, Bool.false_eq_true, if_false]
      exact ((loops_reach descend holds fails excluded after mid).1 denied).2
  | other code =>
    rw [operation] at passed
    exact passed.elim

end Reach

/-- A store with attributes that grants a subject some relations to an object, and nothing else. -/
def Memory.Store.holding (tc : TenantContext V) (req : CheckRequest V) (held : List String)
    (object subject : AnyMap V) : Memory.Store V :=
  { Memory.Store.new with
    tenants := AList.insert tc.tenantID { id := tc.tenantID, status := .active } ∅
    tuples := AList.insert tc.tenantID (held.map fun relation =>
      { objectType := req.objectType, objectID := req.objectID, relation,
        subjectType := req.subjectType, subjectID := req.subjectID }) ∅
    objAttrs := AList.insert tc.tenantID
      (AList.insert (Memory.attrKey req.objectType req.objectID) object ∅) ∅
    subAttrs := AList.insert tc.tenantID
      (AList.insert (Memory.attrKey req.subjectType req.subjectID) subject ∅) ∅ }

/-- Its lookups show the relations it grants. -/
theorem Memory.Store.holding_holds (tc : TenantContext V) (req : CheckRequest V)
    (held : List String) (object subject : AnyMap V) (clock : Memory.Clock) :
    ((Memory.Store.holding tc req held object subject).lookups (some tc) clock).HoldsOnly req held
      { object, subject, request := req.context } := by
  have read : ∀ {α : Type} (body : String → Except Err α),
      (holding tc req held object subject).reading (some tc) body = body tc.tenantID := by
    intro α body
    simp only [reading, tenantIDFromCtx, checkTenantReadable, holding, bind, Except.bind,
      AList.lookup_insert]
    rfl
  have stored : (holding tc req held object subject).tuplesOf tc.tenantID = held.map fun relation =>
      { objectType := req.objectType, objectID := req.objectID, relation,
        subjectType := req.subjectType, subjectID := req.subjectID } := by
    simp only [tuplesOf, holding, AList.lookup_insert, Option.getD_some]
  constructor
  · intro n relation
    simp only [lookups, checkDirect, read, stored, Except.ok.injEq]
    rw [Bool.eq_iff_iff]
    simp [tupleIsExpiredAt]
  · intro n relation
    simp only [lookups, listSubjects, read, liveTuples, stored]
    refine ⟨_, rfl, ?_⟩
    -- Every subject is listed without a relation of its own.
    rw [usersets, List.filter_eq_nil_iff]
    intro subj listed
    simp only [List.mem_map, List.mem_filter] at listed
    obtain ⟨t, ⟨⟨relation, -, rfl⟩, -⟩, rfl⟩ := listed
    simp
  · intro n relation missing
    simp only [lookups, listRelatedObjects, read, liveTuples, stored, Except.ok.injEq]
    rw [List.map_eq_nil_iff, List.filter_eq_nil_iff]
    intro t among
    obtain ⟨other, held, rfl⟩ := List.mem_map.mp among
    have differ : other ≠ relation := fun same => missing (same ▸ held)
    simp [differ]
  · intro n
    simp only [lookups, getObjectAttributes, read]
    simp only [bucketGet, holding, AList.lookup_insert, Option.bind_some, attrsOrEmpty]
  · intro n
    simp only [lookups, getSubjectAttributes, read]
    simp only [bucketGet, holding, AList.lookup_insert, Option.bind_some, attrsOrEmpty]
  · rfl

/--
Checks of an accepted schema never end with an error of its text if its inline conditions compile.

One that does not compile ends a check as soon as the siblings before it let the check come to it.
-/
theorem accepted_schema_checks (yaml : YamlDecoder) (lang : ExprLang V P) (data : List UInt8)
    (now : Time) (cs : CompiledSchema P) (accepted : acceptSchema yaml lang data now = .ok cs)
    (e : Engine P) (tc : TenantContext V) (chosen : e.schemaForTenant tc = .ok cs) :
    (cs.InlineCompile lang → ∀ (s : Memory.Store V) clock req err,
      e.check lang (s.lookups (some tc) clock) (some tc) req = .error err →
        err.stemsFromSchema = false) ∧
    ∀ (req : CheckRequest V) permDef before child after held object subject cause clock,
      checkTenant (some tc) = .ok tc → 0 ≤ e.cfg.maxCheckDepth →
      cs.getPermission req.objectType req.permission = .ok permDef →
      permDef.children = before ++ child :: after →
      PassedBy lang held { object, subject, request := req.context } permDef.operation before →
      child.kind = .condition →
      lang.compile (trimSpace child.conditionExpr) = .error cause →
        e.check lang ((Memory.Store.holding tc req held object subject).lookups (some tc) clock)
            (some tc) req =
          .error (.compileExpression (trimSpace child.conditionExpr) cause) := by
  constructor
  · intro inline s clock req err failed
    exact Engine.check_clean accepted inline chosen failed
  · intro req permDef before child after held object subject cause clock passes deep declared listed
      passed kind rejected
    rw [Engine.check_eq passes chosen]
    let store := (Memory.Store.holding tc req held object subject).lookups (some tc) clock
    let w := e.walker lang store cs
    -- The walk marks its first node and comes to the operation, with a hop to spare.
    obtain ⟨left, hops⟩ := Walker.hopsAt_zero (w := w) deep
    have reached : ∀ st, ((walkOperation w (walkPermission w left) req permDef).from st).1 =
        .error (.compileExpression (trimSpace child.conditionExpr) cause) :=
      walkOperation_reach _ (Memory.Store.holding_holds tc req held object subject clock) listed passed
        (walkChild_rejected _ kind rejected)
    have walked : ((w.permissionAt 0 req permDef).from .start).1 =
        .error (.compileExpression (trimSpace child.conditionExpr) cause) := by
      rw [Walker.permissionAt, hops, walkPermission, WalkM.from_bind]
      exact reached _
    show ((w.check req).from .start).1 = _
    unfold Walker.check
    rw [show w.schema = cs from rfl, declared]
    simp only [WalkM.from_bind]
    cases outcome : (w.permissionAt 0 req permDef).from .start with
    | mk answer end_ =>
      rw [outcome] at walked
      rw [show answer = _ from walked]
      rfl

/-- A schema whose documents are viewed by their viewers, and by everybody under a condition. -/
def docSource (condition : String) : List UInt8 :=
  ("version: \"1\"\ntypes:\n  doc:\n    relations:\n      viewer:\n        types: [doc]\n" ++
    "    permissions:\n      view:\n        union:\n          - viewer\n          - condition: \"" ++
    condition ++ "\"\n").toUTF8.toList

/-- What the decoder makes of that source, and of no other. -/
def docDecoder (condition : String) : YamlDecoder where
  decode data :=
    if data = docSource condition then
      .ok { version := "1", types := some (AList.insert "doc" (some {
        relations := AList.insert "viewer" (some ["doc"]) ∅
        permissions := AList.insert "view" (some {
          union := [.node (.ok "viewer") (.error "cannot unmarshal into map"),
            .node (.error "cannot unmarshal into string") (.ok condition)] }) ∅ }) ∅) }
    else .error "did not find expected node content"

/-- The schema these passes make of it. -/
def docSchema (condition : String) : CompiledSchema Bool where
  types := AList.insert "doc" {
    name := "doc"
    relations := AList.insert "viewer" { name := "viewer", allowedTypes := [{ type := "doc" }] } ∅
    permissions := AList.insert "view" {
      name := "view", operation := .union
      children := [{ relationRef := "viewer" }, { conditionExpr := condition }] } ∅ } ∅
  version := "1"
  hash := hashYAML (docSource condition)
  named := by
    intro type typed permission filed
    obtain rfl := List.mem_singleton.mp typed
    obtain rfl := List.mem_singleton.mp filed
    rfl

/-- A document whose condition reads `true` is accepted, and its checks end with clean errors. -/
theorem accepted_schema_checks_true :
    acceptSchema (docDecoder "true") literalLang (docSource "true") 0 = .ok (docSchema "true") ∧
      ∀ (s : Memory.Store Bool) clock req err,
        (acmeEngine (docSchema "true") 25).check literalLang (s.lookups (some acme) clock)
          (some acme) req = .error err → err.stemsFromSchema = false := by
  have accepted : acceptSchema (docDecoder "true") literalLang (docSource "true") 0 =
      .ok (docSchema "true") := by
    simp only [acceptSchema, parse, docDecoder, if_true]
    rfl
  refine ⟨accepted, (accepted_schema_checks _ _ _ _ _ accepted _ _ rfl).1 ?_⟩
  -- The one inline condition is a literal of the language.
  have compiles : (docSchema "true").All fun permDef => ∀ child ∈ permDef.children,
      child.kind = .condition → literalLang.compile (trimSpace child.conditionExpr) = .ok true := by
    decide
  intro type typed permission filed child among kind
  exact ⟨true, compiles type typed permission filed child among kind⟩

/-- A document whose condition breaks off is accepted too, and then every stranger's check fails. -/
theorem accepted_schema_fails :
    acceptSchema (docDecoder "object.level >") literalLang (docSource "object.level >") 0 =
        .ok (docSchema "object.level >") ∧
      (acmeEngine (docSchema "object.level >") 25).check literalLang
        ((acmeStore []).lookups (some acme) fun _ => 0) (some acme) docRequest =
          .error (.compileExpression "object.level >" "unexpected token") := by
  constructor
  · simp only [acceptSchema, parse, docDecoder, if_true]
    rfl
  · rfl

end ZanGuard
