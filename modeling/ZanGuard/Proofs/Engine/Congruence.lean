import ZanGuard.Proofs.Engine.Inversion

/-! Two walks over different stores are related as far as the lookups they make are. -/

namespace ZanGuard

variable {V P : Type}

/-- The same walk over another store. -/
def Walker.on (w : Walker V P) (other : Lookups V) : Walker V P :=
  { w with store := other }

/-- The part of a subject list that the userset loop looks at. -/
def usersets (subjects : List SubjectRef) : List SubjectRef :=
  subjects.filter (·.relation ≠ "")

/-- What the userset loop takes from a membership test; a failed test counts as a no. -/
def isMember (answer : Except Err Bool) : Bool :=
  match answer with
  | .ok member => member
  | .error _ => false

/-- Whether some permission of a type follows a relation as an arrow. -/
def CompiledSchema.usesArrow (cs : CompiledSchema P) (objectType relation : String) : Bool :=
  match cs.types.lookup objectType with
  | none => false
  | some td => td.permissions.entries.any fun permission =>
      permission.2.children.any fun child => child.kind == .arrow && child.arrowRef == relation

/-- An arrow of a declared permission is one its type uses. -/
theorem CompiledSchema.usesArrow_of_child {cs : CompiledSchema P} {objectType permission : String}
    {permDef : PermissionDef P} (declared : cs.getPermission objectType permission = .ok permDef)
    {child : PermissionRef} (among : child ∈ permDef.children) (arrow : child.kind = .arrow) :
    cs.usesArrow objectType child.arrowRef = true := by
  obtain ⟨td, typed, filed⟩ := getPermission_mem declared
  have found : cs.types.lookup objectType = some td := AList.mem_lookup_iff.mpr typed
  simp only [usesArrow, found, List.any_eq_true, Bool.and_eq_true, beq_iff_eq]
  exact ⟨_, filed, child, among, arrow, rfl⟩

/-- The errors a walk may end with besides those of its lookups. -/
structure Walker.MayThrow (may : Err → Prop) (w : Walker V P) : Prop where
  depth : may (.maxCheckDepthExceeded w.cfg.maxCheckDepth)
  undeclared : ∀ {objectType permission e},
    w.schema.getPermission objectType permission = .error e → may e
  operation : ∀ {objectType permission permDef code},
    w.schema.getPermission objectType permission = .ok permDef →
      permDef.operation = .other code → may (.unknownPermissionOperation code)
  inline : ∀ {objectType permission permDef},
    w.schema.getPermission objectType permission = .ok permDef →
      ∀ child ∈ permDef.children, child.kind = .condition →
        ∀ {e}, compileConditionExpr w.lang child.conditionExpr = .error e → may e
  evaluate : ∀ raw cause, may (.evaluateCondition raw cause)
  notBool : ∀ raw typeName, may (.conditionNotBool raw typeName)

/-- A walk may end with some error. -/
theorem Walker.mayThrow_any (w : Walker V P) : w.MayThrow fun _ => True where
  depth := trivial
  undeclared _ := trivial
  operation _ _ := trivial
  inline _ _ _ _ _ _ := trivial
  evaluate _ _ := trivial
  notBool _ _ := trivial

/-- A relation between steps that everything a walk does besides lookups keeps. -/
structure StepRelation (may : Err → Prop) (R : {α : Type} → WalkM α → WalkM α → Prop) : Prop where
  pure : ∀ {α : Type} (a : α), R (pure a) (pure a)
  throw : ∀ {α : Type} (e : Err), may e → R (throw e : WalkM α) (throw e)
  bind : ∀ {α β : Type} {first first' : WalkM α} {next next' : α → WalkM β},
    R first first' → (∀ a, R (next a) (next' a)) → R (first >>= next) (first' >>= next')
  get : R (get : WalkM WalkState) get
  mark : ∀ key : String,
    R (modify fun st : WalkState => { st with visited := st.visited.add key } : WalkM PUnit)
      (modify fun st : WalkState => { st with visited := st.visited.add key })
  gate : ∀ {α : Type} {step step' : WalkM α}, R step step' →
    R (ExceptT.adapt .conditionEvaluation step : WalkM α)
      (ExceptT.adapt .conditionEvaluation step')

/--
The lookups of two stores are related, as far as a walk for one subject depends on them.

A walk looks at usersets only when it lists subjects, and follows only arrows its schema has.
-/
structure Lookups.Related (R : {α : Type} → WalkM α → WalkM α → Prop) (schema : CompiledSchema P)
    (subjectType subjectID : String) (store other : Lookups V) : Prop where
  direct : ∀ type id relation,
    R (lookup (.checkDirect type id relation subjectType subjectID)
        (store.checkDirect · type id relation subjectType subjectID))
      (lookup (.checkDirect type id relation subjectType subjectID)
        (other.checkDirect · type id relation subjectType subjectID))
  member : ∀ type id relation,
    R (isMember <$> tryLookup (.usersetMember type id relation subjectType subjectID)
        (store.checkDirect · type id relation subjectType subjectID))
      (isMember <$> tryLookup (.usersetMember type id relation subjectType subjectID)
        (other.checkDirect · type id relation subjectType subjectID))
  subjects : ∀ type id relation,
    R (usersets <$> lookup (.listSubjects type id relation)
        (store.listSubjects · type id relation))
      (usersets <$> lookup (.listSubjects type id relation)
        (other.listSubjects · type id relation))
  related : ∀ type id relation, schema.usesArrow type relation = true →
    R (lookup (.listRelatedObjects type id relation) (store.listRelatedObjects · type id relation))
      (lookup (.listRelatedObjects type id relation) (other.listRelatedObjects · type id relation))
  objectAttrs : ∀ type id,
    R (attrsOrEmpty <$> tryLookup (.getObjectAttributes type id) (store.getObjectAttributes · type id))
      (attrsOrEmpty <$> tryLookup (.getObjectAttributes type id) (other.getObjectAttributes · type id))
  subjectAttrs :
    R (attrsOrEmpty <$> tryLookup (.getSubjectAttributes subjectType subjectID)
        (store.getSubjectAttributes · subjectType subjectID))
      (attrsOrEmpty <$> tryLookup (.getSubjectAttributes subjectType subjectID)
        (other.getSubjectAttributes · subjectType subjectID))

/-! ### What a walk takes from its lookups -/

section Equations

variable (w : Walker V P) (descend : CheckRequest V → PermissionDef P → WalkM CheckResult)
  (req : CheckRequest V)

/-- A condition reads attributes, whether the lookup of them failed or not. -/
theorem evaluateCondition_eq (cond : ConditionExpr P) :
    evaluateCondition w req cond = match cond.compiled with
      | none => pure true
      | some program => do
        let object ← attrsOrEmpty <$> tryLookup (.getObjectAttributes req.objectType req.objectID)
          (w.store.getObjectAttributes · req.objectType req.objectID)
        let subject ← attrsOrEmpty <$>
          tryLookup (.getSubjectAttributes req.subjectType req.subjectID)
            (w.store.getSubjectAttributes · req.subjectType req.subjectID)
        match w.lang.run program { object, subject, request := req.context } with
        | .error cause => throw (.evaluateCondition cond.raw cause)
        | .ok result =>
          match w.lang.asBool result with
          | .error typeName => throw (.conditionNotBool cond.raw typeName)
          | .ok allowed => return allowed := by
  -- Only the parts of an answer that are kept are handed on.
  unfold evaluateCondition
  cases cond.compiled with
  | none => rfl
  | some program =>
    exact ((bind_map_left _ _ _).trans (bind_congr fun _ => bind_map_left _ _ _)).symm

/-- The userset loop passes over the subjects that are no usersets. -/
theorem walkSubjects_usersets (subjects : List SubjectRef) :
    walkSubjects w descend req (usersets subjects) = walkSubjects w descend req subjects := by
  induction subjects with
  | nil => rfl
  | cons subj rest ih =>
    -- A subject without a relation is passed over by the walk.
    by_cases plain : subj.relation = ""
    · simp only [walkSubjects, plain, if_true, ← ih]
      simp [usersets, plain]
    · have kept : usersets (subj :: rest) = subj :: usersets rest := by
        simp [usersets, plain]
      simp only [kept, walkSubjects, ih]

/-- The userset loop listens to usersets only. -/
theorem walkRelation_eq (relation : String) :
    walkRelation w descend req relation = (do
      let ok ← lookup
        (.checkDirect req.objectType req.objectID relation req.subjectType req.subjectID)
        (w.store.checkDirect · req.objectType req.objectID relation req.subjectType req.subjectID)
      if ok then
        return allow [req.objectType ++ ":" ++ req.objectID ++ "#" ++ relation ++ "@" ++
          req.subjectType ++ ":" ++ req.subjectID]
      else
        let subjects ← usersets <$> lookup (.listSubjects req.objectType req.objectID relation)
          (w.store.listSubjects · req.objectType req.objectID relation)
        walkSubjects w descend req subjects) := by
  simp only [walkRelation, bind_map_left, walkSubjects_usersets]

/-- One round of the userset loop, with a membership test reduced to its outcome. -/
theorem walkSubjects_cons_eq (subj : SubjectRef) (rest : List SubjectRef) :
    walkSubjects w descend req (subj :: rest) =
      if subj.relation = "" then walkSubjects w descend req rest else (do
        if (← get).visited.has (req.userset subj).key then
          walkSubjects w descend req rest
        else
          match w.schema.getPermission subj.type subj.relation with
          | .error _ =>
            let member ← isMember <$> tryLookup
              (.usersetMember subj.type subj.id subj.relation req.subjectType req.subjectID)
              (w.store.checkDirect · subj.type subj.id subj.relation req.subjectType req.subjectID)
            if member then
              return allow [subj.type ++ ":" ++ subj.id ++ "#" ++ subj.relation ++ "@" ++
                req.subjectType ++ ":" ++ req.subjectID]
            else
              walkSubjects w descend req rest
          | .ok subPermDef =>
            let subResult ← descend (req.userset subj) subPermDef
            if subResult.allowed then
              return subResult
            else
              walkSubjects w descend req rest) := by
  simp only [walkSubjects, bind_map_left]
  congr 1
  congr 1
  funext st
  congr 1
  cases w.schema.getPermission subj.type subj.relation with
  | ok permDef => rfl
  | error e =>
    -- A failed test and a test that says no go on alike.
    simp only
    congr 1
    funext answer
    cases answer <;> rfl

end Equations

/-! ### The walkers, one after another -/

section Walkers

variable {may : Err → Prop} {R : {α : Type} → WalkM α → WalkM α → Prop} {w : Walker V P}
  {other : Lookups V} {subjectType subjectID : String}
  {descend descend' : CheckRequest V → PermissionDef P → WalkM CheckResult}
  {req : CheckRequest V}

/-- A test decides alike on both sides. -/
theorem ite_related {α : Type} (c : Prop) [Decidable c]
    {yes yes' no no' : WalkM α} (first : R yes yes') (second : R no no') :
    R (if c then yes else no) (if c then yes' else no') := by
  split
  · exact first
  · exact second

/-- Handing on a part of a result. -/
theorem StepRelation.map (rel : StepRelation may R) {α β : Type} (part : α → β) {step step' : WalkM α}
    (inner : R step step') : R (part <$> step) (part <$> step') := by
  rw [map_eq_pure_bind, map_eq_pure_bind]
  exact rel.bind inner fun a => rel.pure (part a)

/-- Going on unless the first step granted. -/
theorem StepRelation.orElse (rel : StepRelation may R) {first first' rest rest' : WalkM CheckResult}
    (head : R first first') (tail : R rest rest') :
    R (first >>= fun r => if r.allowed = true then Pure.pure r else rest)
      (first' >>= fun r => if r.allowed = true then Pure.pure r else rest') :=
  rel.bind head fun r => ite_related _ (rel.pure r) tail

/-- A request on behalf of a subject. -/
def CheckRequest.By (req : CheckRequest V) (subjectType subjectID : String) : Prop :=
  req.subjectType = subjectType ∧ req.subjectID = subjectID

/-- The recursive entries are related wherever a walk for the subject can enter. -/
def DescentRelated (R : {α : Type} → WalkM α → WalkM α → Prop) (schema : CompiledSchema P)
    (subjectType subjectID : String)
    (descend descend' : CheckRequest V → PermissionDef P → WalkM CheckResult) : Prop :=
  ∀ req permDef, req.By subjectType subjectID →
    schema.getPermission req.objectType req.permission = .ok permDef →
      R (descend req permDef) (descend' req permDef)

/-- A condition reads attributes only. -/
theorem evaluateCondition_related (rel : StepRelation may R) (throws : w.MayThrow may)
    (alike : Lookups.Related R w.schema subjectType subjectID w.store other)
    (own : req.By subjectType subjectID) (cond : ConditionExpr P) :
    R (evaluateCondition w req cond) (evaluateCondition (w.on other) req cond) := by
  obtain ⟨rfl, rfl⟩ := own
  rw [evaluateCondition_eq, evaluateCondition_eq]
  cases cond.compiled with
  | none => exact rel.pure true
  | some program =>
    refine rel.bind (alike.objectAttrs _ _) fun object => ?_
    refine rel.bind alike.subjectAttrs fun subject => ?_
    -- Running the program makes no lookup.
    simp only [Walker.on]
    cases w.lang.run program _ with
    | error cause => exact rel.throw _ (throws.evaluate _ _)
    | ok value =>
      simp only
      cases w.lang.asBool value with
      | error typeName => exact rel.throw _ (throws.notBool _ _)
      | ok allowed => exact rel.pure allowed

/-- The userset loop. -/
theorem walkSubjects_related (rel : StepRelation may R)
    (alike : Lookups.Related R w.schema subjectType subjectID w.store other)
    (own : req.By subjectType subjectID)
    (descends : DescentRelated R w.schema subjectType subjectID descend descend')
    (subjects : List SubjectRef) :
    R (walkSubjects w descend req subjects) (walkSubjects (w.on other) descend' req subjects) := by
  -- By induction on the subjects; the visited set is the same on both sides.
  induction subjects with
  | nil => exact rel.pure deny
  | cons subj rest ih =>
    rw [walkSubjects_cons_eq, walkSubjects_cons_eq]
    refine ite_related _ ih (rel.bind rel.get fun st => ite_related _ ih ?_)
    have schema : (w.on other).schema = w.schema := rfl
    rw [schema]
    cases declared : w.schema.getPermission subj.type subj.relation with
    | ok permDef => exact rel.orElse (descends (req.userset subj) permDef own declared) ih
    | error e =>
      obtain ⟨rfl, rfl⟩ := own
      exact rel.bind (alike.member _ _ _) fun member => ite_related _ (rel.pure _) ih

/-- The target loop. -/
theorem walkTargets_related (rel : StepRelation may R) (own : req.By subjectType subjectID)
    (descends : DescentRelated R w.schema subjectType subjectID descend descend')
    (permission : String) (targets : List ObjectRef) :
    R (walkTargets w descend req permission targets)
      (walkTargets (w.on other) descend' req permission targets) := by
  -- By induction on the targets; the loop itself makes no lookup.
  induction targets with
  | nil => exact rel.pure deny
  | cons target rest ih =>
    simp only [walkTargets, Walker.on]
    refine rel.bind rel.get fun st => ite_related _ ih ?_
    cases declared : w.schema.getPermission target.type permission with
    | error e => exact ih
    | ok permDef => exact rel.orElse (descends (req.target permission target) permDef own declared) ih

/-- A child of a declared permission, whatever its kind. -/
theorem walkChild_related (rel : StepRelation may R) (throws : w.MayThrow may)
    (alike : Lookups.Related R w.schema subjectType subjectID w.store other)
    (own : req.By subjectType subjectID)
    (descends : DescentRelated R w.schema subjectType subjectID descend descend')
    {permission : String} {permDef : PermissionDef P}
    (declared : w.schema.getPermission req.objectType permission = .ok permDef)
    {child : PermissionRef} (among : child ∈ permDef.children) :
    R (walkChild w descend req child) (walkChild (w.on other) descend' req child) := by
  unfold walkChild
  cases kind : child.kind with
  | relation =>
    simp only [walkRelation_eq]
    have subjects := fun list => walkSubjects_related rel alike own descends list
    obtain ⟨rfl, rfl⟩ := own
    refine rel.bind (alike.direct _ _ _) fun direct => ite_related _ (rel.pure _) ?_
    exact rel.bind (alike.subjects _ _ _) subjects
  | arrow =>
    have used := CompiledSchema.usesArrow_of_child declared among kind
    refine rel.bind (alike.related _ _ _ used) fun targets => ?_
    exact walkTargets_related rel own descends _ targets
  | condition =>
    simp only [show (w.on other).lang = w.lang from rfl]
    cases compiled : compileConditionExpr w.lang child.conditionExpr with
    | error e => exact rel.throw e (throws.inline declared child among kind compiled)
    | ok cond =>
      refine rel.bind (evaluateCondition_related rel throws alike own cond) fun verdict => ?_
      exact ite_related _ (rel.pure _) (rel.pure _)
  | other name =>
    -- No reference has an undeclared kind.
    rcases child.kind_cases with arrow | condition | relation
    · rw [arrow] at kind
      cases kind
    · rw [condition] at kind
      cases kind
    · rw [relation] at kind
      cases kind

/-- The three loops over children that are related one by one. -/
theorem walkChildren_related (rel : StepRelation may R) {children : List PermissionRef}
    (each : ∀ child ∈ children,
      R (walkChild w descend req child) (walkChild (w.on other) descend' req child)) :
    R (walkUnion w descend req children) (walkUnion (w.on other) descend' req children) ∧
      R (walkAll w descend req children) (walkAll (w.on other) descend' req children) ∧
      R (walkExcluded w descend req children) (walkExcluded (w.on other) descend' req children) := by
  -- By induction on the children; the loops differ only in the result that stops them.
  induction children with
  | nil => exact ⟨rel.pure _, rel.pure _, rel.pure _⟩
  | cons child rest ih =>
    have head := each child List.mem_cons_self
    obtain ⟨union, all, excluded⟩ :=
      ih fun later member => each later (List.mem_cons_of_mem _ member)
    refine ⟨rel.orElse head union, ?_, ?_⟩
    · exact rel.bind head fun r => ite_related _ (rel.pure deny) all
    · exact rel.bind head fun r => ite_related _ (rel.pure deny) excluded

/-- The operation of a declared permission. -/
theorem walkOperation_related (rel : StepRelation may R) (throws : w.MayThrow may)
    (alike : Lookups.Related R w.schema subjectType subjectID w.store other)
    (own : req.By subjectType subjectID)
    (descends : DescentRelated R w.schema subjectType subjectID descend descend')
    {permission : String} {permDef : PermissionDef P}
    (declared : w.schema.getPermission req.objectType permission = .ok permDef) :
    R (walkOperation w descend req permDef) (walkOperation (w.on other) descend' req permDef) := by
  have each : ∀ child ∈ permDef.children,
      R (walkChild w descend req child) (walkChild (w.on other) descend' req child) := by
    intro child among
    exact walkChild_related rel throws alike own descends declared among
  unfold walkOperation
  cases operation : permDef.operation with
  | union | direct => exact (walkChildren_related rel each).1
  | intersect => exact ite_related _ (rel.pure deny) (walkChildren_related rel each).2.1
  | exclusion =>
    -- The excluded children are asked only after the base granted.
    cases listed : permDef.children with
    | nil => exact rel.pure deny
    | cons base excluded =>
      rw [listed] at each
      refine rel.bind (each base List.mem_cons_self) fun r => ite_related _ (rel.pure deny) ?_
      exact (walkChildren_related rel
        fun child member => each child (List.mem_cons_of_mem _ member)).2.2
  | other code => exact rel.throw _ (throws.operation declared operation)

end Walkers

/-- The recursive walk, whatever number of hops is left. -/
theorem walkPermission_related {may : Err → Prop} {R : {α : Type} → WalkM α → WalkM α → Prop}
    (rel : StepRelation may R) {w : Walker V P} (throws : w.MayThrow may) {other : Lookups V}
    {subjectType subjectID : String}
    (alike : Lookups.Related R w.schema subjectType subjectID w.store other) (hops : Nat) :
    DescentRelated R w.schema subjectType subjectID (walkPermission w hops)
      (walkPermission (w.on other) hops) := by
  -- By induction on the hops left; marking the node is the same on both sides.
  induction hops with
  | zero => exact fun req permDef _ _ => rel.throw _ throws.depth
  | succ hops ih =>
    intro req permDef own declared
    simp only [walkPermission]
    refine rel.bind rel.get fun st => ite_related _ (rel.pure deny) ?_
    exact rel.bind (rel.mark _) fun _ => walkOperation_related rel throws alike own ih declared

/-- The check of a walk, its gate included. -/
theorem Walker.check_related {may : Err → Prop} {R : {α : Type} → WalkM α → WalkM α → Prop}
    (rel : StepRelation may R) {w : Walker V P} (throws : w.MayThrow may) {other : Lookups V}
    {req : CheckRequest V}
    (alike : Lookups.Related R w.schema req.subjectType req.subjectID w.store other) :
    R (w.check req) ((w.on other).check req) := by
  -- Both sides have one schema, so they walk the same permission.
  unfold Walker.check
  have schema : (w.on other).schema = w.schema := rfl
  rw [schema]
  cases declared : w.schema.getPermission req.objectType req.permission with
  | error e => exact rel.throw e (throws.undeclared declared)
  | ok permDef =>
    refine rel.bind (walkPermission_related rel throws alike _ req permDef ⟨rfl, rfl⟩ declared)
      fun result => ?_
    cases result.allowed with
    | false => exact rel.pure result
    | true =>
      cases permDef.condition with
      | none => exact rel.pure result
      | some cond =>
        have evaluated := evaluateCondition_related rel throws alike ⟨rfl, rfl⟩ cond
        refine rel.bind (rel.gate evaluated) fun verdict => ?_
        exact ite_related _ (rel.pure deny) (rel.pure result)

end ZanGuard
