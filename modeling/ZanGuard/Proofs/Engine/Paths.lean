import ZanGuard.Proofs.Engine.Complete
import ZanGuard.Proofs.Engine.Triples

/-! The path of a grant names the tuple that granted it. -/

namespace ZanGuard

open Std.Do

set_option mvcgen.warning false

variable {V P : Type}

/-- One of the first lookups was a membership test that said yes, and the path names its tuple. -/
def Lookups.Named (store : Lookups V) (subjectType subjectID : String) (made : Nat)
    (path : List String) : Prop :=
  ∃ n < made, ∃ type id relation,
    store.checkDirect n type id relation subjectType subjectID = .ok true ∧
      path = [type ++ ":" ++ id ++ "#" ++ relation ++ "@" ++ subjectType ++ ":" ++ subjectID]

/-- A schema of unions over relations and arrows. -/
def CompiledSchema.Plain (cs : CompiledSchema P) : Prop :=
  cs.UnionOnly ∧ cs.NoInline

/-- A grant names a tuple, or else something other than a union dropped its path. -/
def Walker.Evident (w : Walker V P) (subjectType subjectID : String) (result : CheckResult)
    (st : WalkState) : Prop :=
  result.allowed = true →
    w.store.Named subjectType subjectID st.lookups.length result.resolutionPath ∨
      (result.resolutionPath = [] ∧ ¬ w.schema.Plain)

/-- A refusal has nothing to show. -/
theorem Walker.evident_deny {w : Walker V P} {subjectType subjectID : String} {st : WalkState} :
    w.Evident subjectType subjectID deny st := by
  intro granted
  cases granted

/-- A membership test that has just said yes is evidence for the tuple it asked about. -/
theorem Walker.evident_member {w : Walker V P} {subjectType subjectID : String} {st : WalkState}
    {type id relation : String} (call : Lookup)
    (tested : w.store.checkDirect st.lookups.length type id relation subjectType subjectID =
      .ok true) :
    w.Evident subjectType subjectID
      (allow [type ++ ":" ++ id ++ "#" ++ relation ++ "@" ++ subjectType ++ ":" ++ subjectID])
      { st with lookups := st.lookups ++ [call] } := by
  intro _
  -- The test is the last lookup on the record.
  have made : st.lookups.length < (st.lookups ++ [call]).length := by simp
  exact .inl ⟨st.lookups.length, made, type, id, relation, tested, rfl⟩

/-- A grant whose path was dropped is evident where the schema is not plain. -/
theorem Walker.evident_bare {w : Walker V P} {subjectType subjectID : String} {st : WalkState}
    (fancy : ¬ w.schema.Plain) : w.Evident subjectType subjectID (allow []) st :=
  fun _ => .inr ⟨rfl, fancy⟩

/-- Evidence stays evidence while more lookups are made. -/
theorem Walker.Evident.later {w : Walker V P} {subjectType subjectID : String}
    {result : CheckResult} {st after : WalkState}
    (evident : w.Evident subjectType subjectID result st)
    (more : st.lookups.length ≤ after.lookups.length) :
    w.Evident subjectType subjectID result after := by
  -- The membership test stays on the record at its place.
  intro granted
  rcases evident granted with ⟨n, before, named⟩ | dropped
  · -- A dropped path stays dropped.
    exact .inl ⟨n, lt_of_lt_of_le before more, named⟩
  · exact .inr dropped

section Walkers

variable {w : Walker V P} {descend : CheckRequest V → PermissionDef P → WalkM CheckResult}
  {req : CheckRequest V}

/-- The recursive entry shows evidence for its grants. -/
def DescentEvident (w : Walker V P) (subjectType subjectID : String)
    (descend : CheckRequest V → PermissionDef P → WalkM CheckResult) : Prop :=
  ∀ sub permDef, sub.subjectType = subjectType → sub.subjectID = subjectID →
    w.schema.getPermission sub.objectType sub.permission = .ok permDef →
    ⦃⌜True⌝⦄ descend sub permDef ⦃⇓? result st => ⌜w.Evident subjectType subjectID result st⌝⦄

/-- The userset loop names the membership it found, or hands on the evidence from below. -/
theorem walkSubjects_evident (below : DescentEvident w req.subjectType req.subjectID descend)
    (subjects : List SubjectRef) :
    ⦃⌜True⌝⦄ walkSubjects w descend req subjects
    ⦃⇓? result st => ⌜w.Evident req.subjectType req.subjectID result st⌝⦄ := by
  -- By induction on the subjects; only the fallback test grants by itself.
  unfold DescentEvident at below
  induction subjects with
  | nil =>
    -- Nothing is left to ask, and a refusal needs no evidence.
    mvcgen [walkSubjects]
    exact Walker.evident_deny
  | cons subj rest ih =>
    mvcgen [walkSubjects, ih, below]
    -- What remains is the test that said yes.
    rename_i tested member
    rw [member] at tested
    exact Walker.evident_member _ tested

/-- A relation names the direct tuple it found, or hands on the evidence of its usersets. -/
theorem walkRelation_evident (below : DescentEvident w req.subjectType req.subjectID descend)
    (relation : String) :
    ⦃⌜True⌝⦄ walkRelation w descend req relation
    ⦃⇓? result st => ⌜w.Evident req.subjectType req.subjectID result st⌝⦄ := by
  -- The loop has its own evidence, so what is left is the direct test.
  have usersets := walkSubjects_evident below
  mvcgen [walkRelation, lookup, usersets]
  rename_i tested member
  rw [member] at tested
  exact Walker.evident_member _ tested

/-- An arrow only hands on the evidence of its targets. -/
theorem walkTargets_evident (below : DescentEvident w req.subjectType req.subjectID descend)
    (permission : String) (targets : List ObjectRef) :
    ⦃⌜True⌝⦄ walkTargets w descend req permission targets
    ⦃⇓? result st => ⌜w.Evident req.subjectType req.subjectID result st⌝⦄ := by
  -- By induction on the targets; each answer comes from below.
  unfold DescentEvident at below
  induction targets with
  | nil =>
    mvcgen [walkTargets]
    exact Walker.evident_deny
  | cons target rest ih => mvcgen [walkTargets, ih, below]

/-- A child shows evidence: only an inline condition grants without naming a tuple. -/
theorem walkChild_evident (below : DescentEvident w req.subjectType req.subjectID descend)
    {child : PermissionRef} (inline : child.kind = .condition → ¬ w.schema.NoInline) :
    ⦃⌜True⌝⦄ walkChild w descend req child
    ⦃⇓? result st => ⌜w.Evident req.subjectType req.subjectID result st⌝⦄ := by
  -- A relation and an arrow have their lemmas, and evaluating a condition adds lookups only.
  have relation := walkRelation_evident below
  have targets := walkTargets_evident below
  have condition := evaluateCondition_frame w req
  mvcgen [walkChild, walkArrow, lookup, relation, targets, condition]
  · -- A condition that is true grants without a path.
    rename_i kind _ _ _ _ _ _ _
    exact Walker.evident_bare fun plain => inline kind plain.2
  · -- One that is false refuses.
    exact Walker.evident_deny

/-- A union hands on the evidence of the child that granted. -/
theorem walkUnion_evident (below : DescentEvident w req.subjectType req.subjectID descend)
    {children : List PermissionRef}
    (inline : ∀ child ∈ children, child.kind = .condition → ¬ w.schema.NoInline) :
    ⦃⌜True⌝⦄ walkUnion w descend req children
    ⦃⇓? result st => ⌜w.Evident req.subjectType req.subjectID result st⌝⦄ := by
  -- By induction on the children; the first grant is returned as it is.
  induction children with
  | nil =>
    mvcgen [walkUnion]
    exact Walker.evident_deny
  | cons child rest ih =>
    -- The first child grants with its own evidence, or hands over to the others.
    have first := walkChild_evident below (inline child List.mem_cons_self)
    have others := ih fun other member => inline other (List.mem_cons_of_mem _ member)
    mvcgen [walkUnion, first, others]

/-- An intersection drops the paths of its children, which a plain schema does not have. -/
theorem walkAll_evident (fancy : ¬ w.schema.Plain) (children : List PermissionRef) :
    ⦃⌜True⌝⦄ walkAll w descend req children
    ⦃⇓? result st => ⌜w.Evident req.subjectType req.subjectID result st⌝⦄ := by
  -- By induction on the children; their results are looked at and dropped.
  induction children with
  | nil =>
    -- All children have granted, and the grant has no path.
    mvcgen [walkAll]
    exact Walker.evident_bare fancy
  | cons child rest ih =>
    -- Nothing is needed of the children's own evidence.
    have first := WalkM.triple_trivial (walkChild w descend req child)
    mvcgen [walkAll, first, ih]
    -- A child that refuses makes the whole refuse.
    exact Walker.evident_deny

/-- What an exclusion subtracts never contributes to its path. -/
theorem walkExcluded_evident (fancy : ¬ w.schema.Plain) (children : List PermissionRef) :
    ⦃⌜True⌝⦄ walkExcluded w descend req children
    ⦃⇓? result st => ⌜w.Evident req.subjectType req.subjectID result st⌝⦄ := by
  -- By induction on the children; a grant among them is turned into a refusal.
  induction children with
  -- No excluded child has granted, and the grant has no path.
  | nil =>
    mvcgen [walkExcluded]
    exact Walker.evident_bare fancy
  | cons child rest ih =>
    have first := WalkM.triple_trivial (walkChild w descend req child)
    mvcgen [walkExcluded, first, ih]
    -- An excluded child that grants makes the whole refuse.
    exact Walker.evident_deny

/-- An intersection that grants has no path. -/
theorem walkIntersect_evident (fancy : ¬ w.schema.Plain) (children : List PermissionRef) :
    ⦃⌜True⌝⦄ walkIntersect w descend req children
    ⦃⇓? result st => ⌜w.Evident req.subjectType req.subjectID result st⌝⦄ := by
  -- No children, or a loop over all of them.
  have loop : ⦃⌜True⌝⦄ walkAll w descend req children
      ⦃⇓? result st => ⌜w.Evident req.subjectType req.subjectID result st⌝⦄ :=
    walkAll_evident fancy children
  mvcgen [walkIntersect, loop]
  exact Walker.evident_deny

/-- An exclusion that grants has no path. -/
theorem walkExclusion_evident (fancy : ¬ w.schema.Plain) (children : List PermissionRef) :
    ⦃⌜True⌝⦄ walkExclusion w descend req children
    ⦃⇓? result st => ⌜w.Evident req.subjectType req.subjectID result st⌝⦄ := by
  cases children with
  -- Without a base there is nothing to grant.
  | nil =>
    mvcgen [walkExclusion]
    exact Walker.evident_deny
  | cons first excluded =>
    -- The base decides whether the loop is entered, and its path is dropped.
    have base := WalkM.triple_trivial (walkChild w descend req first)
    have loop : ⦃⌜True⌝⦄ walkExcluded w descend req excluded
        ⦃⇓? result st => ⌜w.Evident req.subjectType req.subjectID result st⌝⦄ :=
      walkExcluded_evident fancy excluded
    mvcgen [walkExclusion, base, loop]
    exact Walker.evident_deny

/-- Each operation shows evidence, with a path dropped only where the schema is not plain. -/
theorem walkOperation_evident (below : DescentEvident w req.subjectType req.subjectID descend)
    {permDef : PermissionDef P}
    (declared : w.schema.getPermission req.objectType req.permission = .ok permDef) :
    ⦃⌜True⌝⦄ walkOperation w descend req permDef
    ⦃⇓? result st => ⌜w.Evident req.subjectType req.subjectID result st⌝⦄ := by
  -- Any operation but a union makes the schema one that is not plain.
  have other : ¬ (permDef.operation = .union ∨ permDef.operation = .direct) →
      ¬ w.schema.Plain := fun fancy plain => fancy (plain.1.found declared)
  unfold walkOperation
  cases operation : permDef.operation with
  -- A child with an inline condition would make the schema one that is not plain.
  | union | direct =>
    exact walkUnion_evident below fun child among kind none =>
      none.found declared child among kind
  | intersect => exact walkIntersect_evident (other (by simp [operation])) _
  | exclusion => exact walkExclusion_evident (other (by simp [operation])) _
  | other code => mvcgen

end Walkers

/-- The recursive walk shows evidence for its grants, whatever number of hops is left. -/
theorem walkPermission_evident (w : Walker V P) (subjectType subjectID : String) (hops : Nat) :
    DescentEvident w subjectType subjectID (walkPermission w hops) := by
  -- By induction on the hops left; a node met again is refused.
  induction hops with
  | zero =>
    -- With no hop left the walk fails.
    intro req permDef _ _ _
    mvcgen [walkPermission]
  | succ hops ih =>
    rintro req permDef rfl rfl declared
    have operation := walkOperation_evident ih declared
    mvcgen [walkPermission, operation]
    exact Walker.evident_deny

/-- A check that grants shows evidence among the lookups it made, its gate's included. -/
theorem Walker.check_evident (w : Walker V P) (req : CheckRequest V) :
    ⦃⌜True⌝⦄ w.check req
    ⦃⇓? result st => ⌜w.Evident req.subjectType req.subjectID result st⌝⦄ := by
  -- The gate adds lookups to the record and takes none away.
  have gate := evaluateCondition_frame w req
  have walk := walkPermission_evident w req.subjectType req.subjectID (w.hopsAt 0)
  unfold DescentEvident at walk
  mvcgen [Walker.check, Walker.permissionAt, walk, gate]
  -- A closed gate refuses, and an open one hands on what the walk granted.
  · exact Walker.evident_deny
  · rename_i evident _ _ _ kept
    exact evident.later kept.2

/--
The path of a grant is the key of one tuple that grants the subject directly.

The tuple was live at one of the lookups the check made, and a plain schema never drops the path.
-/
theorem path_names_grant (e : Engine P) (lang : ExprLang V P) (s : Memory.Store V)
    (tc : TenantContext V) (clock : Memory.Clock) (req : CheckRequest V) {cs : CompiledSchema P}
    {result : CheckResult} (chosen : e.schemaForTenant tc = .ok cs)
    (checked : e.check lang (s.lookups (some tc) clock) (some tc) req = .ok result)
    (allowed : result.allowed = true) :
    (result.resolutionPath ≠ [] →
      ∃ t ∈ s.tuplesOf tc.tenantID,
        (∃ n < (((e.walker lang (s.lookups (some tc) clock) cs).check req).from
            .start).2.lookups.length, Memory.tupleIsExpiredAt t (clock n) = false) ∧
        t.subjectRelation = "" ∧ t.subjectType = req.subjectType ∧ t.subjectID = req.subjectID ∧
        result.resolutionPath = [t.tupleKey]) ∧
      (cs.Plain → result.resolutionPath ≠ []) := by
  obtain ⟨-, after, ran⟩ := Engine.check_ok chosen checked
  have evident := WalkM.triple_ok (Walker.check_evident _ req) trivial ran allowed
  rw [ran]
  rcases evident with ⟨n, before, type, id, relation, tested, path⟩ | ⟨empty, fancy⟩
  · obtain ⟨t, stored, live, hot, hoi, hr, hst, hsi, hsr⟩ :=
      Memory.Store.checkDirect_found tested
    -- A direct tuple's key has no userset suffix.
    have key : result.resolutionPath = [t.tupleKey] := by
      rw [path, RelationTuple.tupleKey, if_neg (by simp [hsr]), hot, hoi, hr, hst, hsi]
    exact ⟨fun _ => ⟨t, stored, ⟨n, before, live⟩, hsr, hst, hsi, key⟩, fun _ => by simp [path]⟩
  · exact ⟨fun nonempty => absurd empty nonempty, fun plain => absurd plain fancy⟩

/-- The path of the folder loop names the tuple on the folder above. -/
theorem path_names_grant_folderLoop :
    (["folder:b#viewer@user:u"] ≠ [] →
      ∃ t ∈ (acmeStore folderLoop).tuplesOf "acme",
        (∃ n < (((acmeEngine folderSchema 25).walker literalLang
            ((acmeStore folderLoop).lookups (some acme) fun _ => 0) folderSchema).check
            folderRequest |>.from .start).2.lookups.length,
          Memory.tupleIsExpiredAt t 0 = false) ∧
        t.subjectRelation = "" ∧ t.subjectType = "user" ∧ t.subjectID = "u" ∧
        ["folder:b#viewer@user:u"] = [t.tupleKey]) ∧
      (folderSchema.Plain → ["folder:b#viewer@user:u"] ≠ []) :=
  path_names_grant (acmeEngine folderSchema 25) literalLang (acmeStore folderLoop) acme
    (fun _ => 0) folderRequest rfl
    (show _ = Except.ok (allow ["folder:b#viewer@user:u"]) from rfl) rfl

end ZanGuard
