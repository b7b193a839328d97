import ZanGuard.Proofs.Engine.Congruence
import ZanGuard.Proofs.Engine.Sound
import ZanGuard.Proofs.Storage.Live

/-! Grants to other subjects do not change what a subject is told. -/

namespace ZanGuard

variable {V P : Type}

/-- Equality is kept by everything a walk does. -/
theorem eq_relation : StepRelation (fun _ => True) fun step step' => step = step' where
  pure _ := rfl
  throw _ _ := rfl
  bind := by
    rintro α β first _ next next' rfl same
    rw [show next = next' from funext same]
  get := rfl
  mark _ := rfl
  gate := by
    rintro α step _ rfl
    rfl

/-- A lookup answered alike is the same step. -/
theorem lookup_congr {α : Type} {call : Lookup} {answer answer' : Nat → Except Err α}
    (alike : ∀ n, answer n = answer' n) : lookup call answer = lookup call answer' := by
  rw [show answer = answer' from funext alike]

/-- A part of an answer that is the same on both sides is the same step. -/
theorem map_lookup_congr {α β : Type} {call : Lookup} {answer answer' : Nat → Except Err α}
    {part : α → β} (alike : ∀ n, (answer n).map part = (answer' n).map part) :
    part <$> lookup call answer = part <$> lookup call answer' := by
  have handed : ∀ answer : Nat → Except Err α,
      part <$> lookup call answer = lookup call fun n => (answer n).map part := by
    intro answer
    rw [map_eq_pure_bind]
    funext st
    -- Both record the call, and hand on an error as it is.
    show WalkM.from (lookup call answer >>= fun a => pure (part a)) st =
      WalkM.from (lookup call fun n => (answer n).map part) st
    rw [WalkM.from_bind, WalkM.from_lookup, WalkM.from_lookup]
    cases answer st.lookups.length <;> rfl
  rw [handed, handed, lookup_congr alike]

namespace Memory

/-- A direct grant to somebody else, on a relation no arrow of the object's type follows. -/
def strangers (cs : CompiledSchema P) (subjectType subjectID : String) (t : RelationTuple V) :
    Bool :=
  t.subjectRelation == "" && (t.subjectType, t.subjectID) != (subjectType, subjectID) &&
    !cs.usesArrow t.objectType t.relation

/--
Two stores that differ for a tenant only in direct grants to others than a subject.

Each store is read by its own clock; the lists are compared reading by reading.
-/
structure Store.SameBut (cs : CompiledSchema P) (tenantID subjectType subjectID : String)
    (s t : Store V) (clock clock' : Clock) : Prop where
  readable : s.checkTenantReadable tenantID = t.checkTenantReadable tenantID
  objAttrs : s.objAttrs.lookup tenantID = t.objAttrs.lookup tenantID
  subAttrs : s.subAttrs.lookup tenantID = t.subAttrs.lookup tenantID
  tuples : ∀ n,
    (s.live tenantID (clock n)).filter (fun u => !strangers cs subjectType subjectID u) =
      (t.live tenantID (clock' n)).filter (fun u => !strangers cs subjectType subjectID u)

section Lookups

variable {cs : CompiledSchema P} {tc : TenantContext V} {subjectType subjectID : String}
  {s t : Store V} {clock clock' : Clock}

/-- A selection that leaves out no more than strangers selects alike. -/
theorem Store.SameBut.filter (same : Store.SameBut cs tc.tenantID subjectType subjectID s t clock
    clock') (n : Nat) {selected : RelationTuple V → Bool}
    (familiar : ∀ u, selected u = true → strangers cs subjectType subjectID u = false) :
    (s.live tc.tenantID (clock n)).filter selected =
      (t.live tc.tenantID (clock' n)).filter selected := by
  have split : ∀ list : List (RelationTuple V), list.filter selected =
      (list.filter fun u => !strangers cs subjectType subjectID u).filter selected := by
    intro list
    rw [List.filter_filter]
    congr 1
    funext u
    -- What is selected is no stranger, so leaving strangers out first changes nothing.
    cases chosen : selected u with
    | false => rfl
    | true => rw [familiar u chosen]; rfl
  rw [split, same.tuples n, ← split]

/-- The subject itself is no stranger. -/
theorem strangers_self {u : RelationTuple V} (type : u.subjectType = subjectType)
    (id : u.subjectID = subjectID) : strangers cs subjectType subjectID u = false := by
  simp [strangers, type, id]

/-- Neither is a userset. -/
theorem strangers_userset {u : RelationTuple V} (userset : u.subjectRelation ≠ "") :
    strangers cs subjectType subjectID u = false := by
  simp [strangers, userset]

/-- Membership of the subject is tested alike. -/
theorem Store.SameBut.checkDirect (same : Store.SameBut cs tc.tenantID subjectType subjectID s t
    clock clock') (n : Nat) (type id relation : String) :
    s.checkDirect (some tc) type id relation subjectType subjectID (clock n) =
      t.checkDirect (some tc) type id relation subjectType subjectID (clock' n) := by
  apply Store.reading_congr same.readable
  -- A direct tuple of the subject is found among the live ones that were selected for it.
  let about (u : RelationTuple V) : Bool := u.objectType == type && u.objectID == id &&
    u.relation == relation && u.subjectType == subjectType && u.subjectID == subjectID &&
    u.subjectRelation == ""
  have found : ∀ list : List (RelationTuple V),
      list.any about = (list.filter about).any fun _ => true := by
    intro list
    simp [List.any_filter]
  have alike : (s.live tc.tenantID (clock n)).filter about =
      (t.live tc.tenantID (clock' n)).filter about := by
    apply same.filter n
    intro u chosen
    simp only [about, Bool.and_eq_true, beq_iff_eq] at chosen
    exact strangers_self chosen.1.1.2 chosen.1.2
  rw [Store.any_live _ _ _ about, Store.any_live _ _ _ about, found, alike, ← found]

/-- The usersets of a relation are listed alike. -/
theorem Store.SameBut.listSubjects (same : Store.SameBut cs tc.tenantID subjectType subjectID s t
    clock clock') (n : Nat) (type id relation : String) :
    (s.listSubjects (some tc) type id relation (clock n)).map usersets =
      (t.listSubjects (some tc) type id relation (clock' n)).map usersets := by
  let about (u : RelationTuple V) : Bool := decide (u.subjectRelation ≠ "") &&
    (u.objectType == type && u.objectID == id && u.relation == relation)
  have kept : ∀ (r : Store V) now, usersets ((r.liveTuples tc.tenantID type id relation now).map
      fun u => { type := u.subjectType, id := u.subjectID, relation := u.subjectRelation }) =
        ((r.live tc.tenantID now).filter about).map fun u =>
          { type := u.subjectType, id := u.subjectID, relation := u.subjectRelation } := by
    intro r now
    rw [Store.liveTuples_eq, usersets, List.filter_map, List.filter_filter]
    rfl
  have alike : (s.live tc.tenantID (clock n)).filter about =
      (t.live tc.tenantID (clock' n)).filter about := by
    apply same.filter n
    intro u chosen
    apply strangers_userset
    simp only [about, Bool.and_eq_true, decide_eq_true_eq] at chosen
    exact chosen.1
  -- The guard of a read answers alike, and the lists are compared behind it.
  simp only [Store.listSubjects, Store.reading, tenantIDFromCtx, bind, Except.bind, same.readable]
  cases t.checkTenantReadable tc.tenantID with
  | error e => rfl
  | ok _ => simp only [Except.map, kept, alike]

/-- The objects an arrow leads to are listed alike. -/
theorem Store.SameBut.listRelatedObjects (same : Store.SameBut cs tc.tenantID subjectType subjectID
    s t clock clock') (n : Nat) (type id relation : String)
    (arrow : cs.usesArrow type relation = true) :
    s.listRelatedObjects (some tc) type id relation (clock n) =
      t.listRelatedObjects (some tc) type id relation (clock' n) := by
  apply Store.reading_congr same.readable
  rw [Store.liveTuples_eq, Store.liveTuples_eq, same.filter n]
  intro u chosen
  simp only [Bool.and_eq_true, beq_iff_eq] at chosen
  simp [strangers, chosen.1.1, chosen.2, arrow]

/-- The lookups of a check for the subject are the same steps over both stores. -/
theorem Store.SameBut.related (same : Store.SameBut cs tc.tenantID subjectType subjectID s t clock
    clock') :
    Lookups.Related (fun step step' => step = step') cs subjectType subjectID
      (s.lookups (some tc) clock) (t.lookups (some tc) clock') where
  direct type id relation := lookup_congr fun n => same.checkDirect n type id relation
  member type id relation := by
    congr 2
    funext n
    exact same.checkDirect n type id relation
  subjects type id relation := map_lookup_congr fun n => same.listSubjects n type id relation
  related type id relation arrow :=
    lookup_congr fun n => same.listRelatedObjects n type id relation arrow
  -- Attributes are kept by entity, and those of the entities are the same.
  objectAttrs type id := by
    congr 2
    funext n
    exact Store.reading_congr same.readable (bucketGet_congr same.objAttrs _)
  subjectAttrs := by
    congr 2
    funext n
    exact Store.reading_congr same.readable (bucketGet_congr same.subAttrs _)

end Lookups

end Memory

/--
A check comes out the same over stores that differ in direct grants to other subjects only.

The grants must not be on a relation that some permission of the object's type follows as an arrow.
-/
theorem strangers_never_matter (e : Engine P) (lang : ExprLang V P) (tc : TenantContext V)
    (req : CheckRequest V) (cs : CompiledSchema P) (s t : Memory.Store V)
    (clock clock' : Memory.Clock) (chosen : e.schemaForTenant tc = .ok cs)
    (same : Memory.Store.SameBut cs tc.tenantID req.subjectType req.subjectID s t clock clock') :
    e.check lang (s.lookups (some tc) clock) (some tc) req =
      e.check lang (t.lookups (some tc) clock') (some tc) req := by
  cases passes : checkTenant (some tc) with
  | error refused => rw [Engine.check_refused passes, Engine.check_refused passes]
  | ok passed =>
    -- The two walks are the same computation, so they end alike in every respect.
    obtain rfl := checkTenant_same passes
    rw [Engine.check_eq passes chosen, Engine.check_eq passes chosen]
    have walks : (e.walker lang (s.lookups (some passed) clock) cs).check req =
        (e.walker lang (t.lookups (some passed) clock') cs).check req :=
      Walker.check_related eq_relation (Walker.mayThrow_any _) same.related
    rw [walks]

/-- Documents are viewed by their viewers. -/
def viewerSchema : CompiledSchema Bool :=
  schemaWith [("doc", [{
    name := "view", operation := .union, children := [{ relationRef := "viewer" }] }])]

/-- A document with one viewer, before and after somebody else may view it as well. -/
theorem strangers_never_matter_secondViewer :
    (acmeEngine viewerSchema 25).check literalLang
        ((acmeStore [fact "doc" "1" "viewer" "user" "u"]).lookups (some acme) fun _ => 0)
        (some acme) docRequest =
      (acmeEngine viewerSchema 25).check literalLang
        ((acmeStore [fact "doc" "1" "viewer" "user" "v",
          fact "doc" "1" "viewer" "user" "u"]).lookups (some acme) fun _ => 0)
        (some acme) docRequest := by
  refine strangers_never_matter _ _ _ _ viewerSchema _ _ _ _ rfl ?_
  exact { readable := rfl, objAttrs := rfl, subAttrs := rfl, tuples := fun _ => by decide }

end ZanGuard
