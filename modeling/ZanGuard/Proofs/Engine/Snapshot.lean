import Mathlib.Data.List.Infix
import ZanGuard.Proofs.Engine.Congruence
import ZanGuard.Proofs.Engine.Sound
import ZanGuard.Proofs.Storage.Live

/-! A check that runs while other clients write: each lookup reads the state of its own moment. -/

namespace ZanGuard

variable {V P : Type}

namespace Memory

/-- A change another client makes to the stored tuples while a check runs. -/
inductive Change (V : Type) where
  | writeTuple (ctx : Context V) (tuple : RelationTuple V) (clock : Clock)
  | deleteTuple (ctx : Context V) (tuple : RelationTuple V) (clock : Clock)

/-- The state after a change, refused or not. -/
def Change.apply (s : Store V) : Change V → Store V
  | .writeTuple ctx tuple clock => (s.writeTuple ctx tuple clock).2
  | .deleteTuple ctx tuple clock => (s.deleteTuple ctx tuple clock).2

/-- The state at a lookup, where `changes n` land right before the `n`-th one. -/
def Store.during (s : Store V) (changes : Nat → List (Change V)) : Nat → Store V
  | 0 => (changes 0).foldl Change.apply s
  | n + 1 => (changes (n + 1)).foldl Change.apply (s.during changes n)

end Memory

/-- Two stores answer a lookup alike. -/
def Lookup.AnsweredAlike (store other : Lookups V) (n : Nat) : Lookup → Prop
  | .checkDirect type id relation subjectType subjectID
  | .usersetMember type id relation subjectType subjectID =>
    store.checkDirect n type id relation subjectType subjectID =
      other.checkDirect n type id relation subjectType subjectID
  | .listSubjects type id relation =>
    store.listSubjects n type id relation = other.listSubjects n type id relation
  | .listRelatedObjects type id relation =>
    store.listRelatedObjects n type id relation = other.listRelatedObjects n type id relation
  | .getObjectAttributes type id =>
    store.getObjectAttributes n type id = other.getObjectAttributes n type id
  | .getSubjectAttributes type id =>
    store.getSubjectAttributes n type id = other.getSubjectAttributes n type id

/-- Two stores answer every lookup on a record alike, each at its own place in the record. -/
def AllAlike (store other : Lookups V) (made : List Lookup) : Prop :=
  ∀ n (call : Lookup), made[n]? = some call → call.AnsweredAlike store other n

theorem AllAlike.before {store other : Lookups V} {early late : List Lookup}
    (alike : AllAlike store other late) (earlier : early <+: late) :
    AllAlike store other early := by
  -- An earlier lookup keeps its number in the longer record.
  obtain ⟨rest, rfl⟩ := earlier
  intro n call made
  apply alike n call
  rw [List.getElem?_append_left (List.getElem?_eq_some_iff.mp made).1]
  exact made

/-- A step over one store is the step over another that answers the lookups it makes alike. -/
def Follows {α : Type} (store other : Lookups V) (step step' : WalkM α) : Prop :=
  ∀ st, st.lookups <+: (step.from st).2.lookups ∧
    (AllAlike store other (step.from st).2.lookups → step'.from st = step.from st)

section Rules

variable {α β : Type} {store other : Lookups V}

/-- A step that makes no lookup follows itself. -/
theorem Follows.quiet {step : WalkM α} (quiet : ∀ st, (step.from st).2.lookups = st.lookups) :
    Follows store other step step := by
  intro st
  rw [quiet st]
  exact ⟨List.prefix_rfl, fun _ => rfl⟩

/-- Two steps in a row follow when each of them does. -/
theorem Follows.bind {first first' : WalkM α} {next next' : α → WalkM β}
    (head : Follows store other first first')
    (tail : ∀ a, Follows store other (next a) (next' a)) :
    Follows store other (first >>= next) (first' >>= next') := by
  intro st
  obtain ⟨made, same⟩ := head st
  rw [WalkM.from_bind, WalkM.from_bind]
  cases ran : first.from st with
  | mk outcome mid =>
    rw [ran] at made same
    cases outcome with
    | error e =>
      refine ⟨made, ?_⟩
      intro alike
      rw [same alike]
      rfl
    | ok a =>
      -- The lookups of the first step stay on the record, so they were answered alike too.
      obtain ⟨more, rest⟩ := tail a mid
      refine ⟨made.trans more, ?_⟩
      intro alike
      rw [same (alike.before more)]
      exact rest alike

/-- A lookup follows, since its answer is the same wherever it is on the record. -/
theorem Follows.tryLookup (call : Lookup) {answer answer' : Nat → Except Err α}
    (alike : ∀ n, call.AnsweredAlike store other n → answer n = answer' n) :
    Follows store other (tryLookup call answer) (tryLookup call answer') := by
  intro st
  rw [WalkM.from_tryLookup, WalkM.from_tryLookup]
  refine ⟨List.prefix_append _ _, ?_⟩
  intro all
  have here : (st.lookups ++ [call])[st.lookups.length]? = some call := by simp
  rw [alike _ (all _ call here)]

/-- Following is kept by everything a walk does besides lookups. -/
theorem follows_relation (store other : Lookups V) :
    StepRelation (fun _ => True) fun step step' => Follows store other step step' where
  pure a := .quiet fun _ => rfl
  throw e _ := .quiet fun _ => rfl
  bind := .bind
  get := .quiet fun _ => rfl
  mark key := .quiet fun _ => rfl
  gate := by
    intro α step step' inner st
    obtain ⟨made, same⟩ := inner st
    rw [WalkM.from_adapt, WalkM.from_adapt]
    refine ⟨made, ?_⟩
    intro alike
    rw [same alike]

/-- A lookup whose failure ends the check follows as well. -/
theorem Follows.lookup (call : Lookup) {answer answer' : Nat → Except Err α}
    (alike : ∀ n, call.AnsweredAlike store other n → answer n = answer' n) :
    Follows store other (lookup call answer) (lookup call answer') := by
  refine .bind (.tryLookup call alike) ?_
  intro value
  cases value with
  | error e => exact (follows_relation store other).throw e trivial
  | ok value => exact (follows_relation store other).pure value

/-- The lookups of any two stores follow each other where they are answered alike. -/
theorem Lookups.follows_related (store other : Lookups V) (schema : CompiledSchema P)
    (subjectType subjectID : String) :
    Related (fun step step' => Follows store other step step') schema subjectType subjectID
      store other where
  direct _ _ _ := .lookup _ fun _ same => same
  member _ _ _ := (follows_relation store other).map _ (.tryLookup _ fun _ same => same)
  subjects _ _ _ := (follows_relation store other).map _ (.lookup _ fun _ same => same)
  related _ _ _ _ := .lookup _ fun _ same => same
  objectAttrs _ _ := (follows_relation store other).map _ (.tryLookup _ fun _ same => same)
  subjectAttrs := (follows_relation store other).map _ (.tryLookup _ fun _ same => same)

end Rules

/-- A check is the check over any store that answers the lookups it makes alike. -/
theorem Engine.check_alike {e : Engine P} {lang : ExprLang V P} {store other : Lookups V}
    {tc : TenantContext V} {req : CheckRequest V} {cs : CompiledSchema P}
    (chosen : e.schemaForTenant tc = .ok cs)
    (alike : AllAlike store other (((e.walker lang store cs).check req).from .start).2.lookups) :
    e.check lang store (some tc) req = e.check lang other (some tc) req := by
  cases passes : checkTenant (some tc) with
  | error refused => rw [Engine.check_refused passes, Engine.check_refused passes]
  | ok passed =>
    -- Past the guard, the second walk asks what the first one asked.
    obtain rfl := checkTenant_same passes
    have follows : Follows store other ((e.walker lang store cs).check req)
        ((e.walker lang other cs).check req) :=
      Walker.check_related (follows_relation store other) (Walker.mayThrow_any _)
        (store.follows_related other _ _ _)
    rw [Engine.check_eq passes chosen, Engine.check_eq passes chosen, (follows .start).2 alike]

namespace Memory

/-! ### Changes that do not touch what a check asks for -/

/-- The stored tuples of an object and relation, expired ones included. -/
def Store.tuplesAbout (s : Store V) (tenantID type id relation : String) : List (RelationTuple V) :=
  (s.tuplesOf tenantID).filter fun t =>
    t.objectType == type && t.objectID == id && t.relation == relation

/-- Two states store the same tuples about what a lookup asks for. -/
def Untouched (tenantID : String) (s t : Store V) : Lookup → Prop
  | .checkDirect type id relation _ _ | .usersetMember type id relation _ _
  | .listSubjects type id relation | .listRelatedObjects type id relation =>
    s.tuplesAbout tenantID type id relation = t.tuplesAbout tenantID type id relation
  | .getObjectAttributes _ _ | .getSubjectAttributes _ _ => True

theorem Untouched.refl (tenantID : String) (s : Store V) (call : Lookup) :
    Untouched tenantID s s call := by
  cases call <;> trivial

theorem Untouched.symm {tenantID : String} {s t : Store V} {call : Lookup}
    (same : Untouched tenantID s t call) : Untouched tenantID t s call := by
  cases call <;> first | exact Eq.symm same | trivial

theorem Untouched.trans {tenantID : String} {s t r : Store V} {call : Lookup}
    (first : Untouched tenantID s t call) (second : Untouched tenantID t r call) :
    Untouched tenantID s r call := by
  cases call <;> first | exact Eq.trans first second | trivial

/-- Two states with the same tenants and attributes. -/
structure SameFrame (s t : Store V) : Prop where
  tenants : s.tenants = t.tenants
  objAttrs : s.objAttrs = t.objAttrs
  subAttrs : s.subAttrs = t.subAttrs

theorem SameFrame.symm {s t : Store V} (same : SameFrame s t) : SameFrame t s :=
  ⟨same.tenants.symm, same.objAttrs.symm, same.subAttrs.symm⟩

theorem SameFrame.trans {s t r : Store V} (first : SameFrame s t) (second : SameFrame t r) :
    SameFrame s r :=
  ⟨first.tenants.trans second.tenants, first.objAttrs.trans second.objAttrs,
    first.subAttrs.trans second.subAttrs⟩

/-- Logging changes the log only. -/
theorem logInserts_frame (s : Store V) (tenantID : String) (clock : Clock) (i : Nat)
    (staged : List (RelationTuple V)) : SameFrame s (s.logInserts tenantID clock i staged) := by
  induction staged generalizing s i with
  | nil => exact ⟨rfl, rfl, rfl⟩
  | cons t rest ih =>
    obtain ⟨tenants, objAttrs, subAttrs⟩ :=
      ih (s.appendTupleChangelogUnsafe tenantID .insert t "api" (clock i)) (i + 1)
    exact ⟨tenants, objAttrs, subAttrs⟩

/-- Nothing touches what a lookup asks for between two moments of a run. -/
def Store.Still (s : Store V) (changes : Nat → List (Change V)) (tenantID : String)
    (call : Lookup) (n k : Nat) : Prop :=
  ∀ j, n ≤ j ∧ j < k ∨ k ≤ j ∧ j < n →
    Untouched tenantID (s.during changes j) (s.during changes (j + 1)) call

/-- Then the two moments store the same about it. -/
theorem Store.Still.untouched {s : Store V} {changes : Nat → List (Change V)} {tenantID : String}
    {call : Lookup} {n k : Nat} (still : s.Still changes tenantID call n k) :
    Untouched tenantID (s.during changes n) (s.during changes k) call := by
  -- One moment after another, from the earlier of the two to the later one.
  have upward : ∀ from_ d, (∀ j, from_ ≤ j ∧ j < from_ + d →
      Untouched tenantID (s.during changes j) (s.during changes (j + 1)) call) →
        Untouched tenantID (s.during changes from_) (s.during changes (from_ + d)) call := by
    intro from_ d
    induction d with
    | zero => exact fun _ => .refl _ _ _
    | succ d ih =>
      intro each
      have before := ih fun j inside => each j (by omega)
      exact before.trans (each (from_ + d) (by omega))
  rcases Nat.le_total n k with order | order
  · have reached := upward n (k - n) fun j inside => still j (by omega)
    rwa [Nat.add_sub_cancel' order] at reached
  · have reached := upward k (n - k) fun j inside => still j (by omega)
    rw [Nat.add_sub_cancel' order] at reached
    exact reached.symm

end Memory

/-- Between the first and the second lookup of a check, another document gets a viewer. -/
def elsewhere (n : Nat) : List (Memory.Change Bool) :=
  if n = 1 then [.writeTuple (some acme) (fact "doc" "2" "viewer" "user" "v") fun _ => 0] else []

end ZanGuard
