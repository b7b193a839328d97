import ZanGuard.Proofs.Engine.Congruence
import ZanGuard.Proofs.Engine.Sound

/-! A check whose lookups fail here and there, against the check in which none does. -/

namespace ZanGuard

variable {V P : Type}

/-- The answer of a lookup that may fail. -/
def faultOr {α : Type} (fault : Option Err) (answer : Except Err α) : Except Err α :=
  match fault with
  | some e => .error e
  | none => answer

/--
What the walk assumes after a failed lookup is what the lookup would have found.

Only three lookups have their failure swallowed; the failure of any other ends the check.
-/
def Lookup.FallbackHolds (store : Lookups V) (n : Nat) : Lookup → Prop
  | .usersetMember objectType objectID relation subjectType subjectID =>
    store.checkDirect n objectType objectID relation subjectType subjectID ≠ .ok true
  | .getObjectAttributes objectType objectID =>
    attrsOrEmpty (store.getObjectAttributes n objectType objectID) = some ∅
  | .getSubjectAttributes subjectType subjectID =>
    attrsOrEmpty (store.getSubjectAttributes n subjectType subjectID) = some ∅
  | .checkDirect _ _ _ _ _ | .listSubjects _ _ _ | .listRelatedObjects _ _ _ => True

/-- Every failure among the lookups made was harmless. -/
def Harmless (store : Lookups V) (faults : Nat → Option Err) (made : List Lookup) : Prop :=
  ∀ n call, made[n]? = some call → faults n ≠ none → call.FallbackHolds store n

theorem Harmless.before {store : Lookups V} {faults : Nat → Option Err} {early late : List Lookup}
    (harmless : Harmless store faults late) (earlier : early <+: late) :
    Harmless store faults early := by
  -- An earlier lookup keeps its number in the longer record.
  obtain ⟨rest, rfl⟩ := earlier
  intro n call made failed
  refine harmless n call ?_ failed
  rw [List.getElem?_append_left (List.getElem?_eq_some_iff.mp made).1]
  exact made

/-- A faulty step that returns makes the moves of the clean one, if its failures are harmless. -/
def Lockstep {α : Type} (store : Lookups V) (faults : Nat → Option Err) (faulty clean : WalkM α) :
    Prop :=
  ∀ st result after, faulty.from st = (.ok result, after) →
    st.lookups <+: after.lookups ∧
      (Harmless store faults after.lookups → clean.from st = (.ok result, after))

section Rules

variable {α β : Type} {store : Lookups V} {faults : Nat → Option Err}

/-- A step that makes no lookup is in lockstep with itself. -/
theorem Lockstep.quiet {step : WalkM α}
    (quiet : ∀ st result after, step.from st = (.ok result, after) → after.lookups = st.lookups) :
    Lockstep store faults step step := by
  intro st result after ran
  exact ⟨quiet st result after ran ▸ List.prefix_rfl, fun _ => ran⟩

theorem Lockstep.pure (a : α) : Lockstep store faults (Pure.pure a) (Pure.pure a) := by
  refine .quiet ?_
  intro st result after ran
  rw [(Prod.mk.inj ran).2]

theorem Lockstep.throw (e : Err) :
    Lockstep store faults (throw e : WalkM α) (MonadExcept.throw e) := by
  intro st result after ran
  cases ran

/-- Two steps in a row are in lockstep when each of them is. -/
theorem Lockstep.bind {faulty clean : WalkM α} {next again : α → WalkM β}
    (first : Lockstep store faults faulty clean)
    (second : ∀ a, Lockstep store faults (next a) (again a)) :
    Lockstep store faults (faulty >>= next) (clean >>= again) := by
  -- The lookups of the first step stay on the record, so their failures were harmless too.
  intro st result after ran
  obtain ⟨a, mid, early, late⟩ := WalkM.from_bind_ok ran
  obtain ⟨made, same⟩ := first st a mid early
  obtain ⟨more, rest⟩ := second a mid result after late
  refine ⟨made.trans more, ?_⟩
  intro harmless
  rw [WalkM.from_bind, same (harmless.before more)]
  exact rest harmless

/-- A lookup whose failure ends the check is in lockstep, since it did not fail. -/
theorem Lockstep.lookup (call : Lookup) (answer : Nat → Except Err α) :
    Lockstep store faults (lookup call fun n => faultOr (faults n) (answer n))
      (lookup call answer) := by
  -- A failure would have been the outcome of the step, and the step returned.
  intro st result after ran
  rw [WalkM.from_lookup] at ran
  obtain ⟨answered, rfl⟩ := Prod.mk.inj ran
  refine ⟨List.prefix_append _ _, ?_⟩
  intro _
  cases failed : faults st.lookups.length with
  | some e =>
    rw [failed] at answered
    cases answered
  | none =>
    have same : answer st.lookups.length = .ok result := by
      rw [failed] at answered
      exact answered
    rw [WalkM.from_lookup, same]

/-- Reading the state makes no lookup. -/
theorem Lockstep.get : Lockstep store faults (MonadState.get : WalkM WalkState) MonadState.get := by
  refine .quiet ?_
  intro st result after ran
  rw [(Prod.mk.inj ran).2]

/-- Marking a node makes no lookup. -/
theorem Lockstep.mark (key : String) :
    Lockstep store faults
      (modify fun st : WalkState => { st with visited := st.visited.add key } : WalkM PUnit)
      (modify fun st : WalkState => { st with visited := st.visited.add key }) := by
  refine .quiet ?_
  intro st result after ran
  rw [← (Prod.mk.inj ran).2]

/-- Wrapping the error of a step keeps lockstep. -/
theorem Lockstep.adapt {faulty clean : WalkM α} (wrap : Err → Err)
    (inner : Lockstep store faults faulty clean) :
    Lockstep store faults (ExceptT.adapt wrap faulty) (ExceptT.adapt wrap clean) := by
  -- Only errors are wrapped, so a step that returns did so before the wrapping.
  intro st result after ran
  have returned : faulty.from st = (.ok result, after) := by
    rw [WalkM.from_adapt] at ran
    obtain ⟨same, kept⟩ := Prod.mk.inj ran
    refine Prod.ext ?_ kept
    cases out : (faulty.from st).1 with
    | error e => simp [out, Except.mapError] at same
    | ok value => simpa [out, Except.mapError] using same
  obtain ⟨made, same⟩ := inner st result after returned
  refine ⟨made, ?_⟩
  intro harmless
  rw [WalkM.from_adapt, same harmless]
  rfl

end Rules

end ZanGuard
