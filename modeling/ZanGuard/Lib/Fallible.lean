import Mathlib.Data.List.Forall2

/-! What must have succeeded when a fallible computation did. -/

namespace Except

variable {ε δ α β : Type}

/-- Two steps in a row succeed only one after the other. -/
theorem of_bind_ok {first : Except ε α} {next : α → Except ε β} {b : β}
    (ran : first >>= next = .ok b) : ∃ a, first = .ok a ∧ next a = .ok b := by
  cases first with
  | error e => cases ran
  | ok a => exact ⟨a, rfl, ran⟩

/-- Two steps in a row fail at the first of them or at the second. -/
theorem of_bind_error {first : Except ε α} {next : α → Except ε β} {e : ε}
    (failed : first >>= next = .error e) :
    first = .error e ∨ ∃ a, first = .ok a ∧ next a = .error e := by
  cases first with
  | error other => exact .inl (congrArg Except.error (Except.error.inj failed))
  | ok a => exact .inr ⟨a, rfl, failed⟩

/-- Handing on a part of a result. -/
theorem of_map_ok {step : Except ε α} {part : α → β} {b : β} (ran : part <$> step = .ok b) :
    ∃ a, step = .ok a ∧ part a = b := by
  cases step with
  | error e => cases ran
  | ok a => exact ⟨a, rfl, Except.ok.inj ran⟩

/-- Only errors are wrapped. -/
theorem of_mapError_ok {step : Except ε α} {wrap : ε → δ} {a : α}
    (ran : step.mapError wrap = .ok a) : step = .ok a := by
  cases step with
  | error e => cases ran
  | ok value => rw [Except.ok.inj ran]

/-- And every error is wrapped. -/
theorem of_mapError_error {step : Except ε α} {wrap : ε → δ} {e : δ}
    (failed : step.mapError wrap = .error e) : ∃ inner, step = .error inner ∧ wrap inner = e := by
  cases step with
  | error inner => exact ⟨inner, rfl, Except.error.inj failed⟩
  | ok value => cases failed

/-- A fallible function succeeds on a list when it does on every element. -/
theorem mapM_eq_ok_iff {f : α → Except ε β} {xs : List α} {ys : List β} :
    xs.mapM f = .ok ys ↔ List.Forall₂ (fun x y => f x = .ok y) xs ys := by
  -- The induction is on the list, whose elements are treated one by one.
  induction xs generalizing ys with
  | nil =>
    rw [List.mapM_nil, List.forall₂_nil_left_iff]
    exact ⟨fun done => (Except.ok.inj done).symm, fun empty => by rw [empty]; rfl⟩
  | cons x rest ih =>
    rw [List.mapM_cons, List.forall₂_cons_left_iff]
    constructor
    · intro done
      obtain ⟨y, first, done⟩ := of_bind_ok done
      obtain ⟨others, later, done⟩ := of_bind_ok done
      exact ⟨y, others, first, ih.mp later, (Except.ok.inj done).symm⟩
    · rintro ⟨y, others, first, later, rfl⟩
      rw [first, ih.mpr later]
      rfl

/-- It has the results of a function that tells each of them. -/
theorem mapM_ok_of_forall {f : α → Except ε β} {g : α → β} {xs : List α}
    (each : ∀ x ∈ xs, f x = .ok (g x)) : xs.mapM f = .ok (xs.map g) := by
  rw [mapM_eq_ok_iff, List.forall₂_map_right_iff, List.forall₂_same]
  exact each

/-- Where it succeeds on a list, it does on each element. -/
theorem mapM_ok_elem {f : α → Except ε β} {xs : List α} {ys : List β} (ran : xs.mapM f = .ok ys)
    {x : α} (member : x ∈ xs) : ∃ y, f x = .ok y := by
  -- The induction is on the correspondence of the two lists.
  rw [mapM_eq_ok_iff] at ran
  induction ran with
  | nil => cases member
  | @cons first y _ _ same _ ih =>
    rcases List.mem_cons.mp member with rfl | later
    · exact ⟨y, same⟩
    · exact ih later

/-- It fails on a list when it does on an element. -/
theorem mapM_error_iff {f : α → Except ε β} {xs : List α} :
    (∃ e, xs.mapM f = .error e) ↔ ∃ x ∈ xs, ∃ e, f x = .error e := by
  -- The first element that fails ends the list.
  induction xs with
  | nil => simp [pure, Except.pure]
  | cons x rest ih =>
    rw [List.mapM_cons, List.exists_mem_cons_iff, ← ih]
    cases f x with
    | error e => simp [bind, Except.bind]
    | ok y =>
      cases rest.mapM f with
      | error e => simp [bind, Except.bind]
      | ok ys => simp [bind, Except.bind, pure, Except.pure]

/-- So it succeeds on a list when it does on every element. -/
theorem mapM_ok_of_each {f : α → Except ε β} {xs : List α} (each : ∀ x ∈ xs, ∃ y, f x = .ok y) :
    ∃ ys, xs.mapM f = .ok ys := by
  cases ran : xs.mapM f with
  | ok ys => exact ⟨ys, rfl⟩
  | error e =>
    obtain ⟨x, member, _, failed⟩ := mapM_error_iff.mp ⟨e, ran⟩
    obtain ⟨y, done⟩ := each x member
    cases failed.symm.trans done

/-- What holds of all results holds of the result of each element. -/
theorem mapM_ok_forall_iff {f : α → Except ε β} {xs : List α} {ys : List β}
    (ran : xs.mapM f = .ok ys) (p : β → Prop) :
    (∀ y ∈ ys, p y) ↔ ∀ x ∈ xs, ∀ y, f x = .ok y → p y := by
  rw [mapM_eq_ok_iff] at ran
  -- The induction is on the correspondence of the two lists.
  induction ran with
  | nil => simp
  | cons same _ ih => simp [same, ih]

end Except

/-- A step that passes a state on continues unless it failed, and keeps the state when it did. -/
theorem ExceptT.run_state_bind {σ ε α β : Type} (first : ExceptT ε (StateM σ) α)
    (next : α → ExceptT ε (StateM σ) β) (s : σ) :
    (first >>= next).run.run s =
      match first.run.run s with
      | (.ok value, after) => (next value).run.run after
      | (.error e, after) => (.error e, after) := by
  rw [ExceptT.run_bind, StateT.run_bind]
  simp only [bind]
  rcases first.run.run s with ⟨outcome, after⟩
  cases outcome <;> rfl
