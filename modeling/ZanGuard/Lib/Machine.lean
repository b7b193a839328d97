import Mathlib.Data.List.Basic

/-! Deterministic machines: what every run preserves, and what one party of a run observes. -/

/-- A machine that answers each input and moves on. -/
structure Machine (σ ι ο : Type) where
  step : σ → ι → ο × σ

namespace Machine

variable {σ ι ο : Type} (m : Machine σ ι ο)

/-- The state after a run. -/
def final : σ → List ι → σ
  | s, [] => s
  | s, i :: rest => final (m.step s i).2 rest

/-- The inputs of a run with their answers, in order. -/
def trace : σ → List ι → List (ι × ο)
  | _, [] => []
  | s, i :: rest => (i, (m.step s i).1) :: trace (m.step s i).2 rest

variable {m}

/-- What every allowed input preserves holds after every run of allowed inputs. -/
theorem final_invariant {inv : σ → Prop} {allowed : ι → Prop}
    (preserved : ∀ s i, allowed i → inv s → inv (m.step s i).2) {s : σ} (start : inv s)
    {inputs : List ι} (all : ∀ i ∈ inputs, allowed i) : inv (m.final s inputs) := by
  -- The induction is on the run, from whatever state it has reached.
  induction inputs generalizing s with
  | nil => exact start
  | cons i rest ih =>
    refine ih (preserved s i (all i List.mem_cons_self) start) ?_
    exact fun j member => all j (List.mem_cons_of_mem _ member)

/-- Every input of a run is allowed in the state in which it comes. -/
def Along (m : Machine σ ι ο) (allowed : σ → ι → Prop) : σ → List ι → Prop
  | _, [] => True
  | s, i :: rest => allowed s i ∧ m.Along allowed (m.step s i).2 rest

instance decidableAlong (m : Machine σ ι ο) (allowed : σ → ι → Prop)
    [∀ s i, Decidable (allowed s i)] :
    (s : σ) → (inputs : List ι) → Decidable (m.Along allowed s inputs)
  | _, [] => .isTrue trivial
  | s, i :: rest =>
    have := decidableAlong m allowed (m.step s i).2 rest
    inferInstanceAs (Decidable (_ ∧ _))

/-- A run that goes on after another one. -/
theorem final_append (s : σ) (early late : List ι) :
    m.final s (early ++ late) = m.final (m.final s early) late := by
  -- The induction is on the first part.
  induction early generalizing s with
  | nil => rfl
  | cons i rest ih => exact ih _

/-- A run is allowed exactly when its first part is, and the rest is from where that part ends. -/
theorem along_append {allowed : σ → ι → Prop} {s : σ} {early late : List ι} :
    m.Along allowed s (early ++ late) ↔
      m.Along allowed s early ∧ m.Along allowed (m.final s early) late := by
  -- The induction is on the first part, from whatever state it starts.
  induction early generalizing s with
  | nil => exact ⟨fun along => ⟨trivial, along⟩, fun parts => parts.2⟩
  | cons i rest ih => simp only [List.cons_append, Along, final, ih, and_assoc]

/-- A run is allowed exactly when each of its inputs is, in the state the inputs before it lead to. -/
theorem along_iff {allowed : σ → ι → Prop} {s : σ} {inputs : List ι} :
    m.Along allowed s inputs ↔
      ∀ early i late, inputs = early ++ i :: late → allowed (m.final s early) i := by
  constructor
  · rintro along early i late rfl
    exact (along_append.mp along).2.1
  · intro each
    induction inputs generalizing s with
    | nil => trivial
    | cons i rest ih =>
      refine ⟨each [] i rest rfl, ih fun early j late split => ?_⟩
      -- An input of the rest comes after the first one.
      exact each (i :: early) j late (by rw [split]; rfl)

/-- What every allowed input preserves holds after every allowed run. -/
theorem Along.final_invariant {allowed : σ → ι → Prop} {s : σ} {inputs : List ι}
    (along : m.Along allowed s inputs) (inv : σ → Prop)
    (preserved : ∀ s i, allowed s i → inv s → inv (m.step s i).2) (start : inv s) :
    inv (m.final s inputs) := by
  -- The induction is on the run, from whatever state it has reached.
  induction inputs generalizing s with
  | nil => exact start
  | cons i rest ih => exact ih along.2 (preserved s i along.1 start)

/-- What follows of every input from an invariant holds all along an allowed run. -/
theorem Along.imp_invariant {allowed goal : σ → ι → Prop} {s : σ} {inputs : List ι}
    (along : m.Along allowed s inputs) (inv : σ → Prop)
    (preserved : ∀ s i, allowed s i → inv s → inv (m.step s i).2) (start : inv s)
    (gives : ∀ s i, allowed s i → inv s → goal s i) : m.Along goal s inputs := by
  -- The induction is on the run, from whatever state it has reached.
  induction inputs generalizing s with
  | nil => trivial
  | cons i rest ih =>
    exact ⟨gives s i along.1 start, ih along.2 (preserved s i along.1 start)⟩

/-- What every input preserves of a state and of the history kept beside it holds after every run. -/
theorem history_invariant {η : Type} {inv : σ → η → Prop} {record : η → ι × ο → η}
    (preserved : ∀ s h i, inv s h → inv (m.step s i).2 (record h (i, (m.step s i).1))) {s : σ} {h : η}
    (start : inv s h) (inputs : List ι) :
    inv (m.final s inputs) ((m.trace s inputs).foldl record h) := by
  -- The induction is on the run, from whatever state and history it has reached.
  induction inputs generalizing s h with
  | nil => exact start
  | cons i rest ih => exact ih (preserved s h i start)

/--
A run comes to where the inputs alone lead that are answered in a way.

The other inputs leave the state as it is, so that those get the same answers on their own.
-/
theorem trace_of_moves {moves : ι × ο → Bool} {inv : σ → Prop}
    (preserved : ∀ s i, inv s → inv (m.step s i).2)
    (idle : ∀ s i, inv s → moves (i, (m.step s i).1) = false → (m.step s i).2 = s) {s : σ}
    (start : inv s) (inputs : List ι) :
    m.final s (((m.trace s inputs).filter moves).map (·.1)) = m.final s inputs ∧
      m.trace s (((m.trace s inputs).filter moves).map (·.1)) = (m.trace s inputs).filter moves := by
  -- Each input either moves both runs in step or leaves them where they are.
  induction inputs generalizing s with
  | nil => exact ⟨rfl, rfl⟩
  | cons i rest ih =>
    have later := ih (preserved s i start)
    cases moving : moves (i, (m.step s i).1) with
    | true =>
      simp only [trace, List.filter_cons, moving, if_true, List.map_cons, final]
      exact ⟨later.1, by rw [later.2]⟩
    | false =>
      have same := idle s i start moving
      rw [same] at later
      simp only [trace, List.filter_cons, moving, Bool.false_eq_true, if_false, final, same]
      exact later

/-- Two machines that are given the same inputs. -/
def pair {τ π : Type} (m : Machine σ ι ο) (n : Machine τ ι π) : Machine (σ × τ) ι (ο × π) where
  step s i := (((m.step s.1 i).1, (n.step s.2 i).1), ((m.step s.1 i).2, (n.step s.2 i).2))

/-- A relation between states under which one party cannot tell them apart, whatever others do. -/
structure Unwinding (m : Machine σ ι ο) (mine : ι → Bool) (allowed : ι → Prop)
    (alike : σ → σ → Prop) : Prop where
  /-- The party's own inputs are answered alike and keep the states alike. -/
  own : ∀ {s t i}, mine i = true → allowed i → alike s t →
    (m.step s i).1 = (m.step t i).1 ∧ alike (m.step s i).2 (m.step t i).2
  /-- The inputs of others leave nothing the party could notice. -/
  foreign : ∀ {s t i}, mine i = false → alike s t → alike (m.step s i).2 t

/-- A party observes of a run what it would observe if the others had not taken part. -/
theorem Unwinding.trace_filter {mine : ι → Bool} {allowed : ι → Prop} {alike : σ → σ → Prop}
    (unwinding : Unwinding m mine allowed alike) {inputs : List ι}
    (all : ∀ i ∈ inputs, mine i = true → allowed i) {s t : σ} (start : alike s t) :
    (m.trace s inputs).filter (fun answered => mine answered.1) =
      m.trace t (inputs.filter mine) := by
  -- Each input either moves both runs in step or only the one that keeps it.
  induction inputs generalizing s t with
  | nil => rfl
  | cons i rest ih =>
    have later : ∀ j ∈ rest, mine j = true → allowed j :=
      fun j member => all j (List.mem_cons_of_mem _ member)
    cases owned : mine i with
    | true =>
      obtain ⟨same, next⟩ := unwinding.own owned (all i List.mem_cons_self owned) start
      simp only [List.filter_cons, trace, owned, if_true, same, ih later next]
    | false =>
      -- An input of somebody else is not observed, and leaves nothing to notice.
      simp only [List.filter_cons, trace, owned, Bool.false_eq_true, if_false]
      exact ih later (unwinding.foreign owned start)

end Machine
