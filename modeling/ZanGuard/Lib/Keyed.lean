import Mathlib.Data.List.Nodup
import Mathlib.Logic.Function.Basic

/-! Lists whose elements have distinct keys, read as maps. -/

namespace Keyed

variable {α κ : Type} {key : α → κ}

/-- Replacing an element by one with the same key keeps the list of keys. -/
theorem map_key_set {xs : List α} {i : Nat} {a : α} (same : (xs.map key)[i]? = some (key a)) :
    (xs.set i a).map key = xs.map key := by
  -- Writing a value over itself leaves a list as it is, and so the keys.
  rw [List.map_set]
  obtain ⟨bound, there⟩ := List.getElem?_eq_some_iff.mp same
  rw [← there, List.set_getElem_self]

variable [DecidableEq κ]

/-- The element a list holds under a key. -/
def get (key : α → κ) (xs : List α) (k : κ) : Option α :=
  xs.find? fun a => key a = k

/-- Put elements into a map under their own keys, one after the other. -/
def putAll (key : α → κ) (map : κ → Option α) (xs : List α) : κ → Option α :=
  xs.foldl (fun map a => Function.update map (key a) (some a)) map

@[simp] theorem get_nil (key : α → κ) : get key [] = fun _ => none := rfl

theorem get_cons (a : α) (xs : List α) :
    get key (a :: xs) = Function.update (get key xs) (key a) (some a) := by
  -- The head is found first, and hides whatever the tail holds under its key.
  funext k
  by_cases same : key a = k
  · simp [get, same]
  · have other : k ≠ key a := fun h => same h.symm
    simp [get, same, other]

/-- A list holds nothing under a key none of its elements has. -/
theorem get_eq_none {xs : List α} {k : κ} (missing : k ∉ xs.map key) : get key xs k = none := by
  -- An element found under the key would have put the key into the list.
  rw [get, List.find?_eq_none]
  intro a member same
  exact missing (List.mem_map.mpr ⟨a, member, of_decide_eq_true same⟩)

/-- A list with distinct keys holds each of its elements under the element's own key. -/
theorem get_of_mem {xs : List α} {a : α} (distinct : (xs.map key).Nodup) (member : a ∈ xs) :
    get key xs (key a) = some a := by
  -- The induction walks to the element, past heads that have other keys.
  induction xs with
  | nil => cases member
  | cons x rest ih =>
    rw [List.map_cons, List.nodup_cons] at distinct
    rw [get_cons]
    rcases List.mem_cons.mp member with rfl | later
    · exact Function.update_self ..
    · have apart : key a ≠ key x := fun same => distinct.1 (same ▸ List.mem_map_of_mem later)
      rw [Function.update_of_ne apart]
      exact ih distinct.2 later

/-- Adding an element with a new key puts it into the map. -/
theorem get_append_new {xs : List α} {a : α} (fresh : key a ∉ xs.map key) :
    get key (xs ++ [a]) = Function.update (get key xs) (key a) (some a) := by
  -- The new element is found last, so it must not be hidden by an earlier one.
  funext k
  by_cases same : k = key a
  · subst same
    have missing := get_eq_none fresh
    unfold get at missing ⊢
    simp [missing]
  · have other : ¬ key a = k := fun h => same h.symm
    simp [get, same, other]

/-- Replacing an element by one with the same key replaces it in the map. -/
theorem get_set {xs : List α} {i : Nat} {a old : α} (distinct : (xs.map key).Nodup)
    (there : xs[i]? = some old) (same : key old = key a) :
    get key (xs.set i a) = Function.update (get key xs) (key a) (some a) := by
  -- The induction walks to the position, past heads that have other keys.
  induction xs generalizing i with
  | nil => simp at there
  | cons x rest ih =>
    rw [List.map_cons, List.nodup_cons] at distinct
    cases i with
    | zero =>
      obtain rfl : x = old := by simpa using there
      rw [List.set_cons_zero, get_cons, get_cons, same, Function.update_idem]
    | succ i =>
      have there : rest[i]? = some old := by simpa using there
      -- The replaced element sits further down, under a key the head does not have.
      have apart : key x ≠ key a := by
        intro equal
        refine distinct.1 (List.mem_map.mpr ⟨old, List.mem_of_getElem? there, ?_⟩)
        rw [same, equal]
      rw [List.set_cons_succ, get_cons, get_cons, ih distinct.2 there,
        Function.update_comm apart]

/-- Erasing the first element a predicate selects takes its key out of the map. -/
theorem get_eraseP {xs : List α} {p : α → Bool} {a : α} (distinct : (xs.map key).Nodup)
    (found : xs.find? p = some a) :
    get key (xs.eraseP p) = Function.update (get key xs) (key a) none := by
  -- The induction walks to the element selected, past heads that stay.
  induction xs with
  | nil => simp at found
  | cons x rest ih =>
    rw [List.map_cons, List.nodup_cons] at distinct
    cases selected : p x with
    | true =>
      obtain rfl : x = a := by simpa [selected] using found
      rw [List.eraseP_cons_of_pos selected, get_cons, Function.update_idem]
      -- Keys are distinct, so nothing is left under the key erased.
      funext k
      by_cases same : k = key x
      · subst same
        rw [Function.update_self, get_eq_none distinct.1]
      · rw [Function.update_of_ne same]
    | false =>
      have found : rest.find? p = some a := by simpa [selected] using found
      have apart : key x ≠ key a := by
        intro equal
        exact distinct.1 (List.mem_map.mpr ⟨a, List.mem_of_find?_eq_some found, equal.symm⟩)
      rw [List.eraseP_cons_of_neg (by simp [selected]), get_cons, get_cons, ih distinct.2 found,
        Function.update_comm apart]

end Keyed
