import Mathlib.Data.List.Sort

/-!
Pages of a list: what a first page of a list in order holds, and what consecutive pages add up to.
-/

namespace Pages

variable {α : Type} {key : α → Nat} {items : List α}

/-- Sorting by a key puts the items in the order of their keys. -/
theorem ordered_sort (key : α → Nat) (items : List α) :
    (items.insertionSort fun a b => key a ≤ key b).Pairwise fun a b => key a ≤ key b := by
  -- The order of the keys is total and transitive, so that of the items is as well.
  have total : Std.Total fun a b : α => key a ≤ key b := ⟨fun a b => Nat.le_total (key a) (key b)⟩
  have trans : IsTrans α fun a b => key a ≤ key b := ⟨fun _ _ _ => Nat.le_trans⟩
  exact List.pairwise_insertionSort _ items

/-- Items with different keys end up strictly in order. -/
theorem strict_sort (distinct : items.Pairwise fun a b => key a ≠ key b) :
    (items.insertionSort fun a b => key a ≤ key b).Pairwise fun a b => key a < key b := by
  -- Sorting moves items around, and keys that differ stay different.
  have apart : (items.insertionSort fun a b => key a ≤ key b).Pairwise fun a b => key a ≠ key b :=
    (List.perm_insertionSort _ items).symm.pairwise distinct fun different => different.symm
  refine ((ordered_sort key items).and apart).imp ?_
  intro a b related
  have below := related.1
  have different := related.2
  omega

/-- When enough items lie below a bound, the first page lies below it. -/
theorem take_below (ordered : items.Pairwise fun a b => key a ≤ key b) {count bound : Nat}
    (enough : count ≤ items.countP fun a => decide (key a < bound)) :
    ∀ a ∈ items.take count, key a < bound := by
  -- The induction is on the items; once one of them is not below, no later one is.
  induction items generalizing count with
  | nil => simp
  | cons first rest ih =>
    obtain ⟨least, later⟩ := List.pairwise_cons.mp ordered
    cases count with
    | zero => simp
    | succ count =>
      by_cases below : key first < bound
      · rw [List.countP_cons_of_pos (by simpa using below)] at enough
        intro a member
        rw [List.take_succ_cons] at member
        rcases List.mem_cons.mp member with rfl | member
        · exact below
        · exact ih later (by omega) a member
      · have none_below : rest.countP (fun a => decide (key a < bound)) = 0 := by
          refine List.countP_eq_zero.mpr fun a member => ?_
          have above := least a member
          simp only [decide_eq_true_eq]
          omega
        rw [List.countP_cons_of_neg (by simpa using below), none_below] at enough
        omega

/-- An item no greater than one on the first page is on the first page. -/
theorem mem_take_of_le (strict : items.Pairwise fun a b => key a < key b) {count : Nat} {a last : α}
    (member : a ∈ items) (shown : last ∈ items.take count) (below : key a ≤ key last) :
    a ∈ items.take count := by
  rw [← List.take_append_drop count items] at member strict
  rcases List.mem_append.mp member with early | late
  · exact early
  · -- What is left out is greater than everything on the page.
    have greater := (List.pairwise_append.mp strict).2.2 last shown a late
    omega

/-! ### Consecutive pages -/

/-- The page under a number, of a list that is cut into pages of one size. -/
def page (size k : Nat) (items : List α) : List α :=
  (items.drop (k * size)).take size

/-- The items at the positions from one number on and before another. -/
def between (low high : Nat) (items : List α) : List α :=
  (items.zipIdx.filter fun item => low ≤ item.2 && item.2 < high).map (·.1)

/-- They are what is left of the items before the second number without those before the first. -/
theorem between_eq (low high : Nat) (items : List α) :
    between low high items = (items.take high).drop low := by
  -- The induction is on the items, from whatever position the first of them has.
  have general : ∀ (items : List α) (start : Nat),
      ((items.zipIdx start).filter fun item => low ≤ item.2 && item.2 < high).map (·.1) =
        (items.take (high - start)).drop (low - start) := by
    intro items
    induction items with
    | nil => simp
    | cons first rest ih =>
      intro start
      have later := ih (start + 1)
      rw [List.zipIdx_cons, List.filter_cons]
      by_cases before : start < high
      · have room : high - start = (high - (start + 1)) + 1 := by omega
        rw [room, List.take_succ_cons]
        by_cases reached : low ≤ start
        · -- From here on every item before the second number is taken.
          have none_left : low - start = 0 := by omega
          have none_later : low - (start + 1) = 0 := by omega
          rw [none_later, List.drop_zero] at later
          simp [reached, before, none_left, later]
        · have more : low - start = (low - (start + 1)) + 1 := by omega
          rw [more, List.drop_succ_cons, ← later]
          simp [reached]
      · -- The second number is passed, and nothing more is taken.
        have empty : high - start = 0 := by omega
        have over_later : high - (start + 1) = 0 := by omega
        rw [over_later] at later
        simp [before, empty, later]
  simpa [between] using general items 0

/-- Consecutive pages add up to the items before the end of the last one. -/
theorem flatten_pages (size count : Nat) (items : List α) :
    ((List.range count).map fun k => page size k items).flatten = items.take (count * size) := by
  -- The induction is on the number of pages; the last one continues where the others end.
  induction count with
  | zero => simp
  | succ count ih =>
    rw [List.range_succ, List.map_append, List.flatten_append, ih, Nat.succ_mul, List.take_add]
    simp [page]

/-- The number of pages of one size that hold a number of items. -/
def needed (size length : Nat) : Nat :=
  (length + size - 1) / size

/-- That many pages hold all the items. -/
theorem length_le_needed {size : Nat} (positive : 0 < size) (length : Nat) :
    length ≤ needed size length * size := by
  unfold needed
  have division := Nat.div_add_mod (length + size - 1) size
  have remainder := Nat.mod_lt (length + size - 1) positive
  rw [Nat.mul_comm] at division
  omega

/-- Every one of them begins before the items end. -/
theorem begins_before {size : Nat} (positive : 0 < size) {length k : Nat}
    (below : k < needed size length) : k * size < length := by
  have within : (k + 1) * size ≤ length + size - 1 :=
    (Nat.le_div_iff_mul_le positive).mp (Nat.succ_le_of_lt below)
  rw [Nat.succ_mul] at within
  omega

end Pages
