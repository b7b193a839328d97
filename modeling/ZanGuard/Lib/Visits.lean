import Mathlib.Data.Finset.Card
import Mathlib.Data.List.Nodup

/-! The record of a search that tells nodes apart by their keys and has a limit of depth. -/

namespace Visits

variable {ν κ : Type}

/-- What a search does with a node it comes to. -/
inductive Event (ν : Type) where
  /-- The key of the node is known, and the search passes over it. -/
  | skipped (node : ν)
  /-- The search enters the node, and remembers its key. -/
  | entered (node : ν)
  /-- The node is too deep, and the search fails. -/
  | stopped (node : ν)
  deriving DecidableEq

/-- The node an event enters, if it enters one. -/
def Event.enters : Event ν → Option ν
  | .entered node => some node
  | .skipped _ => none
  | .stopped _ => none

/-- The nodes that were entered, in this order. -/
def entered (record : List (Event ν)) : List ν :=
  record.filterMap Event.enters

@[simp] theorem entered_nil : entered ([] : List (Event ν)) = [] := rfl

@[simp] theorem entered_append (record more : List (Event ν)) :
    entered (record ++ more) = entered record ++ entered more :=
  List.filterMap_append

@[simp] theorem entered_skipped (node : ν) : entered [Event.skipped node] = [] := rfl

@[simp] theorem entered_entered (node : ν) : entered [Event.entered node] = [node] := rfl

@[simp] theorem entered_stopped (node : ν) : entered [Event.stopped node] = [] := rfl

/-- The nodes a search may come to, what it tells them apart by, and its limit of depth. -/
structure Rules (ν κ : Type) where
  key : ν → κ
  mayEnter : ν → Prop
  maySkip : ν → Prop
  limit : Nat

/--
What a search may do next.

It only enters a node whose key is new, and only passes over one whose key is not.
It stops at a new node once it has entered as many others as its limit allows.
-/
def Rules.Permits (rules : Rules ν κ) (record : List (Event ν)) : Event ν → Prop
  | .skipped node => rules.maySkip node ∧ rules.key node ∈ (entered record).map rules.key
  | .entered node => rules.mayEnter node ∧ rules.key node ∉ (entered record).map rules.key
  | .stopped node => rules.mayEnter node ∧ rules.key node ∉ (entered record).map rules.key ∧
      rules.limit ≤ (entered record).length

/-- The records a search can leave behind: each event was permitted when it came. -/
def Rules.Allows (rules : Rules ν κ) (record : List (Event ν)) : Prop :=
  ∀ before event after, record = before ++ event :: after → rules.Permits before event

/-- Whenever a node was passed over, the same node had been entered before. -/
def SkipsEntered (record : List (Event ν)) : Prop :=
  ∀ before node after, record = before ++ .skipped node :: after → node ∈ entered before

/-- The nodes whose keys are new. -/
def unvisited [DecidableEq κ] (key : ν → κ) (nodes : Finset ν) (visited : List ν) : Finset ν :=
  nodes.filter fun node => key node ∉ visited.map key

/-- Nodes with different keys, and one more with a new key, are fewer than those they are among. -/
theorem length_lt_card [DecidableEq ν] {key : ν → κ} {nodes : Finset ν} {visited : List ν}
    {node : ν} (apart : (visited.map key).Nodup) (new : key node ∉ visited.map key)
    (among : ∀ other ∈ visited, other ∈ nodes) (member : node ∈ nodes) :
    visited.length < nodes.card := by
  have fresh : node ∉ visited := fun met => new (List.mem_map_of_mem met)
  -- Together with the new one they are distinct, and all among the nodes.
  have distinct : (node :: visited).Nodup := List.nodup_cons.mpr ⟨fresh, apart.of_map⟩
  have within : (node :: visited).toFinset ⊆ nodes := by
    intro other met
    rcases List.mem_cons.mp (List.mem_toFinset.mp met) with rfl | met
    · exact member
    · exact among other met
  have counted := Finset.card_le_card within
  rw [List.toFinset_card_of_nodup distinct, List.length_cons] at counted
  omega

namespace Rules.Allows

variable {rules : Rules ν κ} {record : List (Event ν)}

/-- Nothing has happened before the first event. -/
theorem nil : rules.Allows [] := by
  intro before event after shape
  simp at shape

/-- A record goes on with what is permitted next. -/
theorem concat {event : Event ν} (allowed : rules.Allows record)
    (permitted : rules.Permits record event) : rules.Allows (record ++ [event]) := by
  intro before other after shape
  rcases List.eq_nil_or_concat after with rfl | ⟨rest, last, rfl⟩
  · -- The event is the last one.
    obtain ⟨rfl, same⟩ := List.append_inj' shape rfl
    obtain rfl := List.singleton_inj.mp same
    exact permitted
  · rw [List.concat_eq_append, ← List.cons_append, ← List.append_assoc] at shape
    obtain ⟨rfl, -⟩ := List.append_inj' shape rfl
    exact allowed before other rest rfl

/-- A search has left each earlier part of its record before. -/
theorem of_append {more : List (Event ν)} (allowed : rules.Allows (record ++ more)) :
    rules.Allows record := by
  rintro before event after rfl
  exact allowed before event (after ++ more) (by simp)

/-- Every node that was entered is one that may be, and the keys of all of them differ. -/
theorem entered_apart (allowed : rules.Allows record) :
    (∀ node ∈ entered record, rules.mayEnter node) ∧ ((entered record).map rules.key).Nodup := by
  -- By induction on the record, from its last event.
  induction record using List.reverseRecOn with
  | nil => simp
  | append_singleton record event ih =>
    obtain ⟨may, apart⟩ := ih allowed.of_append
    have permitted := allowed record event [] rfl
    cases event with
    | skipped node => simpa using ⟨may, apart⟩
    | stopped node => simpa using ⟨may, apart⟩
    | entered node =>
      -- The key of the node is new, so it differs from those before it.
      have longer : (((entered record).map rules.key).concat (rules.key node)).Nodup :=
        apart.concat permitted.2
      rw [List.concat_eq_append] at longer
      rw [entered_append, entered_entered, List.map_append, List.map_singleton]
      refine ⟨?_, longer⟩
      intro other member
      rcases List.mem_append.mp member with earlier | last
      · exact may other earlier
      · rw [List.mem_singleton.mp last]
        exact permitted.1

/-- No node is entered twice. -/
theorem nodup (allowed : rules.Allows record) : (entered record).Nodup :=
  allowed.entered_apart.2.of_map

section Finite

variable {nodes : Finset ν} (among : ∀ node, rules.mayEnter node → node ∈ nodes)
include among

/-- Each node that is entered leaves fewer whose keys are new. -/
theorem shrinks [DecidableEq κ] (allowed : rules.Allows record) {before after : List ν} {node : ν}
    (order : entered record = before ++ node :: after) :
    unvisited rules.key nodes (before ++ [node]) ⊂ unvisited rules.key nodes before := by
  obtain ⟨may, apart⟩ := allowed.entered_apart
  rw [order] at may apart
  have member : node ∈ nodes := among node (may node (by simp))
  have new : rules.key node ∉ before.map rules.key := by
    rw [List.map_append, List.map_cons] at apart
    exact fun met => (List.nodup_append.mp apart).2.2 _ met _ List.mem_cons_self rfl
  refine Finset.ssubset_iff_subset_ne.mpr ⟨?_, ?_⟩
  · -- What is new afterwards was new before.
    intro other left
    simp only [unvisited, Finset.mem_filter] at left ⊢
    exact ⟨left.1, fun met => left.2 (by rw [List.map_append]; exact List.mem_append_left _ met)⟩
  · intro same
    have left : node ∈ unvisited rules.key nodes before := by
      simpa only [unvisited, Finset.mem_filter] using And.intro member new
    rw [← same] at left
    simp [unvisited] at left

/-- A search that may enter no more nodes than its limit never stops for depth. -/
theorem not_stopped [DecidableEq ν] (allowed : rules.Allows record)
    (room : nodes.card ≤ rules.limit) (node : ν) : Event.stopped node ∉ record := by
  intro member
  obtain ⟨before, after, rfl⟩ := List.append_of_mem member
  obtain ⟨mayStop, new, deep⟩ := allowed before (.stopped node) after rfl
  obtain ⟨may, apart⟩ := allowed.of_append.entered_apart
  -- Those entered before the stop and the node itself would be too many.
  have fewer := length_lt_card apart new (fun other met => among other (may other met))
    (among node mayStop)
  omega

end Finite

/-- Where keys tell the nodes apart, a node that was passed over had been entered before. -/
theorem skipsEntered (allowed : rules.Allows record)
    (identifies : ∀ node other, rules.mayEnter node → rules.maySkip other →
      rules.key node = rules.key other → node = other) : SkipsEntered record := by
  rintro before node after rfl
  obtain ⟨may, known⟩ := allowed before (.skipped node) after rfl
  -- The key is that of a node entered before, which is the same node.
  obtain ⟨other, met, same⟩ := List.mem_map.mp known
  obtain rfl := identifies other node (allowed.of_append.entered_apart.1 other met) may same
  exact met

end Rules.Allows

end Visits
