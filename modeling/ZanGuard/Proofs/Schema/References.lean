import Mathlib.Data.List.DropRight
import ZanGuard.Schema.Compiler

/-! References of permission lists: how their texts are read, and when an inline condition survives. -/

namespace ZanGuard

/-- The mark of an arrow. -/
def arrowMark : List Char :=
  ['-', '>']

/-- The mark of an inline condition. -/
def conditionMark : List Char :=
  "condition:".toList

/-! ### White space -/

/-- Trimming drops white space at the front and then at the back. -/
theorem toList_trimSpace (s : String) :
    (trimSpace s).toList = (s.toList.dropWhile isSpace).rdropWhile isSpace := by
  simp [trimSpace, List.rdropWhile]

/-- A text without white space is not hidden by white space before it. -/
theorem infix_dropWhile {mark : List Char} (visible : ∀ c ∈ mark, isSpace c = false)
    (some_mark : mark ≠ []) (text : List Char) :
    mark <:+: text.dropWhile isSpace ↔ mark <:+: text := by
  induction text with
  | nil => rfl
  | cons c rest ih =>
    by_cases space : isSpace c = true
    · rw [List.dropWhile_cons_of_pos space, ih, List.infix_cons_iff]
      -- The mark does not begin with the white space.
      refine ⟨.inr, fun inside => inside.resolve_left fun begins => ?_⟩
      rcases List.prefix_cons_iff.mp begins with none | ⟨tail, same, -⟩
      · exact some_mark none
      · rw [visible c (by simp [same])] at space
        cases space
    · rw [List.dropWhile_cons_of_neg space]

/-- Nor by white space around it. -/
theorem infix_trimSpace {mark : List Char} (visible : ∀ c ∈ mark, isSpace c = false)
    (some_mark : mark ≠ []) (s : String) :
    mark <:+: (trimSpace s).toList ↔ mark <:+: s.toList := by
  have backwards : ∀ c ∈ mark.reverse, isSpace c = false := fun c member =>
    visible c (List.mem_reverse.mp member)
  rw [toList_trimSpace, ← infix_dropWhile visible some_mark s.toList, List.rdropWhile,
    ← List.reverse_infix, List.reverse_reverse,
    infix_dropWhile backwards (by simpa using some_mark), List.reverse_infix]

/-- So the mark of an arrow is in a trimmed text exactly when it is in the text. -/
theorem infix_arrow_trimSpace (s : String) :
    arrowMark <:+: (trimSpace s).toList ↔ arrowMark <:+: s.toList := by
  refine infix_trimSpace (fun c member => ?_) (List.cons_ne_nil _ _) s
  simp only [List.mem_cons, List.not_mem_nil, or_false] at member
  rcases member with rfl | rfl <;> rfl

/-- A trimmed text does not begin with white space. -/
theorem dropWhile_trimSpace (s : String) :
    (trimSpace s).toList.dropWhile isSpace = (trimSpace s).toList := by
  rw [toList_trimSpace]
  -- What is left begins as it did before the back was dropped.
  obtain ⟨more, whole⟩ := List.rdropWhile_prefix isSpace (l := s.toList.dropWhile isSpace)
  cases left : (s.toList.dropWhile isSpace).rdropWhile isSpace with
  | nil => rfl
  | cons c rest =>
    have first := List.head?_dropWhile_not isSpace s.toList
    rw [← whole, left] at first
    exact List.dropWhile_cons_of_neg (by simpa using first)

/-- Nor does it end with any. -/
theorem rdropWhile_trimSpace (s : String) :
    (trimSpace s).toList.rdropWhile isSpace = (trimSpace s).toList := by
  rw [toList_trimSpace, List.rdropWhile_idempotent]

/-- So trimming it again changes nothing. -/
theorem trimSpace_trimSpace (s : String) : trimSpace (trimSpace s) = trimSpace s := by
  rw [← String.toList_inj, toList_trimSpace (trimSpace s), dropWhile_trimSpace,
    rdropWhile_trimSpace]

/-- And a space put before it is all that is trimmed off. -/
theorem trimSpace_space (s : String) :
    trimSpace (.ofList (' ' :: (trimSpace s).toList)) = trimSpace s := by
  rw [← String.toList_inj, toList_trimSpace, String.toList_ofList,
    List.dropWhile_cons_of_pos (by decide), dropWhile_trimSpace, rdropWhile_trimSpace]

/-! ### Splitting at a mark -/

/-- A text without the mark is not split. -/
theorem splitAt_none {mark : List Char} (some_mark : mark ≠ []) {text : List Char} :
    splitAt mark text = none ↔ ¬ mark <:+: text := by
  -- By induction on the text: the mark begins here, or stands further on.
  induction text with
  | nil => simp [splitAt, some_mark]
  | cons c rest ih =>
    rw [splitAt, List.infix_cons_iff, ← List.isPrefixOf_iff_prefix]
    split
    · rename_i begins
      simp [begins]
    · rename_i goes_on
      simp [goes_on, ih]

/-- A text that is split is so at its first mark. -/
theorem splitAt_some {mark : List Char} (some_mark : mark ≠ []) {text before after : List Char}
    (split : splitAt mark text = some (before, after)) :
    text = before ++ mark ++ after ∧ ¬ mark <:+: before := by
  induction text generalizing before with
  | nil => simp [splitAt, some_mark] at split
  | cons c rest ih =>
    unfold splitAt at split
    split at split
    · rename_i begins
      -- The mark begins here, so nothing is before it.
      obtain ⟨rfl, rfl⟩ := Prod.mk.inj (Option.some.inj split)
      obtain ⟨after, whole⟩ := List.isPrefixOf_iff_prefix.mp begins
      simp [← whole, some_mark]
    · rename_i goes_on
      obtain ⟨⟨earlier, later⟩, found, same⟩ := Option.map_eq_some_iff.mp split
      obtain ⟨rfl, rfl⟩ := Prod.mk.inj same
      -- It is found later, and the text before it has one character more.
      obtain ⟨whole, first⟩ := ih found
      refine ⟨by simp [whole], fun inside => ?_⟩
      rcases List.infix_cons_iff.mp inside with begins | later
      · -- The mark would begin the whole text.
        refine goes_on (List.isPrefixOf_iff_prefix.mpr (begins.trans ?_))
        rw [whole, ← List.cons_append, ← List.cons_append, List.append_assoc]
        exact List.prefix_append _ _
      · exact first later

/-- Around the mark of an arrow, a text is split where the mark stands first. -/
theorem splitAt_arrow {before after : List Char} (first : ¬ arrowMark <:+: before) :
    splitAt arrowMark (before ++ arrowMark ++ after) = some (before, after) := by
  induction before with
  | nil => simp [splitAt, arrowMark]
  | cons c rest ih =>
    -- The mark does not begin at the first character, nor is it within the rest before.
    rw [List.infix_cons_iff, not_or] at first
    rw [List.cons_append, List.cons_append, splitAt, ih first.2, if_neg]
    · rfl
    · rw [List.isPrefixOf_iff_prefix]
      intro begins
      -- The mark would begin before the place where it stands first.
      obtain ⟨head, tail⟩ := List.cons_prefix_cons.mp begins
      cases rest with
      | nil =>
        have dash := (List.cons_prefix_cons.mp tail).1
        revert dash
        decide
      | cons d more =>
        obtain ⟨next, -⟩ := List.cons_prefix_cons.mp tail
        exact first.1 ⟨more, by rw [← head, ← next]; rfl⟩

/-! ### Reading a reference -/

/-- A text is an arrow when it is split at its first mark, and both sides are trimmed. -/
inductive PermissionRef.Reads (item : String) : PermissionRef → Prop
  | arrow {before after : List Char} (split : item.toList = before ++ arrowMark ++ after)
      (first : ¬ arrowMark <:+: before) (some_relation : trimSpace (.ofList before) ≠ "")
      (some_permission : trimSpace (.ofList after) ≠ "") :
      Reads item { arrowRef := trimSpace (.ofList before),
                   arrowPermission := trimSpace (.ofList after) }
  /-- A text without an arrow is a condition when it begins like one. -/
  | condition {text : List Char} (no_arrow : ¬ arrowMark <:+: item.toList)
      (begins : item.toList = conditionMark ++ text) :
      Reads item { conditionExpr := trimSpace (.ofList text) }
  /-- Every other text names a relation. -/
  | relation (no_arrow : ¬ arrowMark <:+: item.toList) (plain : ¬ conditionMark <+: item.toList) :
      Reads item { relationRef := trimSpace item }

/-- An arrow that has nothing but white space on one of its sides. -/
def BrokenArrow (item : String) : Prop :=
  ∃ before after, item.toList = before ++ arrowMark ++ after ∧ ¬ arrowMark <:+: before ∧
    (trimSpace (.ofList before) = "" ∨ trimSpace (.ofList after) = "")

/-- An arrow is read when both of its sides are there. -/
theorem parsePermissionRef_arrow {item : String} {before after : List Char}
    (split : item.toList = before ++ arrowMark ++ after) (first : ¬ arrowMark <:+: before) :
    parsePermissionRef item =
      if trimSpace (.ofList before) = "" ∨ trimSpace (.ofList after) = "" then
        .error (.invalidArrowRef item)
      else .ok { arrowRef := trimSpace (.ofList before),
                 arrowPermission := trimSpace (.ofList after) } := by
  -- The search of the source has the mark written out.
  have found : splitAt ['-', '>'] item.toList = some (before, after) := by
    rw [split]
    exact splitAt_arrow first
  rw [parsePermissionRef, found]

/-- A text without an arrow is read by how it begins. -/
theorem parsePermissionRef_plain {item : String} (no_arrow : ¬ arrowMark <:+: item.toList) :
    parsePermissionRef item =
      if conditionMark <+: item.toList then
        .ok { conditionExpr := trimSpace (.ofList (item.toList.drop conditionMark.length)) }
      else .ok { relationRef := trimSpace item } := by
  have missing : splitAt ['-', '>'] item.toList = none :=
    (splitAt_none (by decide)).mpr no_arrow
  have mark : "condition:".toList = conditionMark := rfl
  have long : "condition:".length = conditionMark.length := String.length_toList.symm
  simp only [parsePermissionRef, missing, mark, long]
  by_cases begins : conditionMark <+: item.toList
  · rw [if_pos begins, if_pos (List.isPrefixOf_iff_prefix.mpr begins)]
  · rw [if_neg begins, if_neg (mt List.isPrefixOf_iff_prefix.mp begins)]

/-- Every text is split at its first arrow, or has none. -/
theorem arrow_or_plain (item : String) :
    (∃ before after, item.toList = before ++ arrowMark ++ after ∧ ¬ arrowMark <:+: before) ∨
      ¬ arrowMark <:+: item.toList := by
  cases found : splitAt arrowMark item.toList with
  | some sides => exact .inl ⟨sides.1, sides.2, splitAt_some (by decide) found⟩
  | none => exact .inr ((splitAt_none (by decide)).mp found)

/-- A reference is what its text reads as. -/
theorem parsePermissionRef_reads {item : String} {ref : PermissionRef}
    (ran : parsePermissionRef item = .ok ref) : ref.Reads item := by
  rcases arrow_or_plain item with ⟨before, after, split, first⟩ | no_arrow
  · rw [parsePermissionRef_arrow split first] at ran
    -- An arrow with a blank side is an error, so this one has both.
    split at ran
    · cases ran
    · rename_i sides
      rw [not_or] at sides
      rw [← Except.ok.inj ran]
      exact .arrow split first sides.1 sides.2
  · rw [parsePermissionRef_plain no_arrow] at ran
    -- What follows the prefix is trimmed, or the whole item is.
    split at ran
    · rename_i begins
      obtain ⟨text, whole⟩ := begins
      rw [← Except.ok.inj ran, ← whole, List.drop_left]
      exact .condition no_arrow whole.symm
    · rename_i plain
      rw [← Except.ok.inj ran]
      exact .relation no_arrow plain

/-- Only broken arrows are refused. -/
theorem parsePermissionRef_error_iff {item : String} :
    (∃ e, parsePermissionRef item = .error e) ↔ BrokenArrow item := by
  constructor
  · rintro ⟨e, failed⟩
    rcases arrow_or_plain item with ⟨before, after, split, first⟩ | no_arrow
    · -- A text with an arrow is refused for a blank side only.
      rw [parsePermissionRef_arrow split first] at failed
      split at failed
      · rename_i broken
        exact ⟨before, after, split, first, broken⟩
      · cases failed
    · -- One without an arrow is never refused.
      rw [parsePermissionRef_plain no_arrow] at failed
      split at failed <;> cases failed
  · rintro ⟨before, after, split, first, broken⟩
    rw [parsePermissionRef_arrow split first, if_pos broken]
    exact ⟨_, rfl⟩

/-! ### Items of a permission list -/

/-- An item as the compiler comes to see it, from the document through the raw permission. -/
def ListItemNode.reference (node : ListItemNode) : Except SchemaErr PermissionRef := do
  parsePermissionRef (← node.unmarshalYAML)

/-- A condition is encoded without an arrow of its own. -/
theorem infix_encoded (e : String) :
    arrowMark <:+: ("condition: " ++ trimSpace e).toList ↔ arrowMark <:+: e.toList := by
  rw [← infix_arrow_trimSpace e, String.toList_append]
  -- No character of the prefix begins an arrow.
  have skip : ∀ (c : Char) (text : List Char), c ≠ '-' →
      (arrowMark <:+: c :: text ↔ arrowMark <:+: text) := by
    intro c text other
    rw [List.infix_cons_iff]
    refine ⟨fun inside => inside.resolve_left fun begins => ?_, .inr⟩
    exact other (List.cons_prefix_cons.mp begins).1.symm
  have chars : "condition: ".toList = ['c', 'o', 'n', 'd', 'i', 't', 'i', 'o', 'n', ':', ' '] := by
    decide
  rw [chars]
  simp only [List.cons_append, List.nil_append]
  iterate 11 rw [skip _ _ (by decide)]

/-- Without an arrow in it, an encoded condition is read as the condition it was made of. -/
theorem parsePermissionRef_encoded {e : String} (no_arrow : ¬ arrowMark <:+: e.toList) :
    parsePermissionRef ("condition: " ++ trimSpace e) =
      .ok { conditionExpr := trimSpace e } := by
  -- Between the prefix and the expression stands one blank, which trimming takes away.
  have whole : ("condition: " ++ trimSpace e).toList =
      conditionMark ++ ' ' :: (trimSpace e).toList := by
    rw [String.toList_append]
    rfl
  rw [parsePermissionRef_plain (mt (infix_encoded e).mp no_arrow), whole,
    if_pos (List.prefix_append _ _), List.drop_left,
    trimSpace_space]

/-- With an arrow in it, it is not read as a condition at all. -/
theorem parsePermissionRef_torn {e : String} (arrow : arrowMark <:+: e.toList)
    {ref : PermissionRef} (ran : parsePermissionRef ("condition: " ++ trimSpace e) = .ok ref) :
    ref.kind = .arrow := by
  cases parsePermissionRef_reads ran with
  | arrow _ _ some_relation _ => exact if_pos some_relation
  | condition no_arrow _ => exact absurd ((infix_encoded e).mpr arrow) no_arrow
  | relation no_arrow _ => exact absurd ((infix_encoded e).mpr arrow) no_arrow

/--
An inline condition survives its encoding exactly when there is no arrow in its text.

A text that is neither an arrow nor a condition names a relation, unless what looks like a
condition is uncovered by trimming.
-/
theorem list_items_survive_iff (e cause : String) (not_blank : trimSpace e ≠ "") :
    ((∃ ref, (ListItemNode.node (.error cause) (.ok e)).reference = .ok ref ∧
        ref.kind = .condition ∧ ref.conditionExpr = trimSpace e) ↔
      ¬ arrowMark <:+: e.toList) ∧
    ∀ s : String, ¬ arrowMark <:+: s.toList → ¬ conditionMark <+: s.toList →
      (∃ ref, parsePermissionRef s = .ok ref ∧ ref.kind = .relation ∧
        ref.relationRef = trimSpace s) ∧
      ∀ asCondition, ((∃ ref, (ListItemNode.node (.ok s) asCondition).reference = .ok ref ∧
          ref.kind = .relation ∧ ref.relationRef = trimSpace s) ↔
        ¬ conditionMark <+: (trimSpace s).toList) := by
  have encoded : (ListItemNode.node (.error cause) (.ok e)).reference =
      parsePermissionRef ("condition: " ++ trimSpace e) := by
    rw [ListItemNode.reference, ListItemNode.unmarshalYAML, if_pos not_blank]
    simp only [bind, Except.bind]
  refine ⟨?_, fun s no_arrow plain => ⟨?_, fun asCondition => ?_⟩⟩
  · rw [encoded]
    constructor
    · rintro ⟨ref, ran, kind, -⟩ arrow
      -- With an arrow in it, the item is of another kind.
      rw [parsePermissionRef_torn arrow ran] at kind
      cases kind
    · intro no_arrow
      exact ⟨_, parsePermissionRef_encoded no_arrow, by simp [PermissionRef.kind, not_blank], rfl⟩
  · refine ⟨{ relationRef := trimSpace s }, ?_, rfl, rfl⟩
    rw [parsePermissionRef_plain no_arrow, if_neg plain]
  · -- The item is trimmed once more before it is read.
    have trimmed : (ListItemNode.node (.ok s) asCondition).reference =
        parsePermissionRef (trimSpace s) := by
      simp only [ListItemNode.reference, ListItemNode.unmarshalYAML, bind, Except.bind]
    have no_arrow : ¬ arrowMark <:+: (trimSpace s).toList :=
      mt (infix_arrow_trimSpace s).mp no_arrow
    rw [trimmed, parsePermissionRef_plain no_arrow]
    split
    · rename_i uncovered
      refine ⟨?_, fun plain => absurd uncovered plain⟩
      rintro ⟨ref, ran, -, named⟩
      -- No relation is named, but the item is not empty.
      have blank : "" = trimSpace s := by
        rw [← named, ← Except.ok.inj ran]
      rw [← blank] at uncovered
      exact absurd uncovered (by decide)
    · rename_i plain
      exact ⟨fun _ => plain, fun _ => ⟨_, rfl, rfl, trimSpace_trimSpace s⟩⟩

/-- A comparison survives. -/
theorem list_items_survive_iff_comparison :
    trimSpace "object.level > 3" ≠ "" ∧
      ((∃ ref, (ListItemNode.node (.error "cannot unmarshal !!map into string")
          (.ok "object.level > 3")).reference = .ok ref ∧
        ref.kind = .condition ∧ ref.conditionExpr = trimSpace "object.level > 3") ↔
      ¬ arrowMark <:+: "object.level > 3".toList) := by
  have not_blank : trimSpace "object.level > 3" ≠ "" := by decide
  exact ⟨not_blank, (list_items_survive_iff _ _ not_blank).1⟩

/-- A condition that quotes an arrow becomes an arrow from `condition: object.name == "a`. -/
theorem quoted_arrow_torn :
    ∃ e cause, trimSpace e ≠ "" ∧
      ¬ ∃ ref, (ListItemNode.node (.error cause) (.ok e)).reference = .ok ref ∧
        ref.kind = .condition ∧ ref.conditionExpr = trimSpace e := by
  refine ⟨"object.name == \"a->b\"", "cannot unmarshal !!map into string", by decide, ?_⟩
  rintro ⟨ref, ran, kind, -⟩
  -- The arrow within the quotation marks is found first.
  have read : (ListItemNode.node (.error "cannot unmarshal !!map into string")
      (.ok "object.name == \"a->b\"")).reference =
        .ok { arrowRef := "condition: object.name == \"a", arrowPermission := "b\"" } := by
    rfl
  rw [read] at ran
  rw [← Except.ok.inj ran] at kind
  cases kind

end ZanGuard
