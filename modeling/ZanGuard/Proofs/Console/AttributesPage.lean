import ZanGuard.Console.AttributesPage
import ZanGuard.Proofs.Console.AttributeEditor

/-! Whose attributes a save of the attributes page replaces, and by what. -/

namespace ZanGuard.Console

variable {V : Type} {json : JsonCodec V}

/--
What a save would send now comes from the attributes of the entity it would send them to.

The lines are what the user's edits have made of the lines an editor starts with, and that editor
was mounted on an answer to the entity's own query.
-/
def ObjectAttributesTab.SavesOwn (tab : ObjectAttributesTab json) : Prop :=
  ∀ entity attributes, (tab.step .save).1 = some (entity, attributes) →
    ∃ editor, tab.editor = some editor ∧ editor.origin = entity ∧
      (entity, editor.initial) ∈ tab.answers ∧
      attributes = handleSave json
        (editor.edits.foldl Edit.apply (initialEntries json editor.initial))

/-- No event goes straight from an open editor to another entity that is in the cache. -/
def ObjectAttributesTab.Remounts (tab : ObjectAttributesTab json) (event : PageEvent V) : Prop :=
  ∀ entity, event.selects = some entity →
    tab.editor = none ∨ tab.selected = some entity ∨ tab.cached entity = none

/-- The open editor, if there is one, is the selected entity's own. -/
def ObjectAttributesTab.Own (tab : ObjectAttributesTab json) : Prop :=
  ∀ editor, tab.editor = some editor →
    tab.selected = some editor.origin ∧ (editor.origin, editor.initial) ∈ tab.answers

/-- An editor is only open for a selected entity. -/
def ObjectAttributesTab.Selected (tab : ObjectAttributesTab json) : Prop :=
  ∀ editor, tab.editor = some editor → ∃ entity, tab.selected = some entity

section Rendering

variable {tab : ObjectAttributesTab json}

/-- What is in the cache was an answer. -/
theorem ObjectAttributesTab.cached_mem {entity : SelectedEntity}
    {attributes : StringMap (JsonValue V)} (found : tab.cached entity = some attributes) :
    (entity, attributes) ∈ tab.answers := by
  -- The cache holds the first of the answers to the entity's query.
  obtain ⟨before, after, split, -⟩ := List.lookup_eq_some_iff.mp found
  rw [split]
  exact List.mem_append_right _ List.mem_cons_self

/-- An editor that is shown belongs to the selected entity, and is passed what the cache holds. -/
theorem ObjectAttributesTab.shown_eq {entity : SelectedEntity}
    {attributes : StringMap (JsonValue V)} (shown : tab.shown = some (entity, attributes)) :
    tab.selected = some entity ∧ tab.cached entity = some attributes := by
  unfold ObjectAttributesTab.shown at shown
  split at shown
  · cases shown
  · -- The form is not open, so it is the selection that decides.
    cases chosen : tab.selected with
    | none => rw [chosen] at shown; cases shown
    | some other =>
      rw [chosen] at shown
      obtain ⟨found, cached, same⟩ := Option.map_eq_some_iff.mp shown
      obtain ⟨rfl, rfl⟩ := Prod.mk.inj same
      exact ⟨rfl, cached⟩

/-- An editor that is open after rendering stayed in its place, or was mounted just now. -/
theorem ObjectAttributesTab.render_editor {editor : MountedEditor json}
    (opened : tab.render.editor = some editor) :
    ∃ entity attributes, tab.shown = some (entity, attributes) ∧
      (tab.editor = some editor ∨
        (tab.editor = none ∧ editor = .mount json entity attributes)) := by
  obtain ⟨⟨entity, attributes⟩, shown, made⟩ := Option.map_eq_some_iff.mp opened
  refine ⟨entity, attributes, shown, ?_⟩
  -- React keeps the editor that is in this place already.
  cases before : tab.editor with
  | some stayed =>
    rw [before] at made
    exact .inl (congrArg some made)
  | none =>
    rw [before] at made
    exact .inr ⟨rfl, made.symm⟩

/-- Rendering shows the selected entity its own editor, if the one that stays is its own. -/
theorem ObjectAttributesTab.render_own
    (stays : ∀ editor entity attributes, tab.editor = some editor →
      tab.shown = some (entity, attributes) →
      entity = editor.origin ∧ (editor.origin, editor.initial) ∈ tab.answers) :
    tab.render.Own := by
  intro editor opened
  obtain ⟨entity, attributes, shown, stayed | ⟨-, rfl⟩⟩ := ObjectAttributesTab.render_editor opened
  · obtain ⟨rfl, answered⟩ := stays editor entity attributes stayed shown
    exact ⟨(ObjectAttributesTab.shown_eq shown).1, answered⟩
  · -- An editor that is mounted now is passed the entity's own answer.
    obtain ⟨selected, cached⟩ := ObjectAttributesTab.shown_eq shown
    exact ⟨selected, ObjectAttributesTab.cached_mem cached⟩

/-- Rendering opens an editor for a selected entity only. -/
theorem ObjectAttributesTab.render_selected : tab.render.Selected := by
  intro editor opened
  obtain ⟨entity, attributes, shown, -⟩ := ObjectAttributesTab.render_editor opened
  exact ⟨entity, (ObjectAttributesTab.shown_eq shown).1⟩

/-- A tab whose form is open, or on which nothing is selected, shows no editor. -/
theorem ObjectAttributesTab.render_own_of_hidden (hidden : tab.shown = none) : tab.render.Own := by
  refine ObjectAttributesTab.render_own fun editor entity attributes _ shown => ?_
  rw [hidden] at shown
  cases shown

end Rendering

section Steps

variable {tab : ObjectAttributesTab json}

/-- An event that selects an entity does nothing else. -/
theorem ObjectAttributesTab.step_selects {event : PageEvent V} {entity : SelectedEntity}
    (selects : event.selects = some entity) : (tab.step event).2 = tab.select entity := by
  -- Either the entity is a row of the list, or its names were typed into the form.
  cases event with
  | handleSelect item => exact congrArg tab.select (Option.some.inj selects)
  | handleLookupNew newType newId => simp only [ObjectAttributesTab.step, selects]
  | _ => cases selects

/-- The form lets nothing through that lacks a name. -/
theorem ObjectAttributesTab.step_refused {newType newId : String}
    (refused : PageEvent.selects (V := V) (.handleLookupNew newType newId) = none) :
    (tab.step (.handleLookupNew newType newId)).2 = tab := by
  simp only [ObjectAttributesTab.step, refused]

/-- A save leaves the tab as it is. -/
theorem ObjectAttributesTab.step_save_tab : (tab.step .save).2 = tab := by
  simp only [ObjectAttributesTab.step]
  split
  · rfl
  · rfl

/-- Selecting an entity shows its own editor when no other one stays in its place. -/
theorem ObjectAttributesTab.select_own {entity : SelectedEntity} (own : tab.Own)
    (remounts : tab.editor = none ∨ tab.selected = some entity ∨ tab.cached entity = none) :
    (tab.select entity).Own := by
  refine ObjectAttributesTab.render_own fun editor other attributes stays shown => ?_
  obtain ⟨same, cached⟩ := ObjectAttributesTab.shown_eq shown
  obtain rfl : entity = other := Option.some.inj same
  have opened : tab.editor = some editor := stays
  obtain ⟨selected, answered⟩ := own editor opened
  rcases remounts with closed | again | missing
  · rw [closed] at opened
    cases opened
  · -- The entity is selected once more, and keeps its editor.
    exact ⟨Option.some.inj (again.symm.trans selected), answered⟩
  · -- An entity that is not in the cache shows the spinner.
    cases missing.symm.trans cached

/-- An event keeps the open editor that of the selected entity, unless it should remount. -/
theorem ObjectAttributesTab.step_own {event : PageEvent V} (remounts : tab.Remounts event)
    (own : tab.Own) : (tab.step event).2.Own := by
  -- One case for each event; only three of them can change whose editor is open.
  cases event with
  | handleSelect item => exact ObjectAttributesTab.select_own own (remounts item rfl)
  | handleLookupNew newType newId =>
    cases chosen : PageEvent.selects (V := V) (.handleLookupNew newType newId) with
    | none => exact (ObjectAttributesTab.step_refused chosen).symm ▸ own
    | some entity =>
      rw [ObjectAttributesTab.step_selects chosen]
      exact ObjectAttributesTab.select_own own (remounts entity chosen)
  | openNewForm => exact ObjectAttributesTab.render_own_of_hidden rfl
  | cancelNewForm =>
    refine ObjectAttributesTab.render_own fun editor entity attributes opened shown => ?_
    obtain ⟨selected, answered⟩ := own editor opened
    exact ⟨Option.some.inj ((ObjectAttributesTab.shown_eq shown).1.symm.trans selected), answered⟩
  | queryLoaded entity attributes =>
    refine ObjectAttributesTab.render_own fun editor other passed opened shown => ?_
    obtain ⟨selected, answered⟩ := own editor opened
    -- One more answer takes nothing from those that came before.
    exact ⟨Option.some.inj ((ObjectAttributesTab.shown_eq shown).1.symm.trans selected),
      List.mem_cons_of_mem _ answered⟩
  | edit edit =>
    -- An edit changes the lines of the editor, and not where it comes from.
    intro editor edited
    obtain ⟨before, opened, rfl⟩ := Option.map_eq_some_iff.mp edited
    exact own before opened
  | save => exact ObjectAttributesTab.step_save_tab.symm ▸ own

/-- No event leaves an editor open with nothing selected. -/
theorem ObjectAttributesTab.step_selected {event : PageEvent V} (selected : tab.Selected) :
    (tab.step event).2.Selected := by
  -- Rendering sees to it after every event that renders; the other two keep the editor.
  cases event with
  | handleSelect | openNewForm | cancelNewForm | queryLoaded =>
    exact ObjectAttributesTab.render_selected
  | handleLookupNew newType newId =>
    cases chosen : PageEvent.selects (V := V) (.handleLookupNew newType newId) with
    | none => exact (ObjectAttributesTab.step_refused chosen).symm ▸ selected
    | some entity =>
      rw [ObjectAttributesTab.step_selects chosen]
      exact ObjectAttributesTab.render_selected
  | edit edit =>
    intro editor edited
    obtain ⟨before, opened, -⟩ := Option.map_eq_some_iff.mp edited
    exact selected before opened
  | save => exact ObjectAttributesTab.step_save_tab.symm ▸ selected

/-- A save sends the lines of the open editor to the selected entity. -/
theorem ObjectAttributesTab.step_save {entity : SelectedEntity}
    {attributes : StringMap (JsonValue V)} :
    (tab.step .save).1 = some (entity, attributes) ↔
      ∃ editor, tab.selected = some entity ∧ tab.editor = some editor ∧
        attributes = handleSave json editor.entries := by
  simp only [ObjectAttributesTab.step]
  -- Both have to be there, and then the pair is the one that is sent.
  cases tab.selected with
  | none => simp
  | some chosen =>
    cases tab.editor with
    | none => simp
    | some editor => simp [eq_comm]

/-- A tab with the selected entity's own editor saves that entity's own attributes. -/
theorem ObjectAttributesTab.Own.savesOwn (own : tab.Own) : tab.SavesOwn := by
  intro entity attributes sent
  obtain ⟨editor, selected, opened, rfl⟩ := ObjectAttributesTab.step_save.mp sent
  obtain ⟨same, answered⟩ := own editor opened
  -- The entity that is sent to is the selected one, which is where the editor comes from.
  obtain rfl : entity = editor.origin := Option.some.inj (selected.symm.trans same)
  exact ⟨editor, opened, rfl, answered, by rw [← editor.made]⟩

/-- The other way round, if an editor is only open for a selected entity. -/
theorem ObjectAttributesTab.SavesOwn.own (saves : tab.SavesOwn) (selected : tab.Selected) :
    tab.Own := by
  intro editor opened
  obtain ⟨entity, chosen⟩ := selected editor opened
  -- A save at this moment would send what the open editor holds.
  obtain ⟨other, same, rfl, answered, -⟩ :=
    saves entity _ (ObjectAttributesTab.step_save.mpr ⟨editor, chosen, opened, rfl⟩)
  obtain rfl : editor = other := Option.some.inj (opened.symm.trans same)
  exact ⟨chosen, answered⟩

/-- An event that should remount the editor and does not leaves another entity's editor open. -/
theorem ObjectAttributesTab.remounts_of_own {event : PageEvent V} (own : tab.Own)
    (after : (tab.step event).2.Own) : tab.Remounts event := by
  intro entity selects
  by_contra stays
  obtain ⟨opened, other, loaded⟩ : tab.editor ≠ none ∧ tab.selected ≠ some entity ∧
      tab.cached entity ≠ none := by
    simpa only [not_or] using stays
  obtain ⟨editor, opened⟩ := Option.ne_none_iff_exists'.mp opened
  obtain ⟨attributes, cached⟩ := Option.ne_none_iff_exists'.mp loaded
  -- The cache has something to show, so the editor stays where it is.
  have stayed : (tab.select entity).editor = some editor := by
    have shown : ({ tab with selected := some entity, showNewForm := false } :
        ObjectAttributesTab json).shown = some (entity, attributes) :=
      congrArg (Option.map fun attributes => (entity, attributes)) cached
    unfold ObjectAttributesTab.select ObjectAttributesTab.render
    rw [shown]
    exact congrArg some (by rw [opened]; rfl)
  rw [ObjectAttributesTab.step_selects selects] at after
  obtain ⟨same, -⟩ := after editor stayed
  exact other ((own editor opened).1.trans same.symm)

end Steps

/--
The page saves an entity's own attributes all along a run exactly when every selection remounts.

It does not when an editor is open and another entity is selected that is in the cache already.
-/
theorem page_saves_own (json : JsonCodec V) (events : List (PageEvent V)) :
    (∀ early late, events = early ++ late →
        ((attributesPage json).final .start early).SavesOwn) ↔
      (attributesPage json).Along ObjectAttributesTab.Remounts .start events := by
  have blank : (ObjectAttributesTab.start : ObjectAttributesTab json).Own := by
    rintro editor opened
    cases opened
  have selected : ∀ early, ((attributesPage json).final .start early).Selected := by
    intro early
    have preserved : ∀ (tab : ObjectAttributesTab json) (event : PageEvent V), True →
        tab.Selected → ((attributesPage json).step tab event).2.Selected :=
      fun tab event _ selected => tab.step_selected selected
    refine Machine.final_invariant preserved ?_ fun _ _ => trivial
    rintro editor opened
    cases opened
  constructor
  · intro saves
    -- Before and after each event the open editor is the selected entity's own.
    refine Machine.along_iff.mpr fun early event late split => ?_
    have before := (saves early (event :: late) split).own (selected early)
    have after := (saves (early ++ [event]) late (by rw [split, List.append_assoc]; rfl)).own
      (selected _)
    rw [Machine.final_append] at after
    exact ObjectAttributesTab.remounts_of_own before after
  · rintro along early late rfl
    refine ObjectAttributesTab.Own.savesOwn ?_
    exact (Machine.along_append.mp along).1.final_invariant _
      (fun tab event remounts own => tab.step_own remounts own) blank

/-- Two documents of the attributes page. -/
def firstDocument : SelectedEntity :=
  { type := "document", id := "a", typed := by decide, named := by decide }

@[inherit_doc firstDocument]
def secondDocument : SelectedEntity :=
  { type := "document", id := "b", typed := by decide, named := by decide }

/-- The first document is looked at, then the second one, then the first one again. -/
def lookBack : List (PageEvent Bool) :=
  [.handleSelect firstDocument, .queryLoaded firstDocument none, .handleSelect secondDocument,
    .queryLoaded secondDocument (some (AList.singleton "public" (.other true))),
    .handleSelect firstDocument]

/-- After looking back, a save gives the first document the attributes of the second one. -/
theorem page_saves_own_lookBack :
    (((attributesPage truthCodec).final .start lookBack).step .save).1 =
        some (firstDocument, AList.singleton "public" (.other true)) ∧
      ¬ ∀ (json : JsonCodec Bool) (events early late : List (PageEvent Bool)),
        events = early ++ late → ((attributesPage json).final .start early).SavesOwn := by
  refine ⟨rfl, fun saves => ?_⟩
  -- The editor that is open was mounted for the second document.
  obtain ⟨editor, opened, origin, -⟩ :=
    saves truthCodec lookBack lookBack [] rfl firstDocument _ rfl
  obtain rfl := Option.some.inj opened
  revert origin
  decide

end ZanGuard.Console
