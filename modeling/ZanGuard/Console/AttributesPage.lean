import ZanGuard.Console.AttributeEditor
import ZanGuard.Lib.Machine

/-! The attributes page: an entity is selected, its attributes are loaded, edited and saved. -/

namespace ZanGuard.Console

variable {V : Type}

/-- An entity whose attributes can be asked for; the query of one without a name is disabled. -/
structure SelectedEntity where
  type : String
  id : String
  typed : type ≠ ""
  named : id ≠ ""
  deriving DecidableEq

/--
The state an `AttributeEditor` keeps while it stays mounted.

The source keeps the lines only.
The other fields say where the lines come from: the entity that was selected and the attributes
that were passed when the editor was mounted, and what the user has done to the lines since.
-/
structure MountedEditor (json : JsonCodec V) where
  entries : List Entry
  origin : SelectedEntity
  initial : StringMap (JsonValue V)
  edits : List Edit
  made : entries = edits.foldl Edit.apply (initialEntries json initial)

/-- The editor as it is mounted, which is the only time it looks at its attributes. -/
def MountedEditor.mount (json : JsonCodec V) (origin : SelectedEntity)
    (initial : StringMap (JsonValue V)) : MountedEditor json :=
  { entries := initialEntries json initial, origin, initial, edits := [], made := rfl }

/-- The editor after one more edit. -/
def MountedEditor.edited {json : JsonCodec V} (editor : MountedEditor json) (edit : Edit) :
    MountedEditor json where
  entries := edit.apply editor.entries
  origin := editor.origin
  initial := editor.initial
  edits := editor.edits ++ [edit]
  made := by rw [List.foldl_append, ← editor.made]; rfl

/-- The state of the tab for objects, and the answers its queries have had, the latest first. -/
structure ObjectAttributesTab (json : JsonCodec V) where
  selected : Option SelectedEntity
  showNewForm : Bool
  answers : List (SelectedEntity × StringMap (JsonValue V))
  editor : Option (MountedEditor json)

/-- What can happen on the tab. -/
inductive PageEvent (V : Type) where
  | handleSelect (item : SelectedEntity)
  /-- The button above the list. -/
  | openNewForm
  | cancelNewForm
  | handleLookupNew (newType newId : String)
  /-- The query of an entity has been answered, for the first time or once more. -/
  | queryLoaded (entity : SelectedEntity) (attributes : Option (StringMap (JsonValue V)))
  | edit (edit : Edit)
  | save

/-- What a save sends: the attributes, and the entity whose attributes they replace. -/
abbrev Saved (V : Type) := SelectedEntity × StringMap (JsonValue V)

section Tab

variable {json : JsonCodec V}

/-- The tab before anything was selected or loaded. -/
def ObjectAttributesTab.start : ObjectAttributesTab json :=
  { selected := none, showNewForm := false, answers := [], editor := none }

/-- What the query of an entity has in its cache. -/
def ObjectAttributesTab.cached (tab : ObjectAttributesTab json) (entity : SelectedEntity) :
    Option (StringMap (JsonValue V)) :=
  tab.answers.lookup entity

/-- The entity whose editor is on the page, with the attributes that are passed to it. -/
def ObjectAttributesTab.shown (tab : ObjectAttributesTab json) :
    Option (SelectedEntity × StringMap (JsonValue V)) :=
  if tab.showNewForm then none
  else match tab.selected with
    | none => none
    -- While the query is loading, a spinner stands in the editor's place.
    | some entity => (tab.cached entity).map fun attributes => (entity, attributes)

/-- Render the tab: an editor that stays in its place keeps its state. -/
def ObjectAttributesTab.render (tab : ObjectAttributesTab json) : ObjectAttributesTab json :=
  { tab with
    editor := tab.shown.map fun (entity, attributes) =>
      tab.editor.getD (.mount json entity attributes) }

/-- Select an entity, and leave the form. -/
def ObjectAttributesTab.select (tab : ObjectAttributesTab json) (entity : SelectedEntity) :
    ObjectAttributesTab json :=
  ({ tab with selected := some entity, showNewForm := false } : ObjectAttributesTab json).render

/-- The entity an event selects. -/
def PageEvent.selects : PageEvent V → Option SelectedEntity
  | .handleSelect item => some item
  | .handleLookupNew newType newId =>
    if typed : newType = "" then none
    else if named : newId = "" then none
    else some { type := newType, id := newId, typed, named }
  | _ => none

/-- What an event does to the tab, and what it sends. -/
def ObjectAttributesTab.step (tab : ObjectAttributesTab json) (event : PageEvent V) :
    Option (Saved V) × ObjectAttributesTab json :=
  match event with
  | .handleSelect item => (none, tab.select item)
  | .openNewForm =>
    (none, ({ tab with selected := none, showNewForm := true } : ObjectAttributesTab json).render)
  | .cancelNewForm => (none, ({ tab with showNewForm := false } : ObjectAttributesTab json).render)
  | .handleLookupNew newType newId =>
    -- The button does nothing unless both names were typed.
    match PageEvent.selects (V := V) (.handleLookupNew newType newId) with
    | none => (none, tab)
    | some entity => (none, tab.select entity)
  | .queryLoaded entity attributes =>
    (none, ({ tab with
      answers := (entity, attributes.getD ∅) :: tab.answers } : ObjectAttributesTab json).render)
  -- The editor keeps its lines to itself until they are saved.
  | .edit edit => (none, { tab with editor := tab.editor.map (·.edited edit) })
  | .save =>
    -- The lines go to whatever entity is selected now.
    match tab.selected, tab.editor with
    | some entity, some editor => (some (entity, handleSave json editor.entries), tab)
    | _, _ => (none, tab)

/-- The tab as a machine that answers each event with what it sends. -/
def attributesPage (json : JsonCodec V) :
    Machine (ObjectAttributesTab json) (PageEvent V) (Option (Saved V)) where
  step := ObjectAttributesTab.step

end Tab

end ZanGuard.Console
