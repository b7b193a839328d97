import ZanGuard.Console.SchemaViewer
import ZanGuard.Proofs.Console.Lines

/-! Under which type the schema viewer shows each permission. -/

namespace ZanGuard.Console

section ViewerLines

variable {st : ViewerState} {type : ParsedType} {name : SectionName} {text : List Char}

/-- A line at the margin changes nothing. -/
theorem viewerLine_top (starts : Starts text) : viewerLine st text = st := by
  have margin : indentOf text = 0 := indentOf_indented starts 0
  rw [viewerLine, margin, if_neg (by simp), if_neg (by simp)]
  -- None of the depths the viewer looks at is zero.
  split <;> simp

/-- The header of a type puts the type before away. -/
theorem viewerLine_type (plain : Plain) :
    viewerLine st (header 2 plain.chars) =
      { st with
        types := st.types ++ st.currentType.toList
        currentType := some { name := plain.text }
        currentSection := none } := by
  have starts := plain.startsPlain.append [':']
  -- The line is taken for a type by its depth, by its colon, and for want of a dash.
  have dash : ¬ "-".toList <+: header 2 plain.chars := by
    simp [header, indented, List.replicate, List.cons_prefix_cons]
  have colon : endsWithColon (header 2 plain.chars) = true := by
    rw [header, indented, ← List.append_assoc]
    exact endsWithColon_append_colon _
  have name : ((header 2 plain.chars).drop 2).dropLast = plain.chars := by
    simp [header, indented, List.replicate]
  rw [viewerLine, header, indentOf_indented starts, trimEnd_indented (ends_colon _), ← header,
    if_pos ⟨rfl, dash, colon⟩, name]
  rfl

/-- A type without a body is passed over. -/
theorem viewerLine_emptyType (plain : Plain) :
    viewerLine st (indented 2 (plain.chars ++ ": {}".toList)) = st := by
  have ends : Ends (plain.chars ++ ": {}".toList) := ends_emptyBody _
  -- It is two blanks deep as a type is, but ends in a brace.
  have colon : ¬ endsWithColon (indented 2 (plain.chars ++ ": {}".toList)) = true := by
    rw [indented, ← List.append_assoc, endsWithColon_emptyBody]
    exact Bool.false_ne_true
  rw [viewerLine, indentOf_indented (plain.startsPlain.append _), trimEnd_indented ends,
    if_neg (fun opens => colon opens.2.2), if_neg (fun opens => by cases opens.1)]
  split <;> simp

/-- The header of a section forgets the permission that was read last. -/
theorem viewerLine_section (starts : Starts text) (named : SectionName.ofHeader text = some name) :
    viewerLine st (header 4 text) =
      { st with
        currentSection := some name, currentRelation := none, currentPermission := none } := by
  have starts := starts.append [':']
  -- Four blanks deep, it can only be a section.
  rw [viewerLine, header, indentOf_indented starts, trimEnd_indented (ends_colon _),
    trim_indented starts (ends_colon _), if_neg (by simp),
    if_pos ⟨rfl, endsWithColon_append_colon _⟩, List.dropLast_concat, named]

/-- A line six blanks deep is an entry of the section. -/
theorem viewerLine_entry (starts : Starts text) (ends : Ends text)
    (current : st.currentType = some type) (inside : st.currentSection = some name) :
    viewerLine st (indented 6 text) = entryLine st type name text := by
  rw [viewerLine, indentOf_indented starts, trimEnd_indented ends, trim_indented starts ends,
    if_neg (by simp), if_neg (by simp), current, inside]
  rfl

/-- A line eight blanks deep belongs to the entry before. -/
theorem viewerLine_body (starts : Starts text) (ends : Ends text)
    (current : st.currentType = some type) (inside : st.currentSection = some name) :
    viewerLine st (indented 8 text) = bodyLine st type text := by
  rw [viewerLine, indentOf_indented starts, trimEnd_indented ends, trim_indented starts ends,
    if_neg (by simp), if_neg (by simp), current, inside]
  rfl

/-- A line ten blanks deep is buffered, if it is in a section of permissions. -/
theorem viewerLine_deep (starts : Starts text) (ends : Ends text)
    (current : st.currentType = some type) (inside : st.currentSection = some name) :
    viewerLine st (indented 10 text) =
      if name = .permissions then
        { st with permissionBody := st.permissionBody ++ [String.ofList text] }
      else st := by
  rw [viewerLine, indentOf_indented starts, trimEnd_indented ends, trim_indented starts ends,
    if_neg (by simp), if_neg (by simp), current, inside]
  simp

end ViewerLines

/-- The permissions a type is shown with. -/
def ParsedType.shown (type : ParsedType) : StringMap ParsedPermission :=
  type.permissions.getD ∅

/-- What is shown of permissions that have a body. -/
def flushed (decls : List PermissionDecl) : List (String × ParsedPermission) :=
  (decls.filter fun decl => !decl.body.isEmpty).map fun decl =>
    (decl.name.text, { raw := decl.raw })

theorem flushed_append (first rest : List PermissionDecl) :
    flushed (first ++ rest) = flushed first ++ flushed rest := by
  rw [flushed, List.filter_append, List.map_append]
  rfl

/-- The permission that is in the buffer, if one is. -/
def ViewerState.Buffers (st : ViewerState) : Option PermissionDecl → Prop
  | none => st.currentPermission = none
  | some decl =>
    st.currentPermission = some decl.name.text ∧
      st.permissionBody = decl.body.map fun line => line.text.text

/-- Where the viewer is while it reads a type: in which section, and with what in the buffer. -/
structure ViewerState.At (st : ViewerState) (types : List ParsedType) (name : String)
    (shown : StringMap ParsedPermission) (within : Option SectionName)
    (buffer : Option PermissionDecl) : Prop where
  types : st.types = types
  current : ∃ type, st.currentType = some type ∧ type.name = name ∧ type.shown = shown
  inside : st.currentSection = within
  buffer : st.Buffers buffer

/-- Flushing the buffer assigns what is in it, if it has a body. -/
theorem flushPermission_shown {st : ViewerState} {buffer : Option PermissionDecl}
    (buffers : st.Buffers buffer) (type : ParsedType) :
    (flushPermission st.currentPermission st.permissionBody type).name = type.name ∧
      (flushPermission st.currentPermission st.permissionBody type).shown =
        setKeys type.shown (flushed buffer.toList) := by
  cases buffer with
  | none =>
    rw [show st.currentPermission = none from buffers]
    exact ⟨rfl, rfl⟩
  | some decl =>
    obtain ⟨permission, body⟩ := buffers
    rw [permission, body]
    cases empty : decl.body with
    | nil => simp [flushPermission, flushed, setKeys, empty]
    | cons line rest =>
      -- The name is not empty, and so only the body decides.
      have named := decl.name.text_ne_empty
      simp [flushPermission, flushed, setKeys, empty, named, ParsedType.shown,
        PermissionDecl.raw]

namespace ViewerState.At

variable {st : ViewerState} {types : List ParsedType} {name : String}
  {shown : StringMap ParsedPermission} {within : Option SectionName}
  {buffer : Option PermissionDecl}

/-- The header of a section empties the buffer. -/
theorem enter {inside : SectionName} (at' : st.At types name shown within buffer)
    (text : List Char) (starts : Starts text)
    (named : SectionName.ofHeader text = some inside) :
    (viewerLine st (header 4 text)).At types name shown (some inside) none := by
  rw [viewerLine_section starts named]
  exact ⟨at'.types, at'.current, rfl, rfl⟩

/-- An entry of another section than the permissions touches no permission. -/
theorem entry {type : ParsedType} {inside : SectionName} (other : inside ≠ .permissions)
    (at' : st.At types name shown (some inside) buffer) (current : st.currentType = some type)
    (kv : List Char) : (entryLine st type inside kv).At types name shown (some inside) buffer := by
  obtain ⟨own, same, named, shows'⟩ := at'.current
  obtain rfl : type = own := Option.some.inj (current.symm.trans same)
  unfold entryLine
  -- An attribute or a relation is set in the type, and nothing else changes.
  cases inside with
  | attributes =>
    dsimp only
    split
    · exact ⟨at'.types, ⟨_, rfl, named, shows'⟩, at'.inside, at'.buffer⟩
    · exact at'
  | relations =>
    dsimp only
    split
    · exact ⟨at'.types, ⟨_, rfl, named, shows'⟩, at'.inside, at'.buffer⟩
    · exact at'
  | permissions => exact absurd rfl other

/-- Nor do the lines below such an entry. -/
theorem body {type : ParsedType} {inside : SectionName} (other : inside ≠ .permissions)
    (at' : st.At types name shown (some inside) buffer) (current : st.currentType = some type)
    (text : List Char) : (bodyLine st type text).At types name shown (some inside) buffer := by
  obtain ⟨own, same, named, shows'⟩ := at'.current
  obtain rfl : type = own := Option.some.inj (current.symm.trans same)
  unfold bodyLine
  split
  · -- At most the types of a relation are set.
    refine ⟨at'.types, ⟨_, rfl, ?_, ?_⟩, at'.inside, at'.buffer⟩
    · unfold setRelationTypes
      split
      · exact named
      · split <;> exact named
    · unfold setRelationTypes
      split
      · exact shows'
      · split <;> exact shows'
  · rw [if_neg fun inPermissions => other (Option.some.inj (at'.inside.symm.trans inPermissions.1))]
    exact at'

/-- No line of another section than the permissions touches a permission. -/
theorem deep {inside : SectionName} (other : inside ≠ .permissions)
    (at' : st.At types name shown (some inside) buffer) {line : List Char} (below : Deep line) :
    (viewerLine st line).At types name shown (some inside) buffer := by
  -- One case for each of the depths below a section.
  obtain ⟨depth, text, six | eight | ten, starts, ends, rfl⟩ := below
  · obtain ⟨type, current, -⟩ := at'.current
    rw [six, viewerLine_entry starts ends current at'.inside]
    exact at'.entry other current text
  · obtain ⟨type, current, -⟩ := at'.current
    rw [eight, viewerLine_body starts ends current at'.inside]
    exact at'.body other current text
  · obtain ⟨type, current, -⟩ := at'.current
    rw [ten, viewerLine_deep starts ends current at'.inside, if_neg other]
    exact at'

/-- A whole section other than the permissions touches none. -/
theorem lines {inside : SectionName} (other : inside ≠ .permissions) {lines : List (List Char)}
    (at' : st.At types name shown (some inside) buffer) (below : ∀ line ∈ lines, Deep line) :
    (lines.foldl viewerLine st).At types name shown (some inside) buffer := by
  -- By induction on the lines; the section and the buffer stay as they are.
  induction lines generalizing st with
  | nil => exact at'
  | cons line rest ih =>
    exact ih (at'.deep other (below line List.mem_cons_self))
      fun later member => below later (List.mem_cons_of_mem _ member)

/-- The lines of a body go into the buffer one by one. -/
theorem bodyLines (decl : PermissionDecl) (body : List BodyLine)
    (at' : st.At types name shown (some .permissions) (some decl)) :
    ((body.map BodyLine.line).foldl viewerLine st).At types name shown (some .permissions)
      (some { decl with body := decl.body ++ body }) := by
  induction body generalizing st decl with
  | nil => simpa using at'
  | cons line rest ih =>
    obtain ⟨type, current, same, shows'⟩ := at'.current
    obtain ⟨permission, buffered⟩ := at'.buffer
    have named : truthy st.currentPermission = true := by
      simp [truthy, permission, decl.name.text_ne_empty]
    -- At both depths the text of the line is put behind the lines before it.
    have pushed : viewerLine st line.line =
        { st with permissionBody := st.permissionBody ++ [line.text.text] } := by
      have starts := line.text.startsPlain
      have ends := line.text.endsPlain
      unfold BodyLine.line
      cases line.deep with
      | false =>
        rw [if_neg (by simp), viewerLine_body starts ends current at'.inside, bodyLine,
          if_neg (by simp [at'.inside]), if_pos ⟨at'.inside, named⟩]
        rfl
      | true =>
        rw [if_pos rfl, viewerLine_deep starts ends current at'.inside, if_pos rfl]
        rfl
    have next : (viewerLine st line.line).At types name shown (some .permissions)
        (some { decl with body := decl.body ++ [line] }) := by
      rw [pushed]
      refine ⟨at'.types, ⟨type, current, same, shows'⟩, at'.inside, permission, ?_⟩
      simp [buffered]
    have rest := ih { decl with body := decl.body ++ [line] } next
    rwa [List.append_assoc] at rest

/-- A permission flushes the one before it, and takes its place in the buffer. -/
theorem permissionDecl (decl : PermissionDecl)
    (at' : st.At types name shown (some .permissions) buffer) :
    (decl.lines.foldl viewerLine st).At types name (setKeys shown (flushed buffer.toList))
      (some .permissions) (some decl) := by
  obtain ⟨type, current, named, shows'⟩ := at'.current
  obtain ⟨kept, flushed⟩ := flushPermission_shown at'.buffer type
  -- Its header flushes, and starts an empty body.
  have entered : (viewerLine st (header 6 decl.name.chars)).At types name
      (setKeys shown (Console.flushed buffer.toList)) (some .permissions)
      (some { decl with body := [] }) := by
    rw [header, viewerLine_entry (decl.name.startsPlain.append _) (ends_colon _) current at'.inside,
      entryLine, if_pos (endsWithColon_append_colon _), List.dropLast_concat]
    exact ⟨at'.types, ⟨_, rfl, kept.trans named, by rw [flushed, shows']⟩, at'.inside, rfl, rfl⟩
  have read := bodyLines _ decl.body entered
  rwa [List.nil_append] at read

/-- A row of permissions is flushed but for the last one. -/
theorem permissionDecls {entries : List PermissionDecl}
    (at' : st.At types name shown (some .permissions) buffer) :
    ((entries.flatMap PermissionDecl.lines).foldl viewerLine st).At types name
      (setKeys shown (flushed (buffer.toList ++ entries).dropLast)) (some .permissions)
      (buffer.toList ++ entries).getLast? := by
  -- By induction on the permissions, of which the buffer holds the last that was read.
  induction entries generalizing st shown buffer with
  | nil =>
    have alone : buffer.toList.dropLast = [] ∧ buffer.toList.getLast? = buffer := by
      cases buffer <;> exact ⟨rfl, rfl⟩
    rw [List.append_nil, alone.1, alone.2]
    exact at'
  | cons decl rest ih =>
    rw [List.flatMap_cons, List.foldl_append]
    have read := ih (at'.permissionDecl decl)
    rw [← setKeys_append, ← flushed_append] at read
    rwa [List.dropLast_append_of_ne_nil (List.cons_ne_nil decl rest),
      List.getLast?_append_of_ne_nil _ (List.cons_ne_nil decl rest)]

/-- A section flushes all its permissions but the last one, which stays in the buffer. -/
theorem sectionDecl (at' : st.At types name shown within buffer) (decl : SectionDecl) :
    ∃ inside, (decl.lines.foldl viewerLine st).At types name
      (setKeys shown (flushed decl.permissionDecls.dropLast)) inside
      decl.permissionDecls.getLast? := by
  have deep := decl.entryLines_deep
  cases decl with
  | attributes entries =>
    have entered := at'.enter "attributes".toList starts_attributes rfl
    exact ⟨_, entered.lines (by decide) deep⟩
  | relations entries =>
    have entered := at'.enter "relations".toList starts_relations rfl
    exact ⟨_, entered.lines (by decide) deep⟩
  | permissions entries =>
    -- Only here are there permissions to be flushed.
    have entered := at'.enter "permissions".toList starts_permissions rfl
    exact ⟨_, entered.permissionDecls⟩

/-- What is in the buffer after some sections. -/
def leftOver (buffer : Option PermissionDecl) (sections : List SectionDecl) :
    Option PermissionDecl :=
  match sections.getLast? with
  | none => buffer
  | some decl => decl.permissionDecls.getLast?

/-- The permissions that the sections flush themselves. -/
def keptDecls (sections : List SectionDecl) : List PermissionDecl :=
  sections.flatMap fun decl => decl.permissionDecls.dropLast

/-- Sections flush what they keep, and leave the last permission of the last one. -/
theorem sectionDecls (at' : st.At types name shown within buffer) (sections : List SectionDecl) :
    ∃ inside, ((sections.flatMap SectionDecl.lines).foldl viewerLine st).At types name
      (setKeys shown (flushed (keptDecls sections))) inside (leftOver buffer sections) := by
  induction sections generalizing st shown within buffer with
  | nil => exact ⟨within, at'⟩
  | cons decl rest ih =>
    rw [List.flatMap_cons, List.foldl_append]
    obtain ⟨inside, first⟩ := at'.sectionDecl decl
    obtain ⟨last, read⟩ := ih first
    refine ⟨last, ?_⟩
    rw [← setKeys_append, ← flushed_append] at read
    -- The buffer is the one of the first section only if there are no others.
    cases rest with
    | nil => exact read
    | cons next others =>
      rw [leftOver, List.getLast?_cons_cons]
      exact read

end ViewerState.At

open ViewerState.At

/-- A type that is shown with the permissions its own sections have flushed. -/
def Kept (decl : TypeDecl) (parsed : ParsedType) : Prop :=
  parsed.name = decl.name.text ∧ parsed.shown = setKeys ∅ (flushed (keptDecls decl.sections))

/-- What is in the buffer after some types; one without sections leaves it as it was. -/
def bufferedAfter (blocks : List TypeDecl) : Option PermissionDecl :=
  blocks.foldl (fun buffer decl => leftOver buffer decl.sections) none

/-- The viewer after some types: all but the last one are put away. -/
inductive Views (st : ViewerState) : List TypeDecl → Prop
  | start (types : st.types = []) (current : st.currentType = none) : Views st []
  | reading {front : List TypeDecl} {last : TypeDecl} {parsed : ParsedType}
      (types : List.Forall₂ Kept front st.types) (current : st.currentType = some parsed)
      (kept : Kept last parsed) : Views st (front ++ [last])

/-- The header of the next type puts the one that was read away. -/
theorem Views.away {st : ViewerState} {blocks : List TypeDecl} (views : Views st blocks) :
    List.Forall₂ Kept blocks (st.types ++ st.currentType.toList) := by
  cases views with
  | start types current =>
    rw [types, current]
    exact .nil
  | reading types current kept =>
    rw [current]
    exact List.rel_append types (.cons kept .nil)

/-- A type is read after those before it. -/
theorem Views.typeDecl {st : ViewerState} {blocks : List TypeDecl} (views : Views st blocks)
    (buffers : st.Buffers (bufferedAfter blocks)) (decl : TypeDecl) :
    Views (decl.lines.foldl viewerLine st) (blocks ++ [decl].filter TypeDecl.isBlock) ∧
      (decl.lines.foldl viewerLine st).Buffers
        (bufferedAfter (blocks ++ [decl].filter TypeDecl.isBlock)) := by
  cases decl with
  | empty plain =>
    -- The viewer passes over the line of a type without a body.
    have passed : (TypeDecl.empty plain).lines.foldl viewerLine st = st :=
      viewerLine_emptyType plain
    have none : [TypeDecl.empty plain].filter TypeDecl.isBlock = [] := rfl
    rw [passed, none, List.append_nil]
    exact ⟨views, buffers⟩
  | block plain sections =>
    have opened : (viewerLine st (header 2 plain.chars)).At (st.types ++ st.currentType.toList)
        plain.text ∅ none (bufferedAfter blocks) := by
      rw [viewerLine_type]
      exact ⟨rfl, ⟨_, rfl, rfl, rfl⟩, rfl, buffers⟩
    obtain ⟨inside, read⟩ := opened.sectionDecls sections
    obtain ⟨parsed, current, named, shown⟩ := read.current
    have one : [TypeDecl.block plain sections].filter TypeDecl.isBlock =
        [.block plain sections] := rfl
    rw [one, bufferedAfter, List.foldl_append]
    refine ⟨.reading ?_ current ⟨named, shown⟩, read.buffer⟩
    exact read.types.symm ▸ views.away

/-- A row of types is read one after the other. -/
theorem Views.typeDecls {st : ViewerState} {blocks : List TypeDecl} (views : Views st blocks)
    (buffers : st.Buffers (bufferedAfter blocks)) (types : List TypeDecl) :
    Views ((types.flatMap TypeDecl.lines).foldl viewerLine st)
        (blocks ++ types.filter TypeDecl.isBlock) ∧
      ((types.flatMap TypeDecl.lines).foldl viewerLine st).Buffers
        (bufferedAfter (blocks ++ types.filter TypeDecl.isBlock)) := by
  -- By induction on the types, with those read before and what they left in the buffer.
  induction types generalizing st blocks with
  | nil =>
    rw [List.filter_nil, List.append_nil]
    exact ⟨views, buffers⟩
  | cons decl rest ih =>
    obtain ⟨next, left⟩ := views.typeDecl buffers decl
    have read := ih next left
    rw [List.append_assoc, ← List.filter_append] at read
    rw [List.flatMap_cons, List.foldl_append]
    exact read

/-- Lines at the margin are passed over. -/
theorem viewerLine_margin {lines : List (List Char)} (starts : ∀ line ∈ lines, Starts line)
    (st : ViewerState) : lines.foldl viewerLine st = st := by
  -- By induction on the lines, none of which changes anything.
  induction lines with
  | nil => rfl
  | cons line rest ih =>
    rw [List.foldl_cons, viewerLine_top (starts line List.mem_cons_self)]
    exact ih fun later member => starts later (List.mem_cons_of_mem _ member)

/-- The viewer reads the types that have a body. -/
theorem parseYamlSimple_views {decl : SchemaDecl} {source : String}
    (written : decl.WrittenAs List.isEmpty source) :
    ∃ st : ViewerState, parseYamlSimple source = st.finish ∧ Views st decl.blocks ∧
      st.Buffers (bufferedAfter decl.blocks) := by
  -- Blank lines and those at the margin say nothing, so the types alone are read.
  have blank : ∀ st line, List.isEmpty line = true → viewerLine st line = st := by
    intro st line empty
    obtain rfl := List.isEmpty_iff.mp empty
    rw [viewerLine, show indentOf [] = 0 from rfl, if_neg (by simp), if_neg (by simp)]
    split <;> simp
  have margin : ∀ (lines : List Plain) (line), line ∈ lines.map Plain.chars → Starts line := by
    intro lines line member
    obtain ⟨plain, -, rfl⟩ := List.mem_map.mp member
    exact plain.startsPlain
  have start : Views .start [] := .start rfl rfl
  have opens : Starts (header 0 "types".toList) := starts_types.append _
  obtain ⟨views, buffers⟩ := start.typeDecls rfl decl.types
  refine ⟨_, ?_, views, buffers⟩
  rw [parseYamlSimple, foldl_silent blank, written, SchemaDecl.lines, List.foldl_append,
    List.foldl_append, viewerLine_margin (margin _), viewerLine_margin (margin _), List.foldl_cons,
    viewerLine_top opens]

/-- A map that holds the permissions of a type that have a body, each with its own lines. -/
def ShowsExactly (decl : TypeDecl) (shown : StringMap ParsedPermission) : Prop :=
  ∀ name raw, shown.lookup name = some { raw } ↔
    ∃ permission ∈ decl.permissionDecls,
      permission.name.text = name ∧ permission.body ≠ [] ∧ permission.raw = raw

/-- A type that is shown under its name with exactly its own permissions. -/
def ShowsOwn (decl : TypeDecl) (parsed : ParsedType) : Prop :=
  parsed.name = decl.name.text ∧ ShowsExactly decl parsed.shown

/--
Only the last section of the last type ends in a permission with a body.

Types without a body do not count, and neither do sections without permissions.
-/
structure SchemaDecl.Settles (decl : SchemaDecl) : Prop where
  earlier : ∀ type ∈ decl.blocks.dropLast, ∀ within ∈ type.sections, ¬ within.EndsInBody
  last : ∀ type ∈ decl.blocks.getLast?, ∀ within ∈ type.sections.dropLast, ¬ within.EndsInBody

/-- No permission with a body has the name that sets the prototype of an object. -/
def TypeDecl.NoProto (decl : TypeDecl) : Prop :=
  ∀ permission ∈ decl.permissionDecls, permission.body ≠ [] → permission.name.text ≠ "__proto__"

section Exactly

variable {decl : TypeDecl} {shown : List PermissionDecl}

/-- What is flushed are the permissions with a body. -/
theorem mem_flushed {decls : List PermissionDecl} {name : String} {raw : String} :
    (name, ⟨raw⟩) ∈ flushed decls ↔ ∃ permission ∈ decls,
      permission.name.text = name ∧ permission.body ≠ [] ∧ permission.raw = raw := by
  constructor
  · intro member
    obtain ⟨permission, among, same⟩ := List.mem_map.mp member
    obtain ⟨declared, body⟩ := List.mem_filter.mp among
    obtain ⟨rfl, text⟩ := Prod.mk.inj same
    exact ⟨permission, declared, rfl, by simpa using body, congrArg ParsedPermission.raw text⟩
  · rintro ⟨permission, declared, rfl, body, rfl⟩
    exact List.mem_map.mpr ⟨permission, List.mem_filter.mpr ⟨declared, by simpa using body⟩, rfl⟩

/-- A map that was assigned all the permissions with a body shows exactly these. -/
theorem showsExactly_of_flushed (all : flushed shown = flushed decl.permissionDecls)
    (apart : (decl.permissionDecls.map fun permission => permission.name.text).Nodup)
    (plain : decl.NoProto) : ShowsExactly decl (setKeys ∅ (flushed shown)) := by
  intro name raw
  rw [all, ← mem_flushed]
  have keys : ((flushed decl.permissionDecls).map Prod.fst).Nodup := by
    rw [flushed, List.map_map]
    exact apart.sublist (List.filter_sublist.map _)
  have own : ∀ assigned ∈ flushed decl.permissionDecls, assigned.1 ≠ "__proto__" := by
    rintro ⟨name, ⟨raw⟩⟩ member
    obtain ⟨permission, declared, rfl, body, -⟩ := mem_flushed.mp member
    exact plain permission declared body
  constructor
  · intro found
    -- A key that is found was assigned, and only once.
    by_contra missing
    have assigned : name ∈ (flushed decl.permissionDecls).map Prod.fst := by
      by_contra absent
      rw [lookup_setKeys_absent absent] at found
      cases found
    obtain ⟨⟨_, value⟩, member, rfl⟩ := List.mem_map.mp assigned
    rw [lookup_setKeys_mem keys member (own _ member)] at found
    obtain rfl := Option.some.inj found
    exact missing member
  · intro member
    exact lookup_setKeys_mem keys member (own _ member)

/-- Nothing is ever shown under the name that sets the prototype. -/
theorem ShowsExactly.noProto (exactly : ShowsExactly decl (setKeys ∅ (flushed shown))) :
    decl.NoProto := by
  intro permission declared body proto
  -- A permission of that name ought to be found, but assigning sets no key.
  have found := (exactly _ _).mpr ⟨permission, declared, rfl, body, rfl⟩
  rw [proto, lookup_setKeys_proto] at found
  cases found

/-- A section that ends in a permission with a body loses it, if nothing else shows it. -/
theorem ShowsExactly.not_endsInBody (exactly : ShowsExactly decl (setKeys ∅ (flushed shown)))
    (apart : (decl.permissionDecls.map fun permission => permission.name.text).Nodup)
    {early late : List SectionDecl} {within : SectionDecl}
    (split : decl.sections = early ++ within :: late)
    (others : ∀ permission ∈ shown, permission ∈ early.flatMap SectionDecl.permissionDecls ∨
      permission ∈ within.permissionDecls.dropLast ∨
      permission ∈ late.flatMap SectionDecl.permissionDecls) : ¬ within.EndsInBody := by
  rintro ⟨last, ends, body⟩
  obtain ⟨front, shape⟩ : ∃ front, within.permissionDecls = front ++ [last] :=
    ⟨_, (List.dropLast_append_getLast? last ends).symm⟩
  -- The names of the permissions around the last one are not its name.
  have all : decl.permissionDecls = early.flatMap SectionDecl.permissionDecls ++
      ((front ++ [last]) ++ late.flatMap SectionDecl.permissionDecls) := by
    rw [TypeDecl.permissionDecls, split, List.flatMap_append, List.flatMap_cons, shape]
  have found := (exactly _ _).mpr
    ⟨last, by rw [all]; simp, rfl, body, rfl⟩
  have assigned : last.name.text ∈ (flushed shown).map Prod.fst := by
    by_contra absent
    rw [lookup_setKeys_absent absent] at found
    cases found
  obtain ⟨⟨_, ⟨raw⟩⟩, member, same⟩ := List.mem_map.mp assigned
  obtain ⟨other, among, named, -⟩ := mem_flushed.mp member
  have clash : other.name.text = last.name.text := named.trans same
  rw [all] at apart
  simp only [List.map_append, List.map_cons, List.map_nil, List.nodup_append, List.mem_append,
    List.mem_map, List.mem_singleton] at apart
  rw [shape, List.dropLast_concat] at others
  rcases others other among with before | inside | after
  · exact apart.2.2 _ ⟨other, before, rfl⟩ _ (.inl (.inr rfl)) clash
  · exact apart.2.1.1.2.2 _ ⟨other, inside, rfl⟩ _ rfl clash
  · exact apart.2.1.2.2 _ (.inr rfl) _ ⟨other, after, rfl⟩ clash.symm

end Exactly

section Settling

/-- A list is all but its last element, and its last element. -/
theorem dropLast_append_last {α : Type} (list : List α) :
    list.dropLast ++ list.getLast?.toList = list := by
  rcases List.eq_nil_or_concat list with rfl | ⟨front, last, rfl⟩
  · rfl
  · simp

/-- A section that does not end in a permission with a body leaves nothing to flush. -/
theorem flushed_last {within : SectionDecl} (ends : ¬ within.EndsInBody) :
    flushed within.permissionDecls.getLast?.toList = [] := by
  cases last : within.permissionDecls.getLast? with
  | none => rfl
  | some permission =>
    have body : permission.body = [] := by
      by_contra body
      exact ends ⟨permission, last, body⟩
    simp [flushed, body]

/-- Such sections flush all of their permissions themselves. -/
theorem flushed_keptDecls {sections : List SectionDecl}
    (ends : ∀ within ∈ sections, ¬ within.EndsInBody) :
    flushed (keptDecls sections) = flushed (sections.flatMap SectionDecl.permissionDecls) := by
  -- By induction on the sections: each one flushes all that it has to show.
  induction sections with
  | nil => rfl
  | cons within rest ih =>
    have own : flushed within.permissionDecls.dropLast = flushed within.permissionDecls := by
      conv_rhs => rw [← dropLast_append_last within.permissionDecls, flushed_append,
        flushed_last (ends within List.mem_cons_self), List.append_nil]
    rw [keptDecls, List.flatMap_cons, List.flatMap_cons, flushed_append, flushed_append, own]
    exact congrArg _ (ih fun other member => ends other (List.mem_cons_of_mem _ member))

/-- Types whose sections leave nothing to flush leave nothing to the type after them. -/
theorem flushed_bufferedAfter {blocks : List TypeDecl}
    (ends : ∀ type ∈ blocks, ∀ within ∈ type.sections, ¬ within.EndsInBody) :
    flushed (bufferedAfter blocks).toList = [] := by
  -- By induction from the last type; one without sections leaves what was there.
  induction blocks using List.reverseRecOn with
  | nil => rfl
  | append_singleton front last ih =>
    rw [bufferedAfter, List.foldl_append]
    have earlier := ih fun type member => ends type (List.mem_append_left _ member)
    rw [List.foldl_cons, List.foldl_nil, leftOver]
    cases final : last.sections.getLast? with
    | none => exact earlier
    | some within =>
      exact flushed_last (ends last (List.mem_append_right _ List.mem_cons_self) within
        (List.mem_of_getLast? final))

/-- What sections keep is among their permissions. -/
theorem keptDecls_subset (sections : List SectionDecl) :
    ∀ permission ∈ keptDecls sections,
      permission ∈ sections.flatMap SectionDecl.permissionDecls := by
  intro permission member
  -- Each section keeps some of its own.
  obtain ⟨within, among, kept⟩ := List.mem_flatMap.mp member
  exact List.mem_flatMap.mpr ⟨within, among, List.dropLast_subset _ kept⟩

/-- What is kept around a section, and by it. -/
theorem mem_keptDecls_split {early late : List SectionDecl} {within : SectionDecl}
    {permission : PermissionDecl} (member : permission ∈ keptDecls (early ++ within :: late)) :
    permission ∈ early.flatMap SectionDecl.permissionDecls ∨
      permission ∈ within.permissionDecls.dropLast ∨
      permission ∈ late.flatMap SectionDecl.permissionDecls := by
  rw [keptDecls, List.flatMap_append, List.flatMap_cons] at member
  -- Before the section, in it, or after it.
  rcases List.mem_append.mp member with before | member
  · exact .inl (keptDecls_subset early permission before)
  · rcases List.mem_append.mp member with inside | after
    · exact .inr (.inl inside)
    · exact .inr (.inr (keptDecls_subset late permission after))

end Settling

section Blocks

variable {decl : TypeDecl} {parsed : ParsedType}

/-- A type that another one follows is shown right exactly when nothing of it stays behind. -/
theorem Kept.showsOwn (kept : Kept decl parsed)
    (apart : (decl.permissionDecls.map fun permission => permission.name.text).Nodup) :
    ShowsOwn decl parsed ↔
      (∀ within ∈ decl.sections, ¬ within.EndsInBody) ∧ decl.NoProto := by
  obtain ⟨named, shown⟩ := kept
  constructor
  · rintro ⟨-, exactly⟩
    rw [shown] at exactly
    refine ⟨fun within member => ?_, exactly.noProto⟩
    -- What a section would lose stands between other sections, which do not show it.
    obtain ⟨early, late, split⟩ := List.append_of_mem member
    refine exactly.not_endsInBody apart split fun permission among => ?_
    rw [split] at among
    exact mem_keptDecls_split among
  · rintro ⟨ends, plain⟩
    refine ⟨named, ?_⟩
    rw [shown]
    exact showsExactly_of_flushed (flushed_keptDecls ends) apart plain

/-- The last type is shown right exactly when only its last section leaves something behind. -/
theorem showsExactly_last (buffer : Option PermissionDecl)
    (apart : (decl.permissionDecls.map fun permission => permission.name.text).Nodup) :
    (ShowsExactly decl (setKeys ∅ (flushed
        (keptDecls decl.sections ++ (leftOver buffer decl.sections).toList))) →
      (∀ within ∈ decl.sections.dropLast, ¬ within.EndsInBody) ∧ decl.NoProto) ∧
    (flushed buffer.toList = [] →
      (∀ within ∈ decl.sections.dropLast, ¬ within.EndsInBody) ∧ decl.NoProto →
      ShowsExactly decl (setKeys ∅ (flushed
        (keptDecls decl.sections ++ (leftOver buffer decl.sections).toList)))) := by
  rcases List.eq_nil_or_concat decl.sections with none | ⟨front, last, shape⟩
  · -- Without sections of its own, the type shows what is in the buffer.
    rw [none]
    refine ⟨fun exactly => ⟨by simp, exactly.noProto⟩, fun empty conditions => ?_⟩
    refine showsExactly_of_flushed ?_ apart conditions.2
    rw [TypeDecl.permissionDecls, none]
    exact empty
  · rw [List.concat_eq_append] at shape
    have left : leftOver buffer decl.sections = last.permissionDecls.getLast? := by
      rw [shape, leftOver, List.getLast?_concat]
    rw [left, shape, List.dropLast_concat]
    constructor
    · intro exactly
      refine ⟨fun within member => ?_, exactly.noProto⟩
      obtain ⟨early, late, split⟩ := List.append_of_mem member
      have splits : decl.sections = early ++ within :: (late ++ [last]) := by
        rw [shape, split]
        simp
      refine exactly.not_endsInBody apart splits ?_
      -- What the last section leaves behind comes after the section.
      intro permission among
      rcases List.mem_append.mp among with kept | buffered
      · rw [split, List.append_assoc] at kept
        exact mem_keptDecls_split kept
      · refine .inr (.inr (List.mem_flatMap.mpr ⟨last, by simp, ?_⟩))
        exact List.mem_of_getLast? (Option.mem_toList.mp buffered)
    · rintro - ⟨ends, plain⟩
      refine showsExactly_of_flushed ?_ apart plain
      have kept : keptDecls (front ++ [last]) =
          keptDecls front ++ last.permissionDecls.dropLast := by
        simp [keptDecls]
      have all : decl.permissionDecls =
          front.flatMap SectionDecl.permissionDecls ++ last.permissionDecls := by
        simp [TypeDecl.permissionDecls, shape]
      rw [kept, all, List.append_assoc, dropLast_append_last, flushed_append, flushed_append,
        flushed_keptDecls ends]

/-- Types that others follow are shown right exactly when each of them is. -/
theorem forall₂_showsOwn {front : List TypeDecl} {types : List ParsedType}
    (kept : List.Forall₂ Kept front types)
    (apart : ∀ type ∈ front,
      (type.permissionDecls.map fun permission => permission.name.text).Nodup) :
    List.Forall₂ ShowsOwn front types ↔
      ∀ type ∈ front, (∀ within ∈ type.sections, ¬ within.EndsInBody) ∧ type.NoProto := by
  -- By induction on the types, one by one.
  induction kept with
  | nil => exact ⟨fun _ _ member => absurd member List.not_mem_nil, fun _ => .nil⟩
  | cons first rest ih =>
    rw [List.forall₂_cons, List.forall_mem_cons, first.showsOwn (apart _ List.mem_cons_self),
      ih fun type member => apart type (List.mem_cons_of_mem _ member)]

/-- Two lists that end in an element agree when they do before it and in it. -/
theorem forall₂_concat {α β : Type} {R : α → β → Prop} {front : List α} {types : List β}
    {last : α} {final : β} :
    List.Forall₂ R (front ++ [last]) (types ++ [final]) ↔
      List.Forall₂ R front types ∧ R last final := by
  rw [← List.forall₂_reverse_iff, List.reverse_append, List.reverse_append, List.reverse_singleton,
    List.reverse_singleton, List.singleton_append, List.singleton_append, List.forall₂_cons,
    List.forall₂_reverse_iff, and_comm]

end Blocks

/--
The viewer shows every permission under its own type exactly when nothing follows a permission
with a body that ends its section, and no such permission has the name of the prototype.
-/
theorem viewer_shows_own (decl : SchemaDecl) (source : String)
    (written : decl.WrittenAs List.isEmpty source) :
    List.Forall₂ ShowsOwn decl.blocks (parseYamlSimple source) ↔
      decl.Settles ∧ ∀ type ∈ decl.blocks, type.NoProto := by
  obtain ⟨st, parsed, views, buffers⟩ := parseYamlSimple_views written
  have apart : ∀ type ∈ decl.blocks,
      (type.permissionDecls.map fun permission => permission.name.text).Nodup :=
    fun type member => decl.permissionsApart type (List.mem_of_mem_filter member)
  rw [parsed]
  generalize same : decl.blocks = blocks at views buffers apart
  cases views with
  | start types current =>
    -- Nothing was read, and nothing is shown.
    have none : st.finish = [] := by rw [ViewerState.finish, current, types]
    rw [none]
    exact ⟨fun _ => ⟨⟨by simp [same], by simp [same]⟩, by simp⟩, fun _ => .nil⟩
  | @reading front last parsed types current kept =>
    obtain ⟨named, shown⟩ := flushPermission_shown buffers parsed
    have finished : st.finish = st.types ++
        [flushPermission st.currentPermission st.permissionBody parsed] := by
      rw [ViewerState.finish, current]
    have buffered : bufferedAfter (front ++ [last]) =
        leftOver (bufferedAfter front) last.sections := by
      rw [bufferedAfter, List.foldl_append]
      rfl
    rw [kept.2, ← setKeys_append, ← flushed_append, buffered] at shown
    have earlier := forall₂_showsOwn types fun type member =>
      apart type (List.mem_append_left _ member)
    obtain ⟨needs, enough⟩ := showsExactly_last (bufferedAfter front)
      (apart last (List.mem_append_right _ List.mem_cons_self))
    rw [finished, forall₂_concat, earlier]
    constructor
    · rintro ⟨settled, -, exactly⟩
      rw [shown] at exactly
      obtain ⟨ends, plain⟩ := needs exactly
      refine ⟨⟨?_, ?_⟩, ?_⟩
      · rw [same, List.dropLast_concat]
        exact fun type member => (settled type member).1
      · rw [same, List.getLast?_concat]
        intro type member
        rw [← Option.mem_some_iff.mp member]
        exact ends
      · intro type member
        rcases List.mem_append.mp member with before | final
        · exact (settled type before).2
        · rwa [List.mem_singleton.mp final]
    · rintro ⟨⟨settled, ends⟩, plain⟩
      rw [same, List.dropLast_concat] at settled
      rw [same, List.getLast?_concat] at ends
      refine ⟨fun type member => ⟨settled type member, plain type (List.mem_append_left _ member)⟩,
        named.trans kept.1, ?_⟩
      rw [shown]
      exact enough (flushed_bufferedAfter settled)
        ⟨ends last rfl, plain last (List.mem_append_right _ List.mem_cons_self)⟩

/-- Whether the permissions of the minimal example are shown under their type. -/
theorem viewer_shows_own_minimal :
    List.Forall₂ ShowsOwn minimalDecl.blocks (parseYamlSimple minimalSource) ↔
      minimalDecl.Settles ∧ ∀ type ∈ minimalDecl.blocks, type.NoProto :=
  viewer_shows_own minimalDecl minimalSource minimalDecl_written

/-- Two types with a permission each. -/
def foldersSource : String :=
  "types:
  folder:
    permissions:
      view:
        resolve: viewer
  document:
    permissions:
      edit:
        resolve: editor
"

/-- The type of folders. -/
def folderDecl : TypeDecl :=
  .block (plain "folder") [
    .permissions [
      { name := viewName, body := [{ deep := false, text := plain "resolve: viewer" }] }]]

/-- What the source with the two types declares. -/
def foldersDecl : SchemaDecl where
  before := []
  types := [
    folderDecl,
    .block documentName [
      .permissions [
        { name := plain "edit", body := [{ deep := false, text := plain "resolve: editor" }] }]]]
  after := []
  others := by decide
  apart := by decide
  permissionsApart := by decide

/-- The permission of the folders is not shown, since another type follows. -/
theorem viewer_shows_own_folders :
    ¬ ∀ (decl : SchemaDecl) (source : String), decl.WrittenAs List.isEmpty source →
      List.Forall₂ ShowsOwn decl.blocks (parseYamlSimple source) := by
  intro shows'
  have written : foldersDecl.WrittenAs List.isEmpty foldersSource := by
    rw [SchemaDecl.WrittenAs, foldersSource, splitLines_ofList]
    decide
  have all := shows' foldersDecl foldersSource written
  have lost : ∀ parsed ∈ (parseYamlSimple foldersSource).head?,
      parsed.shown.lookup "view" = none := by
    rw [parseYamlSimple, foldersSource, splitLines_ofList]
    decide +kernel
  cases parsed : parseYamlSimple foldersSource with
  | nil =>
    rw [parsed] at all
    cases all
  | cons first rest =>
    rw [parsed] at all lost
    have missing := lost first rfl
    have own : ShowsOwn folderDecl first := (List.forall₂_cons.mp all).1
    -- The folders declare the permission, with a body.
    have found := (own.2 "view" "resolve: viewer").mpr
      ⟨{ name := viewName, body := [{ deep := false, text := plain "resolve: viewer" }] },
        by simp [folderDecl, TypeDecl.permissionDecls, TypeDecl.sections,
          SectionDecl.permissionDecls], by decide, by decide, by decide⟩
    rw [missing] at found
    cases found

end ZanGuard.Console
