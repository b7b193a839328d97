import ZanGuard.Console.Script

/-! The schema viewer: a line-by-line reading of a schema's source, for display. -/

namespace ZanGuard.Console

/-- What the viewer shows of a permission. -/
structure ParsedPermission where
  raw : String
  deriving DecidableEq

/-- What the viewer shows of a type; a record is made when its first entry is. -/
structure ParsedType where
  name : String
  attributes : Option (StringMap String) := none
  relations : Option (StringMap (List String)) := none
  permissions : Option (StringMap ParsedPermission) := none

/-- The sections of a type. -/
inductive SectionName where
  | attributes
  | relations
  | permissions
  deriving DecidableEq

/-- The section a header names, if it is one. -/
def SectionName.ofHeader (name : List Char) : Option SectionName :=
  if name = "attributes".toList then some .attributes
  else if name = "relations".toList then some .relations
  else if name = "permissions".toList then some .permissions
  else none

/-- What the viewer remembers from line to line. -/
structure ViewerState where
  types : List ParsedType
  currentType : Option ParsedType
  currentSection : Option SectionName
  currentRelation : Option String
  currentPermission : Option String
  permissionBody : List String

/-- What is remembered before the first line. -/
def ViewerState.start : ViewerState :=
  { types := [], currentType := none, currentSection := none, currentRelation := none,
    currentPermission := none, permissionBody := [] }

/-- A name that is there, and not the empty text. -/
def truthy (name : Option String) : Bool :=
  name.any (· ≠ "")

/-- Add the buffered permission to a type, if it has a name and a line of its own. -/
def flushPermission (currentPermission : Option String) (permissionBody : List String)
    (type : ParsedType) : ParsedType :=
  match currentPermission with
  | none => type
  | some permission =>
    if permission ≠ "" ∧ permissionBody ≠ [] then
      { type with permissions := some (setKey (type.permissions.getD ∅) permission
          { raw := "\n".intercalate permissionBody }) }
    else type

/-- The types in a list in brackets, with all brackets taken out. -/
def bracketedTypes (typesStr : List Char) : List String :=
  (((typesStr.filter fun c => c != '[' && c != ']').splitOn ',').map fun s =>
    String.ofList (trim s)).filter (· ≠ "")

/-- The branch of an entry, six blanks deep. -/
def entryLine (st : ViewerState) (type : ParsedType) (currentSection : SectionName)
    (kv : List Char) : ViewerState :=
  match currentSection with
  | .attributes =>
    if kv.contains ':' then
      -- The name and the type are the first two pieces; a third one is lost.
      let pieces := (kv.splitOn ':').map fun s => String.ofList (trim s)
      { st with currentType := some { type with
          attributes := some (setKey (type.attributes.getD ∅) (pieces.headD "")
            (pieces.tail.headD "")) } }
    else st
  | .relations =>
    if endsWithColon kv then
      -- A relation starts without types, which its next line sets.
      let relation := String.ofList kv.dropLast
      { st with
        currentRelation := some relation
        currentType := some { type with
          relations := some (setKey (type.relations.getD ∅) relation []) } }
    else st
  | .permissions =>
    if endsWithColon kv then
      { st with
        -- Only the next entry of the section, or the end, saves the one before.
        currentType := some (flushPermission st.currentPermission st.permissionBody type)
        currentPermission := some (String.ofList kv.dropLast)
        permissionBody := [] }
    else st

/-- Replace the types of a relation that has an entry. -/
def setRelationTypes (type : ParsedType) (relation : String) (types : List String) : ParsedType :=
  match type.relations with
  | none => type
  | some relations =>
    -- Only a relation that has an entry already is given types.
    if (relations.lookup relation).isSome then
      { type with relations := some (setKey relations relation types) }
    else type

/-- The branch of a line eight blanks deep. -/
def bodyLine (st : ViewerState) (type : ParsedType) (text : List Char) : ViewerState :=
  if st.currentSection = some .relations ∧ truthy st.currentRelation ∧
      "types:".toList <+: text then
    { st with currentType := some (setRelationTypes type (st.currentRelation.getD "")
        (bracketedTypes (trim (text.drop 6)))) }
  else if st.currentSection = some .permissions ∧ truthy st.currentPermission then
    { st with permissionBody := st.permissionBody ++ [String.ofList text] }
  else st

/-- What one line changes. -/
def viewerLine (st : ViewerState) (line : List Char) : ViewerState :=
  let trimmed := trimEnd line
  let indent := indentOf line
  if indent = 2 ∧ ¬ "-".toList <+: trimmed ∧ endsWithColon trimmed then
    -- The type before is put away as it is, without the permission that is still buffered.
    { st with
      types := st.types ++ st.currentType.toList
      currentType := some { name := .ofList (trimmed.drop 2).dropLast }
      currentSection := none }
  else if indent = 4 ∧ endsWithColon (trim trimmed) then
    -- Any other header four blanks deep is passed over.
    match SectionName.ofHeader (trim trimmed).dropLast with
    | none => st
    | some name =>
      { st with currentSection := some name, currentRelation := none, currentPermission := none }
  else
    match st.currentType, st.currentSection with
    | some type, some name =>
      if indent = 6 then entryLine st type name (trim trimmed)
      else if indent = 8 then bodyLine st type (trim trimmed)
      else if indent = 10 ∧ name = .permissions then
        { st with permissionBody := st.permissionBody ++ [String.ofList (trim trimmed)] }
      else st
    | _, currentSection =>
      -- The deepest lines are buffered even if there is no type they could belong to.
      if indent = 10 ∧ currentSection = some .permissions then
        { st with permissionBody := st.permissionBody ++ [String.ofList (trim trimmed)] }
      else st

/-- The types when all lines are read, the last one with the permission still buffered. -/
def ViewerState.finish (st : ViewerState) : List ParsedType :=
  match st.currentType with
  | none => st.types
  | some type =>
    st.types ++ [flushPermission st.currentPermission st.permissionBody type]

/-- Read a schema's source as far as the viewer shows it. -/
def parseYamlSimple (source : String) : List ParsedType :=
  ((splitLines source).foldl viewerLine .start).finish

end ZanGuard.Console
