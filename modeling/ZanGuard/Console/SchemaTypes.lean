import ZanGuard.Console.Script

/-! The three readers of a schema's source that offer its types, relations and permissions. -/

namespace ZanGuard.Console

/-- A type with what a reader lists under it. -/
structure TypeInfo (ρ : Type) where
  name : String
  members : List ρ
  deriving DecidableEq

/-- A relation with the types it allows. -/
structure SchemaRelation where
  name : String
  allowedTypes : List String
  deriving DecidableEq

/-- `v.replace(/^['"]|['"]$/g, "")`: without a quotation mark at either end. -/
def stripQuotes (v : List Char) : List Char :=
  let opened := if v.head?.any isQuote then v.tail else v
  -- The two ends are tested one after the other, and need not have the same mark.
  if opened.getLast?.any isQuote then opened.dropLast else opened

/-- The entries of a list in brackets, or the one entry without them. -/
def parseInlineList (value : List Char) : List String :=
  let normalized := trim value
  if normalized = [] then []
  else if normalized.head? = some '[' ∧ normalized.getLast? = some ']' then
    ((normalized.tail.dropLast.splitOn ',').map fun item =>
      String.ofList (stripQuotes (trim item))).filter (· ≠ "")
  -- A value without brackets is a list of one.
  else [String.ofList (stripQuotes normalized)]

/-- A line without text, or with a comment. -/
def isSkipped (rawLine : List Char) : Bool :=
  trim rawLine == [] || (trimStart rawLine).head? == some '#'

/-- How a reader lists what stands below a type: where it starts, and what a line changes. -/
structure MemberReader (σ ρ : Type) where
  reset : σ
  read : Nat → List Char → σ × List ρ → σ × List ρ

/--
What the readers remember from line to line.

The current type is one of the result, and is changed in its place there.
-/
structure TypesState (σ ρ : Type) where
  inTypesSection : Bool
  result : List (TypeInfo ρ)
  currentType : Option Nat
  below : σ

section Readers

variable {σ ρ : Type}

/-- `result.push`, and the place of the new type. -/
def pushType (result : List (TypeInfo ρ)) (name : String) : List (TypeInfo ρ) × Nat :=
  (result ++ [{ name, members := [] }], result.length)

/-- `parsed.set`, which puts a type in the place of one of the same name. -/
def setType (parsed : List (TypeInfo ρ)) (name : String) : List (TypeInfo ρ) × Nat :=
  match parsed.findIdx? (·.name == name) with
  | none => pushType parsed name
  -- A type that comes twice keeps its place, and loses what was listed under it.
  | some place => (parsed.set place { name, members := [] }, place)

/-- What a line with text changes, for a reader of what is below a type. -/
def contentLine (reader : MemberReader σ ρ)
    (add : List (TypeInfo ρ) → String → List (TypeInfo ρ) × Nat) (st : TypesState σ ρ)
    (indent : Nat) (line : List Char) : TypesState σ ρ :=
  if indent = 0 then
    -- Every line at the margin ends the types, and one of them begins them.
    { st with
      inTypesSection := line == "types:".toList, currentType := none, below := reader.reset }
  else if !st.inTypesSection then st
  -- A line that does not end in a colon is no type, such as one with an empty body.
  else if indent = 2 ∧ endsWithColon line then
    let typeName := trim line.dropLast
    if typeName = [] then st
    else
      let added := add st.result (String.ofList typeName)
      { st with result := added.1, currentType := some added.2, below := reader.reset }
  else
    -- Everything else is for the reader of the current type, if there is one.
    match st.currentType with
    | none => st
    | some place =>
      match st.result[place]? with
      | none => st
      | some info =>
        let (below, members) := reader.read indent line (st.below, info.members)
        { st with result := st.result.set place { info with members }, below }

/-- What one line changes. -/
def typesLine (reader : MemberReader σ ρ)
    (add : List (TypeInfo ρ) → String → List (TypeInfo ρ) × Nat) (st : TypesState σ ρ)
    (rawLine : List Char) : TypesState σ ρ :=
  if isSkipped rawLine then st
  else contentLine reader add st (indentOf rawLine) (trim rawLine)

/-- Read a source line by line. -/
def readTypes (reader : MemberReader σ ρ)
    (add : List (TypeInfo ρ) → String → List (TypeInfo ρ) × Nat) (source : String) :
    List (TypeInfo ρ) :=
  ((splitLines source).foldl (typesLine reader add)
    { inTypesSection := false, result := [], currentType := none, below := reader.reset }).result

end Readers

/-- What is remembered below a type by the readers of relations. -/
structure RelationState where
  inRelations : Bool
  /-- Whether there is a current relation, which is the last one of the type. -/
  hasRelation : Bool
  collectingTypesList : Bool
  deriving DecidableEq

/-- Add types to the current relation. -/
def allowTypes (relations : List SchemaRelation) (types : List String) : List SchemaRelation :=
  relations.modifyLast fun relation =>
    { relation with allowedTypes := relation.allowedTypes ++ types }

/-- What a line below a type changes for the readers of relations. -/
def relationLine (indent : Nat) (line : List Char) :
    RelationState × List SchemaRelation → RelationState × List SchemaRelation :=
  fun (st, relations) =>
    if indent = 4 ∧ endsWithColon line then
      -- The header of a section, be it the relations or another one.
      ({ inRelations := trim line.dropLast == "relations".toList
         hasRelation := false, collectingTypesList := false }, relations)
    else if !st.inRelations then (st, relations)
    else if indent = 6 ∧ endsWithColon line then
      -- The header of a relation.
      ({ st with hasRelation := true, collectingTypesList := false },
        relations ++ [{ name := .ofList (trim line.dropLast), allowedTypes := [] }])
    else if !st.hasRelation then (st, relations)
    -- The types in one line, or the line that says that they follow.
    else if indent = 8 ∧ "types:".toList <+: line then
      let rawTypes := trim (line.drop "types:".length)
      if rawTypes ≠ [] then
        ({ st with collectingTypesList := false }, allowTypes relations (parseInlineList rawTypes))
      else ({ st with collectingTypesList := true }, relations)
    -- One type of those that follow.
    else if st.collectingTypesList ∧ 10 ≤ indent ∧ "-".toList <+: line then
      let item := trim (line.drop 1)
      (st, if item ≠ [] then allowTypes relations [.ofList (stripQuotes item)] else relations)
    -- Anything no deeper than that ends the list.
    else if indent ≤ 8 then ({ st with collectingTypesList := false }, relations)
    else (st, relations)

/-- The reader of relations. -/
def relationReader : MemberReader RelationState SchemaRelation where
  reset := { inRelations := false, hasRelation := false, collectingTypesList := false }
  read := relationLine

/-- What a line below a type changes for the reader of permissions. -/
def permissionLine (indent : Nat) (line : List Char) : Bool × List String → Bool × List String :=
  fun (inPermissions, permissions) =>
    if indent = 4 ∧ endsWithColon line then
      (trim line.dropLast == "permissions".toList, permissions)
    else if inPermissions ∧ indent = 6 ∧ endsWithColon line then
      (inPermissions, permissions ++ [.ofList (trim line.dropLast)])
    else (inPermissions, permissions)

/-- The reader of permissions. -/
def permissionReader : MemberReader Bool String where
  reset := false
  read := permissionLine

/-- The types the dialog for new tuples offers, with their relations. -/
def parseSchemaTypes (source : String) : List (TypeInfo SchemaRelation) :=
  readTypes relationReader pushType source

/-- The types of the graph, with their relations and the targets of these. -/
def parseTypes (source : String) : List (TypeInfo SchemaRelation) :=
  readTypes relationReader setType source

/-- The types the evaluator offers, with their permissions. -/
def parseSchemaTypeInfos (source : String) : List (TypeInfo String) :=
  readTypes permissionReader pushType source

end ZanGuard.Console
