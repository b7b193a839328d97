import ZanGuard.Console.Script

/-! Schemas in the two-space block layout: what they declare, and how they are written. -/

namespace ZanGuard.Console

/-- A text as the layout writes it: no comment, and with no white space around it. -/
structure Plain where
  chars : List Char
  starts : chars.head?.any (fun c => !isSpace c && c != '#') = true
  ends : chars.getLast?.any (fun c => !isSpace c) = true

/-- The text as a string. -/
def Plain.text (plain : Plain) : String :=
  .ofList plain.chars

/-- A type that a relation allows, with the marks it is quoted by, if any. -/
structure TypeRef extends Plain where
  quote : List Char
  quoting : quote = [] ∨ quote = ['\''] ∨ quote = ['"']
  single : ',' ∉ chars
  unquoted : chars.head?.any isQuote = false ∧ chars.getLast?.any isQuote = false

/-- The reference as it is written. -/
def TypeRef.written (ref : TypeRef) : List Char :=
  ref.quote ++ ref.chars ++ ref.quote

/-- An attribute of a type. -/
structure AttributeDecl where
  name : Plain
  type : Plain

/-- A relation, whose types stand in one line or in one line each. -/
structure RelationDecl where
  name : Plain
  types : List TypeRef
  inline : Bool

/-- One line of the body of a permission, at one of the two depths. -/
structure BodyLine where
  deep : Bool
  text : Plain

/-- A permission with the lines of its body. -/
structure PermissionDecl where
  name : Plain
  body : List BodyLine

/-- The lines of a permission's body as one text. -/
def PermissionDecl.raw (decl : PermissionDecl) : String :=
  "\n".intercalate (decl.body.map fun line => line.text.text)

/-- A section of a type. -/
inductive SectionDecl where
  | attributes (entries : List AttributeDecl)
  | relations (entries : List RelationDecl)
  | permissions (entries : List PermissionDecl)

/-- A type without a body, or with its sections. -/
inductive TypeDecl where
  | empty (name : Plain)
  | block (name : Plain) (sections : List SectionDecl)

/-- Whether a type has a body. -/
def TypeDecl.isBlock : TypeDecl → Bool
  | .empty _ => false
  | .block _ _ => true

/-- The name of a type. -/
def TypeDecl.name : TypeDecl → Plain
  | .empty name => name
  | .block name _ => name

/-- The sections of a type. -/
def TypeDecl.sections : TypeDecl → List SectionDecl
  | .empty _ => []
  | .block _ sections => sections

/-- The relations a section declares. -/
def SectionDecl.relationDecls : SectionDecl → List RelationDecl
  | .relations entries => entries
  | _ => []

/-- The permissions a section declares. -/
def SectionDecl.permissionDecls : SectionDecl → List PermissionDecl
  | .permissions entries => entries
  | _ => []

/-- Whether the last permission of a section has a body. -/
def SectionDecl.EndsInBody (decl : SectionDecl) : Prop :=
  ∃ last ∈ decl.permissionDecls.getLast?, last.body ≠ []

/-- The relations of a type. -/
def TypeDecl.relationDecls (type : TypeDecl) : List RelationDecl :=
  type.sections.flatMap SectionDecl.relationDecls

/-- The permissions of a type. -/
def TypeDecl.permissionDecls (type : TypeDecl) : List PermissionDecl :=
  type.sections.flatMap SectionDecl.permissionDecls

/-- A text some blanks to the right. -/
def indented (depth : Nat) (text : List Char) : List Char :=
  List.replicate depth ' ' ++ text

/-- A line that opens a block. -/
def header (depth : Nat) (name : List Char) : List Char :=
  indented depth (name ++ [':'])

/-- An attribute, on one line. -/
def AttributeDecl.line (decl : AttributeDecl) : List Char :=
  indented 6 (decl.name.chars ++ [':', ' '] ++ decl.type.chars)

/-- Types in brackets. -/
def bracketed (types : List TypeRef) : List Char :=
  '[' :: ([',', ' '].intercalate (types.map TypeRef.written) ++ [']'])

/-- The types of a relation in one line. -/
def inlineTypes (types : List TypeRef) : List Char :=
  "types:".toList ++ indented 1 (bracketed types)

/-- A relation with its types. -/
def RelationDecl.lines (decl : RelationDecl) : List (List Char) :=
  header 6 decl.name.chars ::
    if decl.inline then [indented 8 (inlineTypes decl.types)]
    else header 8 "types".toList ::
      decl.types.map fun ref => indented 10 (['-', ' '] ++ ref.written)

/-- A line of a permission's body. -/
def BodyLine.line (body : BodyLine) : List Char :=
  indented (if body.deep then 10 else 8) body.text.chars

/-- A permission with its body. -/
def PermissionDecl.lines (decl : PermissionDecl) : List (List Char) :=
  header 6 decl.name.chars :: decl.body.map BodyLine.line

/-- A section under its header. -/
def SectionDecl.lines : SectionDecl → List (List Char)
  | .attributes entries => header 4 "attributes".toList :: entries.map AttributeDecl.line
  | .relations entries => header 4 "relations".toList :: entries.flatMap RelationDecl.lines
  | .permissions entries => header 4 "permissions".toList :: entries.flatMap PermissionDecl.lines

/-- A type: `name: {}` without a body, and else its sections under its header. -/
def TypeDecl.lines : TypeDecl → List (List Char)
  | .empty name => [indented 2 (name.chars ++ ": {}".toList)]
  | .block name sections => header 2 name.chars :: sections.flatMap SectionDecl.lines

/--
A schema, whose names are the keys of mappings and so do not repeat.

Around the types there may be other entries on lines of their own, such as the version.
-/
structure SchemaDecl where
  before : List Plain
  types : List TypeDecl
  after : List Plain
  others : ∀ line ∈ before ++ after, line.chars ≠ "types:".toList
  apart : (types.map fun type => type.name.text).Nodup
  permissionsApart : ∀ type ∈ types, (type.permissionDecls.map fun decl => decl.name.text).Nodup

/-- The types of a schema that have a body. -/
def SchemaDecl.blocks (decl : SchemaDecl) : List TypeDecl :=
  decl.types.filter TypeDecl.isBlock

/-- The lines of a schema. -/
def SchemaDecl.lines (decl : SchemaDecl) : List (List Char) :=
  decl.before.map Plain.chars ++ header 0 "types".toList :: decl.types.flatMap TypeDecl.lines ++
    decl.after.map Plain.chars

/-- A source is a schema's lines, and between them lines that say nothing. -/
def SchemaDecl.WrittenAs (decl : SchemaDecl) (silent : List Char → Bool) (source : String) : Prop :=
  (splitLines source).filter (fun line => !silent line) = decl.lines

instance SchemaDecl.decidableWrittenAs (decl : SchemaDecl) (silent : List Char → Bool)
    (source : String) : Decidable (decl.WrittenAs silent source) :=
  inferInstanceAs (Decidable (_ = _))

/-- A text that is written as it stands. -/
def plain (text : String)
    (starts : text.toList.head?.any (fun c => !isSpace c && c != '#') = true := by decide)
    (ends : text.toList.getLast?.any (fun c => !isSpace c) = true := by decide) : Plain :=
  { chars := text.toList, starts, ends }

/-- The type `user`, unquoted. -/
def userRef : TypeRef where
  toPlain := plain "user"
  quote := []
  quoting := .inl rfl
  single := by decide
  unquoted := by decide

/-- The name of a type, and of a permission, of the examples. -/
def documentName : Plain := plain "document"

def viewName : Plain := plain "view"

/-- The minimal example of the documentation. -/
def minimalSource : String :=
  "version: \"1.0\"
types:
  user: {}

  document:
    relations:
      owner:
        types: [user]
      viewer:
        types: [user]
    permissions:
      view:
        union:
          - viewer
          - owner
      delete:
        resolve: owner
"

/-- What the minimal example declares. -/
def minimalDecl : SchemaDecl where
  before := [plain "version: \"1.0\""]
  types := [
    .empty (plain "user"),
    .block documentName [
      .relations [
        { name := plain "owner", types := [userRef], inline := true },
        { name := plain "viewer", types := [userRef], inline := true }],
      .permissions [
        { name := viewName
          body := [{ deep := false, text := plain "union:" },
            { deep := true, text := plain "- viewer" }, { deep := true, text := plain "- owner" }] },
        { name := plain "delete", body := [{ deep := false, text := plain "resolve: owner" }] }]]]
  after := []
  others := by decide
  apart := by decide
  permissionsApart := by decide

theorem minimalDecl_written : minimalDecl.WrittenAs List.isEmpty minimalSource := by
  rw [SchemaDecl.WrittenAs, minimalSource, splitLines_ofList]
  decide

end ZanGuard.Console
