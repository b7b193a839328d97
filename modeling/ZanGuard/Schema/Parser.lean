import ZanGuard.Lib.Fallible
import ZanGuard.Schema.Condition

/-! Raw schemas: what a YAML document holds, and how the parser takes it over. -/

namespace ZanGuard

/-- An error of the schema passes, with the values its text is formatted from. -/
inductive SchemaErr where
  /-- `parse schema: %w`, for a document the YAML decoder refuses -/
  | parseSchema (cause : String)
  /-- `permission list item must be a string ref or {condition: <expr>}` -/
  | invalidListItem
  /-- The runtime panic of reading through a nil pointer, met for a null entry of the document. -/
  | nilPointer
  /-- `type %q permission %q: %w` -/
  | inPermission (typeName permName : String) (inner : SchemaErr)
  /-- `compile condition: %w` -/
  | compileCondition (inner : Err)
  /-- `permission %q has no operation (resolve/union/intersect/exclusion)` -/
  | noOperation (name : String)
  /-- `invalid arrow ref %q` -/
  | invalidArrowRef (ref : String)
  /-- `type %q relation %q: references unknown type %q` -/
  | unknownSubjectType (typeName relName refType : String)
  /-- `type %q relation %q: type %q has no relation %q` -/
  | unknownSubjectRelation (typeName relName refType refRelation : String)
  /-- `type %q permission %q: references unknown relation/permission %q` -/
  | unknownRelationRef (typeName permName ref : String)
  /-- `type %q permission %q: arrow references unknown relation %q` -/
  | unknownArrowRelation (typeName permName ref : String)
  /-- `schema validation failed`, with the errors found -/
  | validationFailed (details : List SchemaErr)

/-- One node of a permission list, by what the decoder makes of it. -/
inductive ListItemNode where
  /-- A null node leaves the zero value in place, and no method of the item is called. -/
  | null
  /-- The outcomes of decoding a node as a string and as a `condition` map. -/
  | node (asString asCondition : Except String String)

/-- A permission as the document has it. -/
structure PermissionNode where
  resolve : String := ""
  union : List ListItemNode := []
  intersect : List ListItemNode := []
  exclusion : List ListItemNode := []
  condition : String := ""

/-- A type as the document has it; a null entry of a map is a nil pointer. -/
structure TypeNode where
  attributes : Option (StringMap String) := none
  /-- The type references each relation lists. -/
  relations : StringMap (Option (List String)) := ∅
  permissions : StringMap (Option PermissionNode) := ∅

/-- A schema as the document has it. -/
structure SchemaNode where
  version : String := ""
  types : Option (StringMap (Option TypeNode)) := none

/--
The YAML decoder, which is not part of the repository.

It refuses unknown keys, and leaves the items of permission lists to the method of their type.
-/
structure YamlDecoder where
  decode : List UInt8 → Except String SchemaNode

/-- A permission definition before compilation. -/
structure RawPermission where
  resolve : String := ""
  union : List String := []
  intersect : List String := []
  exclusion : List String := []
  condition : String := ""
  deriving DecidableEq

/-- A type definition before compilation. -/
structure RawType where
  attributes : Option (StringMap String) := none
  relations : StringMap (Option (List String)) := ∅
  permissions : StringMap (Option RawPermission) := ∅

/-- A schema before compilation. -/
structure RawSchema where
  version : String
  types : StringMap (Option RawType)

/-- Carry a fallible function over the values of a map, keeping the keys. -/
def mapValues {α β ε : Type} (f : String → α → Except ε β) (map : StringMap α) :
    Except ε (StringMap β) :=
  map.entries.foldlM (fun out entry => do
    let value ← f entry.1 entry.2
    return out.insert entry.1 value) ∅

/-- A value of the new map was made of the value under the same key. -/
theorem mapValues_mem {α β ε : Type} {f : String → α → Except ε β} {map : StringMap α}
    {out : StringMap β} (ran : mapValues f map = .ok out) {entry : Sigma fun _ : String => β}
    (member : entry ∈ out.entries) :
    ∃ a, ⟨entry.1, a⟩ ∈ map.entries ∧ f entry.1 a = .ok entry.2 := by
  -- By induction on the entries, with whatever was filed before them.
  have filed : ∀ (entries : List (Sigma fun _ : String => α)) (start : StringMap β),
      entries.foldlM (fun out entry => do
        let value ← f entry.1 entry.2
        return out.insert entry.1 value) start = .ok out →
      entry ∈ start.entries ∨ ∃ a, ⟨entry.1, a⟩ ∈ entries ∧ f entry.1 a = .ok entry.2 := by
    intro entries
    induction entries with
    | nil =>
      intro start done
      obtain rfl := Except.ok.inj done
      exact .inl member
    | cons first rest ih =>
      intro start done
      rw [List.foldlM_cons] at done
      obtain ⟨next, step, done⟩ := Except.of_bind_ok done
      obtain ⟨value, made, step⟩ := Except.of_bind_ok step
      obtain rfl := Except.ok.inj step
      rcases ih _ done with earlier | ⟨a, among, same⟩
      · rw [AList.entries_insert] at earlier
        rcases List.mem_cons.mp earlier with rfl | earlier
        · exact .inr ⟨first.2, List.mem_cons_self, made⟩
        · exact .inl ((List.kerase_sublist _ _).subset earlier)
      · exact .inr ⟨a, List.mem_cons_of_mem _ among, same⟩
  rcases filed map.entries ∅ ran with none | found
  · exact absurd none List.not_mem_nil
  · exact found

/-- A list item is a reference, or a condition that is written as one. -/
def ListItemNode.unmarshalYAML : ListItemNode → Except SchemaErr String
  | .null => .ok ""
  | .node (.ok s) _ => .ok (trimSpace s)
  | .node (.error _) (.ok condition) =>
    if trimSpace condition ≠ "" then .ok ("condition: " ++ trimSpace condition)
    else .error .invalidListItem
  | .node (.error _) (.error _) => .error .invalidListItem

/-- Take over a permission. -/
def PermissionNode.decode (node : PermissionNode) : Except SchemaErr RawPermission := do
  let union ← node.union.mapM ListItemNode.unmarshalYAML
  let intersect ← node.intersect.mapM ListItemNode.unmarshalYAML
  let exclusion ← node.exclusion.mapM ListItemNode.unmarshalYAML
  return { resolve := node.resolve, union, intersect, exclusion, condition := node.condition }

/-- Take over a type. -/
def TypeNode.decode (node : TypeNode) : Except SchemaErr RawType := do
  let permissions ← mapValues (fun _ permission => permission.mapM PermissionNode.decode)
    node.permissions
  return { attributes := node.attributes, relations := node.relations, permissions }

/-- Parse a document; a schema without types has an empty map of them. -/
def parse (yaml : YamlDecoder) (data : List UInt8) : Except SchemaErr RawSchema := do
  let node ← (yaml.decode data).mapError .parseSchema
  let types ← mapValues (fun _ type => type.mapM TypeNode.decode) (node.types.getD ∅)
  return { version := node.version, types }

end ZanGuard
