import ZanGuard.Schema.Compiler

/-! The schema validator, and the three passes a schema goes through before it is installed. -/

namespace ZanGuard

variable {V P : Type}

/-- Check that a relation or arrow of a permission names something its type has. -/
def validatePermRef (td : TypeDef P) (typeName permName : String) (ref : PermissionRef) :
    List SchemaErr :=
  match ref.kind with
  | .relation =>
    -- A relation reference may also name a permission of the type.
    if (td.relations.lookup ref.relationRef).isSome ∨ (td.permissions.lookup ref.relationRef).isSome
    then []
    else [.unknownRelationRef typeName permName ref.relationRef]
  | .arrow =>
    if (td.relations.lookup ref.arrowRef).isSome then []
    else [.unknownArrowRelation typeName permName ref.arrowRef]
  | _ => []

/-- Check that the type and the relation a subject reference names are there. -/
def validateTypeRef (cs : CompiledSchema P) (typeName relName : String) (ref : AllowedTypeRef) :
    List SchemaErr :=
  match cs.types.lookup ref.type with
  | none => [.unknownSubjectType typeName relName ref.type]
  | some refType =>
    if ref.relation ≠ "" ∧ (refType.relations.lookup ref.relation).isNone then
      [.unknownSubjectRelation typeName relName ref.type ref.relation]
    else []

/-- Every inconsistency of a compiled schema. -/
def validate (cs : CompiledSchema P) : List SchemaErr :=
  cs.types.entries.flatMap fun type =>
    (type.2.relations.entries.flatMap fun relation =>
      relation.2.allowedTypes.flatMap (validateTypeRef cs type.1 relation.1)) ++
    type.2.permissions.entries.flatMap fun permission =>
      permission.2.children.flatMap (validatePermRef type.2 type.1 permission.1)

/-- Parse, compile and validate a source, as an upload does before it installs the schema. -/
def acceptSchema (yaml : YamlDecoder) (lang : ExprLang V P) (data : List UInt8) (now : Time) :
    Except SchemaErr (CompiledSchema P) := do
  let raw ← parse yaml data
  let cs ← compile lang raw data now
  match validate cs with
  | [] => return cs
  | details => throw (.validationFailed details)

end ZanGuard
