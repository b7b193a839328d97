import ZanGuard.Lib.Sha256
import ZanGuard.Schema.Parser

/-! The schema compiler: two passes over the raw types, and the references it parses. -/

namespace ZanGuard

variable {V P : Type}

/-- The SHA-256 of the source, in hexadecimal. -/
def hashYAML (data : List UInt8) : String :=
  Sha256.hex (Sha256.sum256 data)

/-- Split a text at the first place where a mark stands, if it does. -/
def splitAt (mark : List Char) : List Char → Option (List Char × List Char)
  | [] => if mark = [] then some ([], []) else none
  | c :: rest =>
    if mark.isPrefixOf (c :: rest) then some ([], (c :: rest).drop mark.length)
    else (splitAt mark rest).map fun (before, after) => (c :: before, after)

/-- Parse `group#member` or `user`. -/
def parseAllowedTypeRef (s : String) : AllowedTypeRef :=
  match splitAt ['#'] s.toList with
  | some (type, relation) => { type := .ofList type, relation := .ofList relation }
  | none => { type := s }

/-- Parse `parent->view`, `condition: ...` or `viewer`, in this order of precedence. -/
def parsePermissionRef (s : String) : Except SchemaErr PermissionRef :=
  match splitAt ['-', '>'] s.toList with
  | some (before, after) =>
    let relation := trimSpace (.ofList before)
    let permission := trimSpace (.ofList after)
    if relation = "" ∨ permission = "" then .error (.invalidArrowRef s)
    else .ok { arrowRef := relation, arrowPermission := permission }
  | none =>
    if "condition:".toList.isPrefixOf s.toList then
      -- The text is taken over as it stands; nothing compiles it here.
      .ok { conditionExpr := trimSpace (.ofList (s.toList.drop "condition:".length)) }
    else .ok { relationRef := trimSpace s }

/-- The operation of a permission and its children, by the first form that is filled in. -/
def compileOperation (name : String) (raw : RawPermission) :
    Except SchemaErr (PermOp × List PermissionRef) :=
  if raw.resolve ≠ "" then .ok (.direct, [{ relationRef := raw.resolve }])
  else if raw.union ≠ [] then (.union, ·) <$> raw.union.mapM parsePermissionRef
  else if raw.intersect ≠ [] then (.intersect, ·) <$> raw.intersect.mapM parsePermissionRef
  else if raw.exclusion ≠ [] then (.exclusion, ·) <$> raw.exclusion.mapM parsePermissionRef
  else .error (.noOperation name)

/-- The condition of a permission, compiled if there is one. -/
def compileGate (lang : ExprLang V P) (raw : RawPermission) :
    Except SchemaErr (Option (ConditionExpr P)) :=
  if raw.condition ≠ "" then
    some <$> (compileCondition lang raw.condition).mapError .compileCondition
  else .ok none

/-- Compile a permission, its own condition first. -/
def compilePermission (lang : ExprLang V P) (name : String) (raw : RawPermission) :
    Except SchemaErr (PermissionDef P) := do
  let condition ← compileGate lang raw
  let (operation, children) ← compileOperation name raw
  return { name, operation, children, condition }

/-- The first pass over a type: everything but its permissions. -/
def compileRelations (typeName : String) (raw : Option RawType) : Except SchemaErr (TypeDef P) :=
  match raw with
  | none => .error .nilPointer
  | some rawType => do
    let relations ← mapValues (fun relName types =>
      match types with
      | none => .error .nilPointer
      | some types => .ok { name := relName, allowedTypes := types.map parseAllowedTypeRef })
      rawType.relations
    return { name := typeName, attributes := rawType.attributes.getD ∅, relations }

/-- The second pass over a type: compile its permissions into what the first pass made. -/
def compilePermissions (lang : ExprLang V P) (types : StringMap (TypeDef P)) (typeName : String)
    (raw : Option RawType) : Except SchemaErr (TypeDef P) :=
  match raw, types.lookup typeName with
  | some rawType, some td => do
    let permissions ← mapValues (fun permName rawPerm =>
      match rawPerm with
      | none => .error .nilPointer
      | some rawPerm =>
        (compilePermission lang permName rawPerm).mapError (.inPermission typeName permName))
      rawType.permissions
    return { td with permissions }
  | _, _ => .error .nilPointer

/-- The types of a schema. -/
def compileTypes (lang : ExprLang V P) (raw : RawSchema) :
    Except SchemaErr (StringMap (TypeDef P)) := do
  let types ← mapValues compileRelations raw.types
  mapValues (compilePermissions lang types) raw.types

/-- A compiled permission was compiled under the name it is filed under. -/
theorem compileTypes_permission {lang : ExprLang V P} {raw : RawSchema}
    {types : StringMap (TypeDef P)} (ran : compileTypes lang raw = .ok types) :
    ∀ type ∈ types.entries, ∀ permission ∈ type.2.permissions.entries,
      ∃ rawPerm, compilePermission lang permission.1 rawPerm = .ok permission.2 := by
  intro type typed permission filed
  obtain ⟨relations, -, second⟩ := Except.of_bind_ok ran
  obtain ⟨rawType, -, made⟩ := mapValues_mem second typed
  -- The type was made by the second pass, from a raw type that is not nil.
  unfold compilePermissions at made
  split at made
  · obtain ⟨permissions, compiled, made⟩ := Except.of_bind_ok made
    rw [← Except.ok.inj made] at filed
    obtain ⟨rawPerm, -, one⟩ := mapValues_mem compiled filed
    cases rawPerm with
    | none => cases one
    | some rawPerm => exact ⟨rawPerm, Except.of_mapError_ok one⟩
  · cases made

/-- A compiled permission bears the name it was compiled under, and the operation of its form. -/
theorem compilePermission_ok {lang : ExprLang V P} {name : String} {raw : RawPermission}
    {permDef : PermissionDef P} (ran : compilePermission lang name raw = .ok permDef) :
    permDef.name = name ∧
      compileOperation name raw = .ok (permDef.operation, permDef.children) := by
  obtain ⟨condition, -, ran⟩ := Except.of_bind_ok ran
  obtain ⟨operation, made, ran⟩ := Except.of_bind_ok ran
  rw [← Except.ok.inj ran]
  exact ⟨rfl, made⟩

/-- Compile a raw schema; the source is only hashed. -/
def compile (lang : ExprLang V P) (raw : RawSchema) (originalYAML : List UInt8) (now : Time) :
    Except SchemaErr (CompiledSchema P) :=
  match ran : compileTypes lang raw with
  | .error e => .error e
  | .ok types => .ok {
      types
      version := raw.version
      hash := hashYAML originalYAML
      compiledAt := now
      named := by
        intro type typed permission filed
        obtain ⟨rawPerm, compiled⟩ := compileTypes_permission ran type typed permission filed
        exact (compilePermission_ok compiled).1 }

end ZanGuard
