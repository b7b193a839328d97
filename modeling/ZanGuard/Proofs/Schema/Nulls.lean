import ZanGuard.Proofs.Engine.Sound
import ZanGuard.Schema.Validator

/-! Null entries of a schema: loading one never crashes exactly when there are none. -/

namespace ZanGuard

variable {V P : Type}

/-! ### Schemas whose maps are iterated over in another order -/

/-- The same map, whose entries may come in another order. -/
def SameMap {α : Type} (same : α → α → Prop) (map other : StringMap α) : Prop :=
  ∀ name, Option.Rel same (map.lookup name) (other.lookup name)

/-- The same type, with its relations and permissions in any order. -/
structure RawType.Reordered (type other : RawType) : Prop where
  attributes : type.attributes = other.attributes
  relations : SameMap Eq type.relations other.relations
  permissions : SameMap Eq type.permissions other.permissions

/-- The same schema, with its types and what they hold in any order. -/
structure RawSchema.Reordered (raw other : RawSchema) : Prop where
  version : raw.version = other.version
  types : SameMap (Option.Rel RawType.Reordered) raw.types other.types

/-- Compile a schema and validate what was compiled. -/
def loadSchema (lang : ExprLang V P) (raw : RawSchema) (originalYAML : List UInt8) (now : Time) :
    Except SchemaErr (CompiledSchema P × List SchemaErr) := do
  let cs ← compile lang raw originalYAML now
  return (cs, validate cs)

/-- Loading ends with a schema and the faults found in it or with an error, in whatever order. -/
def RawSchema.LoadsSafely (lang : ExprLang V P) (raw : RawSchema) (originalYAML : List UInt8)
    (now : Time) : Prop :=
  ∀ other, raw.Reordered other →
    (∃ cs, loadSchema lang other originalYAML now = .ok (cs, validate cs)) ∨
      ∃ e, e ≠ .nilPointer ∧ loadSchema lang other originalYAML now = .error e

/-- No relation or permission of the type is null. -/
def RawType.NoNil (type : RawType) : Prop :=
  (∀ name, type.relations.lookup name ≠ some none) ∧
    ∀ name, type.permissions.lookup name ≠ some none

/-- No type is null, and no relation or permission of any. -/
def RawSchema.NoNil (raw : RawSchema) : Prop :=
  ∀ name type, raw.types.lookup name = some type → ∃ rawType, type = some rawType ∧ rawType.NoNil

/-- A map is the same as itself. -/
theorem SameMap.refl {α : Type} {same : α → α → Prop} (refl : ∀ a, same a a)
    (map : StringMap α) : SameMap same map map := by
  intro name
  cases map.lookup name with
  | none => exact .none
  | some a => exact .some (refl a)

/-- A map in which an entry was set again comes in another order. -/
theorem SameMap.insert {α : Type} {same : α → α → Prop} (refl : ∀ a, same a a)
    {map : StringMap α} {name : String} {a b : α} (filed : map.lookup name = some a)
    (alike : same a b) : SameMap same map (map.insert name b) := by
  intro other
  -- Only the name that was set again looks up another value.
  by_cases here : other = name
  · subst here
    rw [filed, AList.lookup_insert]
    exact .some alike
  · rw [AList.lookup_insert_ne here]
    exact SameMap.refl refl map other

/-- A type has the same content as itself. -/
theorem RawType.Reordered.refl (type : RawType) : type.Reordered type :=
  ⟨rfl, .refl (fun _ => rfl) _, .refl (fun _ => rfl) _⟩

/-- A null entry or a type has the same content as itself. -/
theorem RawType.Reordered.refl_entry (type : Option RawType) :
    Option.Rel RawType.Reordered type type := by
  cases type with
  | none => exact .none
  | some rawType => exact .some (.refl rawType)

/-- Another order does not bring in a null entry. -/
theorem SameMap.not_none {α : Type} {map other : StringMap (Option α)}
    (same : SameMap Eq map other) {name : String} (some_entry : map.lookup name ≠ some none) :
    other.lookup name ≠ some none := by
  intro null
  have alike := same name
  rw [null] at alike
  cases found : map.lookup name with
  | none =>
    -- The other order has no name that this one has not.
    rw [found] at alike
    cases alike
  | some entry =>
    rw [found] at alike
    cases alike with
    | some equal =>
      rw [equal] at found
      exact some_entry found

/-- Nor does another order of a whole schema. -/
theorem RawSchema.Reordered.noNil {raw other : RawSchema} (same : raw.Reordered other)
    (whole : raw.NoNil) : other.NoNil := by
  intro name type found
  have alike := same.types name
  rw [found] at alike
  cases entry : raw.types.lookup name with
  | none =>
    -- A type of the other order is one of this order too.
    rw [entry] at alike
    cases alike
  | some original =>
    obtain ⟨rawType, rfl, relations, permissions⟩ := whole name original entry
    rw [entry] at alike
    cases alike with
    | some alike =>
      cases alike with
      | @some _ otherType alike =>
        -- The relations and the permissions of the type may have moved as well.
        exact ⟨otherType, rfl, fun name => alike.relations.not_none (relations name),
          fun name => alike.permissions.not_none (permissions name)⟩

/-! ### Passing over the values of a map -/

/-- A pass that fails does so at an entry. -/
theorem mapValues_error {α β ε : Type} {f : String → α → Except ε β} {map : StringMap α} {e : ε}
    (failed : mapValues f map = .error e) :
    ∃ name a, map.lookup name = some a ∧ f name a = .error e := by
  -- By induction on the entries, with whatever was filed before them.
  have among : ∀ (entries : List (Sigma fun _ : String => α)) (start : StringMap β),
      entries.foldlM (fun out entry => do
        let value ← f entry.1 entry.2
        return out.insert entry.1 value) start = .error e →
      ∃ entry ∈ entries, f entry.1 entry.2 = .error e := by
    intro entries
    induction entries with
    | nil =>
      intro start failed
      cases failed
    | cons first rest ih =>
      intro start failed
      rw [List.foldlM_cons] at failed
      cases made : f first.1 first.2 with
      | error other =>
        rw [made] at failed
        exact ⟨first, List.mem_cons_self, made.trans (congrArg _ (Except.error.inj failed))⟩
      | ok value =>
        rw [made] at failed
        obtain ⟨entry, member, fails⟩ := ih _ failed
        exact ⟨entry, List.mem_cons_of_mem _ member, fails⟩
  obtain ⟨entry, member, fails⟩ := among map.entries ∅ failed
  exact ⟨entry.1, entry.2, AList.mem_lookup_iff.mpr member, fails⟩

/-- A pass that succeeds files a value under every name. -/
theorem mapValues_ok_mem {α β ε : Type} {f : String → α → Except ε β} {map : StringMap α}
    {out : StringMap β} (ran : mapValues f map = .ok out) {name : String} {a : α}
    (filed : map.lookup name = some a) : name ∈ out := by
  -- A name that was filed stays so, and that of every entry is filed in its turn.
  have kept : ∀ (entries : List (Sigma fun _ : String => α)) (start : StringMap β),
      entries.foldlM (fun out entry => do
        let value ← f entry.1 entry.2
        return out.insert entry.1 value) start = .ok out →
      name ∈ start ∨ ⟨name, a⟩ ∈ entries → name ∈ out := by
    intro entries
    induction entries with
    | nil =>
      intro start done there
      obtain rfl := Except.ok.inj done
      exact there.resolve_right List.not_mem_nil
    | cons first rest ih =>
      intro start done there
      rw [List.foldlM_cons] at done
      obtain ⟨next, step, done⟩ := Except.of_bind_ok done
      obtain ⟨value, -, step⟩ := Except.of_bind_ok step
      obtain rfl := Except.ok.inj step
      refine ih _ done ?_
      rw [AList.mem_insert]
      rcases there with earlier | later
      · exact .inl (.inr earlier)
      · rcases List.mem_cons.mp later with rfl | later
        · exact .inl (.inl rfl)
        · exact .inr later
  exact kept map.entries ∅ ran (.inr (AList.mem_lookup_iff.mp filed))

/-- That value was made of the one under the same name. -/
theorem mapValues_ok_lookup {α β ε : Type} {f : String → α → Except ε β} {map : StringMap α}
    {out : StringMap β} (ran : mapValues f map = .ok out) {name : String} {a : α}
    (filed : map.lookup name = some a) : ∃ b, f name a = .ok b ∧ out.lookup name = some b := by
  obtain ⟨b, found⟩ := Option.isSome_iff_exists.mp
    (AList.lookup_isSome.mpr (mapValues_ok_mem ran filed))
  obtain ⟨other, member, made⟩ := mapValues_mem ran (AList.mem_lookup_iff.mp found)
  -- The name has one entry only.
  obtain rfl : a = other := Option.some.inj (filed.symm.trans (AList.mem_lookup_iff.mpr member))
  exact ⟨b, made, found⟩

/-- An entry that was set last is the first to be passed over. -/
theorem mapValues_insert_error {α β ε : Type} {f : String → α → Except ε β} {map : StringMap α}
    {name : String} {a : α} {e : ε} (fails : f name a = .error e) :
    mapValues f (map.insert name a) = .error e := by
  rw [mapValues, AList.entries_insert, List.foldlM_cons, fails]
  rfl

/-! ### The two passes of the compiler -/

/-- The first pass over a type fails at a null pointer only. -/
theorem compileRelations_error {typeName : String} {type : Option RawType} {e : SchemaErr}
    (failed : compileRelations (P := P) typeName type = .error e) :
    e = .nilPointer ∧ ∀ rawType, type = some rawType → ¬ rawType.NoNil := by
  cases type with
  -- Reading the fields of a null type is the panic.
  | none => exact ⟨(Except.error.inj failed).symm, fun rawType same => by cases same⟩
  | some rawType =>
    rcases Except.of_bind_error failed with passing | ⟨relations, -, finished⟩
    · obtain ⟨name, types, found, fails⟩ := mapValues_error passing
      cases types with
      | none =>
        -- So is reading the types of a null relation.
        refine ⟨(Except.error.inj fails).symm, ?_⟩
        rintro _ ⟨⟩ whole
        exact whole.1 name found
      | some types => cases fails
    · cases finished

/-- A type that the first pass gets through has no null relation. -/
theorem compileRelations_ok {typeName : String} {type : Option RawType} {td : TypeDef P}
    (ran : compileRelations typeName type = .ok td) :
    ∃ rawType, type = some rawType ∧ ∀ name, rawType.relations.lookup name ≠ some none := by
  cases type with
  | none => cases ran
  | some rawType =>
    refine ⟨rawType, rfl, fun name null => ?_⟩
    obtain ⟨relations, passed, -⟩ := Except.of_bind_ok ran
    -- A null relation would have been compiled into one without a panic.
    obtain ⟨relation, made, -⟩ := mapValues_ok_lookup passed null
    cases made

/-- The second pass crashes only at a null permission of the type. -/
theorem compilePermissions_nil {lang : ExprLang V P} {types : StringMap (TypeDef P)}
    {typeName : String} {rawType : RawType} {td : TypeDef P}
    (made : types.lookup typeName = some td)
    (crashed : compilePermissions lang types typeName (some rawType) = .error .nilPointer) :
    ¬ rawType.NoNil := by
  intro whole
  simp only [compilePermissions, made] at crashed
  rcases Except.of_bind_error crashed with passing | ⟨permissions, -, finished⟩
  · obtain ⟨name, permission, found, fails⟩ := mapValues_error passing
    cases permission with
    | none => exact whole.2 name found
    | some rawPerm =>
      -- Whatever a permission is refused for, the error says where.
      obtain ⟨inner, -, same⟩ := Except.of_mapError_error fails
      cases same
  · -- The pass itself fails at no other place.
    cases finished

/-- A null permission that is met first ends the second pass. -/
theorem compilePermissions_insert {lang : ExprLang V P} {types : StringMap (TypeDef P)}
    {typeName permName : String} {rawType : RawType} :
    compilePermissions lang types typeName
      (some { rawType with permissions := rawType.permissions.insert permName none }) =
        .error .nilPointer := by
  unfold compilePermissions
  split
  · -- The first pass has filed the type under its name.
    rename_i same _
    obtain rfl := Option.some.inj same
    rw [mapValues_insert_error rfl]
    rfl
  · -- Without it, the second pass reads through a null pointer before it comes to a permission.
    rfl

/-- No order of a schema without null entries crashes the compiler. -/
theorem compileTypes_safe {lang : ExprLang V P} {raw : RawSchema} (whole : raw.NoNil) :
    compileTypes lang raw ≠ .error .nilPointer := by
  intro crashed
  rcases Except.of_bind_error crashed with first | ⟨types, first, second⟩
  · -- The first pass crashes at a null type or a null relation.
    obtain ⟨name, type, found, fails⟩ := mapValues_error first
    obtain ⟨rawType, rfl, fine⟩ := whole name type found
    exact (compileRelations_error fails).2 rawType rfl fine
  · -- The second one goes over types that the first has filed, so a permission is null.
    obtain ⟨name, type, found, fails⟩ := mapValues_error second
    obtain ⟨rawType, rfl, fine⟩ := whole name type found
    obtain ⟨td, -, made⟩ := mapValues_ok_lookup first found
    exact compilePermissions_nil made fails fine

/-- A schema with a null entry crashes it in one of its orders. -/
theorem compileTypes_crashes (lang : ExprLang V P) {raw : RawSchema} (null : ¬ raw.NoNil) :
    ∃ other, raw.Reordered other ∧ compileTypes lang other = .error .nilPointer := by
  have firstPass : ∀ (types : StringMap (Option RawType)) {e : SchemaErr},
      mapValues (compileRelations (P := P)) types = .error e → e = .nilPointer := by
    intro types e failed
    obtain ⟨name, type, -, fails⟩ := mapValues_error failed
    exact (compileRelations_error fails).1
  cases first : mapValues (compileRelations (P := P)) raw.types with
  | error e =>
    -- The first pass crashes in any order.
    refine ⟨raw, ⟨rfl, .refl RawType.Reordered.refl_entry _⟩, ?_⟩
    rw [compileTypes, first, firstPass _ first]
    rfl
  | ok types =>
    -- No type is null and no relation, as the first pass went through.
    simp only [RawSchema.NoNil, not_forall] at null
    obtain ⟨name, type, found, null⟩ := null
    obtain ⟨td, made, -⟩ := mapValues_ok_lookup first found
    obtain ⟨rawType, rfl, relations⟩ := compileRelations_ok made
    -- So a permission is null, and it is moved to the front, along with its type.
    have permission : ∃ permName, rawType.permissions.lookup permName = some none := by
      by_contra none_null
      exact null ⟨rawType, rfl, relations, fun permName found => none_null ⟨permName, found⟩⟩
    obtain ⟨permName, permission⟩ := permission
    let moved : RawType :=
      { rawType with permissions := rawType.permissions.insert permName none }
    have alike : rawType.Reordered moved :=
      ⟨rfl, .refl (fun _ => rfl) _, .insert (fun _ => rfl) permission rfl⟩
    refine ⟨{ raw with types := raw.types.insert name (some moved) },
      ⟨rfl, .insert RawType.Reordered.refl_entry found (.some alike)⟩, ?_⟩
    rw [compileTypes]
    -- The first pass may crash in the new order, and otherwise the second meets the null first.
    cases again : mapValues (compileRelations (P := P)) (raw.types.insert name (some moved)) with
    | error e =>
      rw [firstPass _ again]
      rfl
    | ok types => exact mapValues_insert_error compilePermissions_insert

/-- The parser does not crash. -/
theorem parse_safe {yaml : YamlDecoder} {data : List UInt8} : parse yaml data ≠ .error .nilPointer := by
  have item : ∀ node : ListItemNode, node.unmarshalYAML ≠ .error .nilPointer := by
    intro node failed
    unfold ListItemNode.unmarshalYAML at failed
    split at failed
    · cases failed
    · cases failed
    · split at failed <;> cases failed
    · cases failed
  have items : ∀ nodes : List ListItemNode,
      nodes.mapM ListItemNode.unmarshalYAML ≠ .error .nilPointer := by
    -- The first item that fails ends the list.
    intro nodes
    induction nodes with
    | nil => intro failed; cases failed
    | cons node rest ih =>
      intro failed
      rw [List.mapM_cons] at failed
      rcases Except.of_bind_error failed with first | ⟨_, -, failed⟩
      · exact item node first
      · rcases Except.of_bind_error failed with later | ⟨_, -, failed⟩
        · exact ih later
        · cases failed
  have permission : ∀ node : PermissionNode, node.decode ≠ .error .nilPointer := by
    intro node failed
    rcases Except.of_bind_error failed with first | ⟨_, -, failed⟩
    · exact items _ first
    · rcases Except.of_bind_error failed with second | ⟨_, -, failed⟩
      · exact items _ second
      · rcases Except.of_bind_error failed with third | ⟨_, -, failed⟩
        · exact items _ third
        · cases failed
  have type : ∀ node : TypeNode, node.decode ≠ .error .nilPointer := by
    intro node failed
    rcases Except.of_bind_error failed with permissions | ⟨_, -, failed⟩
    · obtain ⟨name, entry, -, fails⟩ := mapValues_error permissions
      cases entry with
      | none => cases fails
      | some node =>
        rcases Except.of_bind_error fails with decoded | ⟨_, -, failed⟩
        · exact permission node decoded
        · cases failed
    · cases failed
  intro failed
  rcases Except.of_bind_error failed with decoding | ⟨node, -, failed⟩
  · obtain ⟨cause, -, same⟩ := Except.of_mapError_error decoding
    cases same
  · rcases Except.of_bind_error failed with types | ⟨_, -, failed⟩
    · obtain ⟨name, entry, -, fails⟩ := mapValues_error types
      cases entry with
      | none => cases fails
      | some node =>
        rcases Except.of_bind_error fails with decoded | ⟨_, -, failed⟩
        · exact type node decoded
        · cases failed
    · cases failed

/-- Loading ends as the compiler does. -/
theorem loadSchema_cases (lang : ExprLang V P) (raw : RawSchema) (originalYAML : List UInt8)
    (now : Time) :
    (∃ e, compileTypes lang raw = .error e ∧
      loadSchema lang raw originalYAML now = .error e) ∨
    ∃ cs, compileTypes lang raw = .ok cs.types ∧
      loadSchema lang raw originalYAML now = .ok (cs, validate cs) := by
  unfold loadSchema compile
  split
  · rename_i e ran
    exact .inl ⟨e, ran, rfl⟩
  · rename_i types ran
    exact .inr ⟨_, ran, rfl⟩

/-- Loading never crashes exactly when no type, relation or permission is null. -/
theorem loadSchema_safe_iff (lang : ExprLang V P) (raw : RawSchema) (originalYAML : List UInt8)
    (now : Time) : raw.LoadsSafely lang originalYAML now ↔ raw.NoNil := by
  constructor
  · intro safe
    by_contra null
    obtain ⟨other, alike, crashed⟩ := compileTypes_crashes lang null
    rcases loadSchema_cases lang other originalYAML now with ⟨e, ran, loaded⟩ | ⟨cs, ran, loaded⟩
    · -- The order that crashes the compiler is among those that are asked for.
      obtain rfl := Except.error.inj (ran.symm.trans crashed)
      rcases safe other alike with ⟨cs, accepted⟩ | ⟨e, other_error, failed⟩
      · cases loaded.symm.trans accepted
      · exact other_error (Except.error.inj (failed.symm.trans loaded))
    · cases ran.symm.trans crashed
  · intro whole other alike
    rcases loadSchema_cases lang other originalYAML now with ⟨e, ran, loaded⟩ | ⟨cs, -, loaded⟩
    · refine .inr ⟨e, ?_, loaded⟩
      rintro rfl
      exact compileTypes_safe (alike.noNil whole) ran
    · exact .inl ⟨cs, loaded⟩

/-- A schema that names a type and says nothing about it. -/
def bareSource : List UInt8 :=
  "version: \"1\"\ntypes:\n  user:\n".toUTF8.toList

/-- What the decoder makes of that source, and of no other. -/
def bareDecoder : YamlDecoder where
  decode data :=
    if data = bareSource then .ok { version := "1", types := some (AList.insert "user" none ∅) }
    else .error "did not find expected node content"

/-- It is parsed, and crashes the compiler. -/
theorem bare_type_crashes :
    ∃ raw, parse bareDecoder bareSource = .ok raw ∧
      loadSchema literalLang raw bareSource 0 = .error .nilPointer ∧
      ¬ raw.LoadsSafely literalLang bareSource 0 := by
  refine ⟨{ version := "1", types := AList.insert "user" none ∅ }, ?_, rfl, fun safe => ?_⟩
  · simp only [parse, bareDecoder, if_true]
    rfl
  · have whole := (loadSchema_safe_iff _ _ _ _).mp safe
    obtain ⟨rawType, null, -⟩ := whole "user" none (AList.lookup_insert _)
    cases null

end ZanGuard
