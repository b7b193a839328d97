import Mathlib.Data.List.Perm.Basic
import ZanGuard.Proofs.Engine.Alike
import ZanGuard.Proofs.Schema.Nulls

/-! The order in which the maps of a schema are iterated over does not show in any decision. -/

namespace ZanGuard

variable {V P : Type}

/-! ### Maps that differ in the order of their entries -/

/-- A name is filed in neither map, or in both. -/
theorem SameMap.cases {α : Type} {same : α → α → Prop} {map other : StringMap α}
    (alike : SameMap same map other) (name : String) :
    (map.lookup name = none ∧ other.lookup name = none) ∨
      ∃ a b, map.lookup name = some a ∧ other.lookup name = some b ∧ same a b := by
  have entry := alike name
  generalize map.lookup name = left at entry
  generalize other.lookup name = right at entry
  cases entry with
  | none => exact .inl ⟨rfl, rfl⟩
  | some related => exact .inr ⟨_, _, rfl, rfl, related⟩

/-- Being the same up to order is mutual. -/
theorem SameMap.symm {α : Type} {same back : α → α → Prop} (turn : ∀ a b, same a b → back b a)
    {map other : StringMap α} (alike : SameMap same map other) : SameMap back other map := by
  intro name
  rcases alike.cases name with ⟨left, right⟩ | ⟨a, b, left, right, related⟩
  · rw [left, right]
    exact .none
  · rw [left, right]
    exact .some (turn a b related)

/-- Two passes over the same entries, each in its own order, make the same map. -/
theorem mapValues_same {α β ε : Type} {same : α → α → Prop} {made : β → β → Prop}
    {map other : StringMap α} (alike : SameMap same map other) {f g : String → α → Except ε β}
    (each : ∀ name a b x, map.lookup name = some a → same a b → f name a = .ok x →
      ∃ y, g name b = .ok y ∧ made x y)
    {out : StringMap β} (ran : mapValues f map = .ok out) :
    ∃ out', mapValues g other = .ok out' ∧ SameMap made out out' := by
  have back : ∀ {name b}, other.lookup name = some b →
      ∃ a, map.lookup name = some a ∧ same a b := by
    intro name b found
    rcases alike.cases name with ⟨-, none⟩ | ⟨a, b', left, right, related⟩
    · cases none.symm.trans found
    · obtain rfl := Option.some.inj (right.symm.trans found)
      exact ⟨a, left, related⟩
  cases again : mapValues g other with
  | error e =>
    -- An entry that fails in one order fails in the other.
    obtain ⟨name, b, found, fails⟩ := mapValues_error again
    obtain ⟨a, there, related⟩ := back found
    obtain ⟨x, ok, -⟩ := mapValues_ok_lookup ran there
    obtain ⟨y, ok', -⟩ := each name a b x there related ok
    cases fails.symm.trans ok'
  | ok out' =>
    refine ⟨out', rfl, fun name => ?_⟩
    cases found : map.lookup name with
    | some a =>
      obtain ⟨x, ok, filed⟩ := mapValues_ok_lookup ran found
      obtain ⟨b, there, related⟩ : ∃ b, other.lookup name = some b ∧ same a b := by
        rcases alike.cases name with ⟨none, -⟩ | ⟨a', b, left, right, related⟩
        · cases none.symm.trans found
        · obtain rfl := Option.some.inj (left.symm.trans found)
          exact ⟨b, right, related⟩
      obtain ⟨y, ok', both⟩ := each name a b x found related ok
      obtain ⟨y', again', filed'⟩ := mapValues_ok_lookup again there
      obtain rfl := Except.ok.inj (ok'.symm.trans again')
      rw [filed, filed']
      exact .some both
    | none =>
      -- A name that was not filed before is not filed after.
      have missing : out.lookup name = none := by
        cases filed : out.lookup name with
        | none => rfl
        | some x =>
          obtain ⟨a, member, -⟩ := mapValues_mem ran (AList.mem_lookup_iff.mp filed)
          cases found.symm.trans (AList.mem_lookup_iff.mpr member)
      have missing' : out'.lookup name = none := by
        cases filed : out'.lookup name with
        | none => rfl
        | some y =>
          obtain ⟨b, member, -⟩ := mapValues_mem again (AList.mem_lookup_iff.mp filed)
          obtain ⟨a, there, -⟩ := back (AList.mem_lookup_iff.mpr member)
          cases found.symm.trans there
      rw [missing, missing']
      exact .none

/-- What is collected from the entries of a map comes in another order. -/
theorem SameMap.flatMap_perm {α γ : Type} {same : α → α → Prop} {map other : StringMap α}
    (alike : SameMap same map other) {f g : (Sigma fun _ : String => α) → List γ}
    (each : ∀ name a b, same a b → (f ⟨name, a⟩).Perm (g ⟨name, b⟩)) :
    (map.entries.flatMap f).Perm (other.entries.flatMap g) := by
  -- The entries are listed by their names, which both maps share.
  have byName : ∀ (map : StringMap α) (f : (Sigma fun _ : String => α) → List γ),
      map.entries.flatMap f = map.keys.flatMap fun name =>
        (map.lookup name).elim [] fun a => f ⟨name, a⟩ := by
    intro map f
    rw [AList.keys, List.keys, List.flatMap_map]
    refine List.flatMap_congr fun entry member => ?_
    rw [AList.mem_lookup_iff.mpr member]
    rfl
  have names : map.keys.Perm other.keys := by
    refine (List.perm_ext_iff_of_nodup map.keys_nodup other.keys_nodup).mpr fun name => ?_
    rw [← AList.mem_keys, ← AList.mem_keys, ← AList.lookup_isSome, ← AList.lookup_isSome]
    rcases alike.cases name with ⟨left, right⟩ | ⟨a, b, left, right, -⟩
    · rw [left, right]
    · rw [left, right]
      exact iff_of_true rfl rfl
  rw [byName map f, byName other g]
  refine names.flatMap fun name _ => ?_
  rcases alike.cases name with ⟨left, right⟩ | ⟨a, b, left, right, related⟩
  · rw [left, right]
    exact .refl _
  · rw [left, right]
    exact each name a b related

/-- Two schemas in each other's order. -/
theorem RawSchema.Reordered.symm {raw other : RawSchema} (same : raw.Reordered other) :
    other.Reordered raw := by
  have type : ∀ a b : RawType, a.Reordered b → b.Reordered a := fun a b alike =>
    ⟨alike.attributes.symm, alike.relations.symm fun _ _ => Eq.symm,
      alike.permissions.symm fun _ _ => Eq.symm⟩
  refine ⟨same.version.symm, same.types.symm fun a b alike => ?_⟩
  cases alike with
  | none => exact .none
  | some alike => exact .some (type _ _ alike)

/-! ### The passes of the compiler and the validator -/

/-- The same compiled type, with its relations and permissions in any order. -/
structure TypeDef.Reordered (td other : TypeDef P) : Prop where
  name : td.name = other.name
  attributes : td.attributes = other.attributes
  relations : SameMap Eq td.relations other.relations
  permissions : SameMap Eq td.permissions other.permissions

/-- The same compiled schema, with its types and what they hold in any order. -/
structure CompiledSchema.Reordered (cs other : CompiledSchema P) : Prop where
  types : SameMap TypeDef.Reordered cs.types other.types
  version : cs.version = other.version
  hash : cs.hash = other.hash
  compiledAt : cs.compiledAt = other.compiledAt

/-- An entry that both maps share is compiled into the same thing. -/
theorem compiled_alike {α β ε : Type} {map : StringMap α} (f : String → α → Except ε β)
    (name : String) (a b : α) (x : β) (_ : map.lookup name = some a) (same : a = b)
    (made : f name a = .ok x) : ∃ y, f name b = .ok y ∧ x = y := by
  subst same
  exact ⟨x, made, rfl⟩

/-- The first pass over a type does not depend on the order of its relations. -/
theorem compileRelations_reordered {typeName : String} {raw other : Option RawType}
    (same : Option.Rel RawType.Reordered raw other) {td : TypeDef P}
    (ran : compileRelations typeName raw = .ok td) :
    ∃ td', compileRelations typeName other = .ok td' ∧ td.Reordered td' := by
  cases same with
  | none => cases ran
  | some alike =>
    obtain ⟨relations, passed, made⟩ := Except.of_bind_ok ran
    obtain ⟨relations', passed', both⟩ :=
      mapValues_same alike.relations (compiled_alike _) passed
    obtain rfl := Except.ok.inj made
    simp only [compileRelations, passed', bind, Except.bind, alike.attributes]
    -- The permissions are compiled in the second pass, so there are none yet.
    exact ⟨_, rfl, rfl, rfl, both, .refl (fun _ => rfl) _⟩

/-- The second pass over a type does not depend on the order of its permissions. -/
theorem compilePermissions_reordered {lang : ExprLang V P} {types types' : StringMap (TypeDef P)}
    (filed : SameMap TypeDef.Reordered types types') {typeName : String} {raw other : Option RawType}
    (same : Option.Rel RawType.Reordered raw other) {td : TypeDef P}
    (ran : compilePermissions lang types typeName raw = .ok td) :
    ∃ td', compilePermissions lang types' typeName other = .ok td' ∧ td.Reordered td' := by
  cases same with
  | none => cases ran
  | @some rawType otherType alike =>
    rcases filed.cases typeName with ⟨none, -⟩ | ⟨first, second, left, right, moved⟩
    · simp only [compilePermissions, none] at ran
      cases ran
    · simp only [compilePermissions, left] at ran
      obtain ⟨permissions, passed, made⟩ := Except.of_bind_ok ran
      obtain ⟨permissions', passed', both⟩ :=
        mapValues_same alike.permissions (compiled_alike _) passed
      obtain rfl := Except.ok.inj made
      simp only [compilePermissions, right, passed', bind, Except.bind]
      exact ⟨_, rfl, moved.name, moved.attributes, moved.relations, both⟩

/-- Compiling does not depend on the order of the types. -/
theorem compileTypes_reordered {lang : ExprLang V P} {raw other : RawSchema}
    (same : raw.Reordered other) {types : StringMap (TypeDef P)}
    (ran : compileTypes lang raw = .ok types) :
    ∃ types', compileTypes lang other = .ok types' ∧ SameMap TypeDef.Reordered types types' := by
  obtain ⟨first, passed, second⟩ := Except.of_bind_ok ran
  have relations : ∀ name a b td, raw.types.lookup name = some a → Option.Rel RawType.Reordered a b →
      compileRelations (P := P) name a = .ok td →
      ∃ td', compileRelations name b = .ok td' ∧ td.Reordered td' :=
    fun name a b td _ alike made => compileRelations_reordered alike made
  obtain ⟨first', passed', moved⟩ := mapValues_same same.types relations passed
  -- The second pass looks its types up in what the first one made.
  have permissions : ∀ name a b td, raw.types.lookup name = some a →
      Option.Rel RawType.Reordered a b → compilePermissions lang first name a = .ok td →
      ∃ td', compilePermissions lang first' name b = .ok td' ∧ td.Reordered td' :=
    fun name a b td _ alike made => compilePermissions_reordered moved alike made
  obtain ⟨types', again, both⟩ := mapValues_same same.types permissions second
  refine ⟨types', ?_, both⟩
  rw [compileTypes, passed']
  exact again

/-- A schema compiles to the same schema, whatever the order of its maps. -/
theorem compile_reordered {lang : ExprLang V P} {raw other : RawSchema}
    (same : raw.Reordered other) {data : List UInt8} {now : Time} {cs : CompiledSchema P}
    (ran : compile lang raw data now = .ok cs) :
    ∃ cs', compile lang other data now = .ok cs' ∧ cs.Reordered cs' := by
  unfold compile at ran
  split at ran
  · cases ran
  · rename_i types compiled
    obtain ⟨types', again, both⟩ := compileTypes_reordered same compiled
    obtain rfl := Except.ok.inj ran
    unfold compile
    split
    · rename_i e failed
      cases failed.symm.trans again
    · rename_i types'' compiled'
      obtain rfl := Except.ok.inj (again.symm.trans compiled')
      exact ⟨_, rfl, both, same.version, rfl, rfl⟩

/-- The faults found in a schema are the same, in some order. -/
theorem validate_reordered {cs other : CompiledSchema P} (same : cs.Reordered other) :
    (validate cs).Perm (validate other) := by
  -- A reference is looked up by name, so it is faulty in both or in neither.
  have typeRef : ∀ typeName relName ref,
      validateTypeRef cs typeName relName ref = validateTypeRef other typeName relName ref := by
    intro typeName relName ref
    unfold validateTypeRef
    rcases same.types.cases ref.type with ⟨left, right⟩ | ⟨td, td', left, right, moved⟩
    · rw [left, right]
    · rw [left, right]
      rcases moved.relations.cases ref.relation with ⟨none, none'⟩ | ⟨rd, rd', some, some', -⟩
      · simp only [none, none']
      · simp only [some, some', Option.isNone_some]
  have permRef : ∀ {td td' : TypeDef P}, td.Reordered td' → ∀ typeName permName ref,
      validatePermRef td typeName permName ref = validatePermRef td' typeName permName ref := by
    intro td td' moved typeName permName ref
    have relation : ∀ name, (td.relations.lookup name).isSome =
        (td'.relations.lookup name).isSome := by
      intro name
      rcases moved.relations.cases name with ⟨none, none'⟩ | ⟨rd, rd', some, some', -⟩
      · rw [none, none']
      · rw [some, some']
        rfl
    have permission : ∀ name, (td.permissions.lookup name).isSome =
        (td'.permissions.lookup name).isSome := by
      intro name
      rcases moved.permissions.cases name with ⟨none, none'⟩ | ⟨pd, pd', some, some', -⟩
      · rw [none, none']
      · rw [some, some']
        rfl
    unfold validatePermRef
    simp only [relation, permission]
  refine same.types.flatMap_perm fun name td td' moved => ?_
  refine List.Perm.append ?_ ?_
  · refine moved.relations.flatMap_perm fun relName rd rd' alike => ?_
    subst alike
    rw [show validateTypeRef cs name relName = validateTypeRef other name relName from
      funext (typeRef name relName)]
  · refine moved.permissions.flatMap_perm fun permName pd pd' alike => ?_
    subst alike
    rw [show validatePermRef td name permName = validatePermRef td' name permName from
      funext (permRef moved name permName)]

/-- A permission is found in both schemas, or in neither and for the same reason. -/
theorem CompiledSchema.Reordered.getPermission {cs other : CompiledSchema P}
    (same : cs.Reordered other) (type permission : String) :
    cs.getPermission type permission = other.getPermission type permission := by
  unfold CompiledSchema.getPermission
  rcases same.types.cases type with ⟨left, right⟩ | ⟨td, td', left, right, moved⟩
  · rw [left, right]
  · rw [left, right]
    rcases moved.permissions.cases permission with ⟨none, none'⟩ | ⟨pd, pd', some, some', alike⟩
    · simp only [none, none']
    · simp only [some, some', alike]

/-! ### Decisions -/

/-- An engine decides alike with a tenant's schema in either order. -/
theorem CompiledSchema.Reordered.check {cs other : CompiledSchema P} (same : cs.Reordered other)
    (e : Engine P) (tenantID : String) (lang : ExprLang V P) (store : Lookups V) (ctx : Context V)
    (req : CheckRequest V) :
    (e.loadSchema tenantID cs).check lang store ctx req =
      (e.loadSchema tenantID other).check lang store ctx req := by
  have walks : ∀ cfg : Config, Walker.check { cfg, store, schema := cs, lang } req =
      Walker.check { cfg, store, schema := other, lang } req := by
    intro cfg
    apply Walker.check_alike
    · exact ⟨rfl, rfl, same.getPermission⟩
    · rfl
  cases passes : checkTenant ctx with
  | error refused => rw [Engine.check_refused passes, Engine.check_refused passes]
  | ok tc =>
    simp only [Engine.check, passes, Engine.loadSchema, Engine.schemaForTenant, bind, Except.bind]
    -- The schema is that of the tenant it was loaded for, or of another one.
    have chosen : ∀ schema : CompiledSchema P,
        (e.schemas.insert tenantID schema).lookup tc.tenantID =
          if tc.tenantID = tenantID then some schema else e.schemas.lookup tc.tenantID := by
      intro schema
      split
      · rename_i own
        rw [own, AList.lookup_insert]
      · rename_i apart
        rw [AList.lookup_insert_ne apart]
    simp only [chosen]
    by_cases own : tc.tenantID = tenantID
    · simp only [own, if_true]
      cases tc.tenant.schemaMode with
      | own | inherited => simp only [walks]
      | shared => rfl
      | other mode => rfl
    · simp only [own, if_false]

/--
The order in which the maps of a schema are iterated over never shows.

Only the error of a schema that is refused may be another one, and the faults found come in
another order.
-/
theorem map_order_never_shows (lang : ExprLang V P) {raw other : RawSchema}
    (same : raw.Reordered other) (originalYAML : List UInt8) (now : Time) :
    (∃ e e', compile lang raw originalYAML now = .error e ∧
      compile lang other originalYAML now = .error e') ∨
    ∃ cs cs', compile lang raw originalYAML now = .ok cs ∧
      compile lang other originalYAML now = .ok cs' ∧ cs.hash = cs'.hash ∧
      (validate cs).Perm (validate cs') ∧
      ∀ (e : Engine P) (tenantID : String) (store : Lookups V) (ctx : Context V)
        (req : CheckRequest V), (e.loadSchema tenantID cs).check lang store ctx req =
          (e.loadSchema tenantID cs').check lang store ctx req := by
  cases ran : compile lang raw originalYAML now with
  | ok cs =>
    obtain ⟨cs', again, both⟩ := compile_reordered same ran
    exact .inr ⟨cs, cs', rfl, again, both.hash, validate_reordered both,
      fun e tenantID store ctx req => both.check e tenantID lang store ctx req⟩
  | error e =>
    cases again : compile lang other originalYAML now with
    | error e' => exact .inl ⟨e, e', rfl, rfl⟩
    | ok cs' =>
      -- What compiles in the other order compiles in this one.
      obtain ⟨cs, back, -⟩ := compile_reordered same.symm again
      cases ran.symm.trans back

/-- A type whose documents are viewed by the users they list. -/
def viewedType : RawType where
  relations := AList.insert "viewer" (some ["user"]) ∅
  permissions := AList.insert "view" (some { resolve := "viewer" }) ∅

/-- A schema of that type and of users, in which the users are filed last. -/
def usersLast : RawSchema where
  version := "1"
  types := AList.insert "document" (some viewedType) (AList.insert "user" (some {}) ∅)

/-- The same schema, in which they are filed first. -/
def usersFirst : RawSchema where
  version := "1"
  types := AList.insert "user" (some {}) (AList.insert "document" (some viewedType) ∅)

/-- Both are compiled, and every engine decides alike with either. -/
theorem map_order_never_shows_usersLast :
    ∃ cs cs' : CompiledSchema Bool, compile literalLang usersLast [] 0 = .ok cs ∧
      compile literalLang usersFirst [] 0 = .ok cs' ∧
      ∀ (e : Engine Bool) tenantID store ctx (req : CheckRequest Bool),
        (e.loadSchema tenantID cs).check literalLang store ctx req =
          (e.loadSchema tenantID cs').check literalLang store ctx req := by
  have same : usersLast.Reordered usersFirst := by
    refine ⟨rfl, fun name => ?_⟩
    by_cases users : name = "user"
    · subst users
      exact .some (.some (.refl _))
    · by_cases documents : name = "document"
      · subst documents
        exact .some (.some (.refl _))
      · -- No other type is filed in either.
        simp only [usersLast, usersFirst, ne_eq, users, documents, not_false_eq_true,
          AList.lookup_insert_ne, AList.lookup_empty]
        exact .none
  rcases map_order_never_shows literalLang same [] 0 with ⟨e, -, failed, -⟩ |
    ⟨cs, cs', ran, again, -, -, alike⟩
  · cases failed
  · exact ⟨cs, cs', ran, again, alike⟩

end ZanGuard
