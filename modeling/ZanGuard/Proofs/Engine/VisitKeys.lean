import ZanGuard.Lib.Marks
import ZanGuard.Proofs.Engine.Termination
import ZanGuard.Proofs.Schema.Accepted
import ZanGuard.Proofs.Schema.Permissions

/-! When a node that is passed over was entered before, and when only its key was. -/

namespace ZanGuard

open Visits

variable {V P : Type}

/-- The part of a visit key that stands for the node. -/
def Node.text (node : Node) : String :=
  node.type ++ ":" ++ node.id ++ "#" ++ node.permission

/-- A schema as the compiler makes it. -/
def CompiledSchema.CompiledBy (cs : CompiledSchema P) (lang : ExprLang V P) : Prop :=
  ∃ raw source now, compile lang raw source now = .ok cs

/-- The nodes a check may come to are among those that are in use. -/
structure NodesWithin (inUse : Node → Prop) (cs : CompiledSchema P) (store : Lookups V)
    (req : CheckRequest V) : Prop where
  root : inUse req.node
  usersets : ∀ {n type id relation listed}, store.listSubjects n type id relation = .ok listed →
    ∀ subj ∈ listed, subj.relation ≠ "" → inUse ⟨subj.type, subj.id, subj.relation⟩
  targets : ∀ {type permission permDef child n id listed},
    cs.getPermission type permission = .ok permDef → child ∈ permDef.children →
      child.kind = .arrow → store.listRelatedObjects n type id child.arrowRef = .ok listed →
        ∀ target ∈ listed, inUse ⟨target.type, target.id, child.arrowPermission⟩

/-- Different nodes in use have different texts, as far as a permission leads to them. -/
def Identified (inUse : Node → Prop) : Prop :=
  ∀ node other, inUse node → inUse other → other.permission ≠ "" → node.text = other.text →
    node = other

/-- Nodes have the same key when they have the same text. -/
theorem CheckRequest.keyOf_inj {req : CheckRequest V} {node other : Node} :
    req.keyOf node = req.keyOf other ↔ node.text = other.text := by
  -- The rest of a key is the subject, which is one for all nodes of a check.
  have chars : ∀ n : Node, (req.keyOf n).toList =
      n.text.toList ++ ("@" ++ req.subjectType ++ ":" ++ req.subjectID).toList := by
    intro n
    simp [CheckRequest.keyOf, visitKey, Node.text]
  rw [← String.toList_inj, chars, chars, List.append_cancel_right_eq, String.toList_inj]

/-- Types without a colon and permissions without a hash sign keep the texts of nodes apart. -/
theorem identified_of_plain {inUse : Node → Prop}
    (plain : ∀ node, inUse node → ':' ∉ node.type.toList ∧ '#' ∉ node.permission.toList) :
    Identified inUse := by
  intro node other uses usesOther _ same
  have chars : ∀ n : Node, n.text.toList =
      n.type.toList ++ ':' :: (n.id.toList ++ '#' :: n.permission.toList) := by
    intro n
    simp [Node.text]
  have split := congrArg String.toList same
  rw [chars, chars] at split
  -- The colon ends the type, and the hash sign begins the permission.
  obtain ⟨types, rest⟩ := Marks.first_inj (plain node uses).1 (plain other usesOther).1 split
  obtain ⟨ids, permissions⟩ := Marks.last_inj (plain node uses).2 (plain other usesOther).2 rest
  obtain ⟨type, id, permission⟩ := node
  simp only [String.toList_inj] at types ids permissions
  rw [types, ids, permissions]

/-- An arrow of a compiled schema names a permission. -/
theorem CompiledSchema.CompiledBy.arrowPermission {cs : CompiledSchema P} {lang : ExprLang V P}
    (compiled : cs.CompiledBy lang) {type permission : String} {permDef : PermissionDef P}
    (declared : cs.getPermission type permission = .ok permDef) {child : PermissionRef}
    (among : child ∈ permDef.children) (arrow : child.kind = .arrow) :
    child.arrowPermission ≠ "" := by
  obtain ⟨raw, source, now, made⟩ := compiled
  obtain ⟨td, typed, filed⟩ := getPermission_mem declared
  have types : compileTypes lang raw = .ok cs.types := by
    unfold compile at made
    split at made
    · cases made
    · rename_i types ran
      rw [← Except.ok.inj made]
      exact ran
  obtain ⟨rawPerm, ran⟩ := compileTypes_permission types _ typed _ filed
  obtain ⟨i, bound, rfl⟩ := List.getElem_of_mem among
  obtain ⟨same, stands⟩ := List.forall₂_iff_get.mp (compilePermission_first ran).2.1
  have read := stands i (same ▸ bound) bound
  rw [PermissionRef.StandsFor] at read
  simp only [List.get_eq_getElem] at read
  split at read
  · -- A direct permission has no arrow.
    rw [read] at arrow
    cases arrow
  · -- An arrow has text on both of its sides.
    generalize permDef.children[i] = child at read arrow ⊢
    cases read with
    | arrow split first some_relation some_permission => exact some_permission
    | condition =>
      rw [PermissionRef.kind, if_neg (by simp)] at arrow
      split at arrow <;> cases arrow
    | relation => cases arrow

/-- Where the nodes in use are told apart by their texts, no node is passed over without cause. -/
theorem skips_entered {inUse : Node → Prop} (identified : Identified inUse) (e : Engine P)
    (lang : ExprLang V P) (store : Lookups V) (ctx : Context V) (req : CheckRequest V)
    (within : ∀ cs, e.InForce ctx cs → cs.CompiledBy lang ∧ NodesWithin inUse cs store req) :
    SkipsEntered (e.visits lang store ctx req).2 := by
  -- The search comes to nodes in use only, and an arrow never to an empty permission.
  let rules : Rules Node String :=
    { key := req.keyOf, mayEnter := inUse, maySkip := fun node => inUse node ∧ node.permission ≠ ""
      limit := (e.cfg.maxCheckDepth + 1).toNat }
  have obeys : ∀ cs, e.InForce ctx cs →
      (e.walker lang store cs).Obeys rules req.subjectType req.subjectID := by
    intro cs force
    obtain ⟨compiled, nodes⟩ := within cs force
    refine { key := fun _ => rfl, userset := ?_, target := ?_ }
    · intro n type id relation listed found subj member userset
      have uses := nodes.usersets found subj member userset
      exact ⟨⟨uses, userset⟩, fun _ => uses⟩
    · intro type permission permDef child n id listed declared among arrow found target member
      have uses := nodes.targets declared among arrow found target member
      exact ⟨⟨uses, compiled.arrowPermission declared among arrow⟩, fun _ => uses⟩
  obtain ⟨-, allowed, -⟩ := Engine.visits_recorded obeys
    (fun cs force _ => (within cs force).2.root) rfl
  refine allowed.skipsEntered fun node other uses skipped same => ?_
  exact identified node other uses skipped.1 skipped.2 (CheckRequest.keyOf_inj.mp same)

/-- A map with one entry. -/
theorem mapValues_single {α β ε : Type} {f : String → α → Except ε β} {key : String} {a : α} {b : β}
    (made : f key a = .ok b) :
    mapValues f (AList.insert key a ∅) = .ok (AList.insert key b ∅) := by
  have entries : (AList.insert key a ∅ : StringMap α).entries = [⟨key, a⟩] := rfl
  rw [mapValues, entries, List.foldlM_cons, made]
  rfl

section Collisions

variable (node other : Node)

/-- A schema with one permission of one type, held by those that are next. -/
def nextRaw : RawSchema where
  version := "1.0"
  types := AList.insert node.type (some {
    permissions := AList.insert node.permission (some { resolve := "next" }) ∅ }) ∅

/-- What that permission is compiled to. -/
def nextPermission : PermissionDef P where
  name := node.permission
  operation := .direct
  children := [{ relationRef := "next" }]

/-- What its type is compiled to. -/
def nextType : TypeDef P where
  name := node.type
  permissions := AList.insert node.permission (nextPermission node) ∅

/-- One tuple, which leads from a node to another. -/
def nextTuple : RelationTuple V where
  objectType := node.type
  objectID := node.id
  relation := "next"
  subjectType := other.type
  subjectID := other.id
  subjectRelation := other.permission

/-- An active tenant. -/
def nextTenant : TenantContext V :=
  { tenantID := "acme", tenant := { id := "acme", status := .active, schemaMode := .own } }

/-- The store of that tenant holds that tuple. -/
def nextStore : Memory.Store V :=
  { Memory.Store.new with
    tenants := AList.insert "acme" nextTenant.tenant ∅
    tuples := AList.insert "acme" [nextTuple node other] ∅ }

/-- A request about a node. -/
def nextRequest : CheckRequest V :=
  { objectType := node.type, objectID := node.id, permission := node.permission,
    subjectType := "user", subjectID := "u" }

/-- The schema compiles. -/
theorem nextRaw_compiles (lang : ExprLang V P) : ∃ cs : CompiledSchema P, cs.CompiledBy lang ∧
    cs.types = AList.insert node.type (nextType node) ∅ := by
  have types : compileTypes (P := P) lang (nextRaw node) =
      .ok (AList.insert node.type (nextType node) ∅) := by
    -- The first pass leaves the permission to the second.
    let bare : TypeDef P := { name := node.type }
    have relations : mapValues (compileRelations (P := P)) (nextRaw node).types =
        .ok (AList.insert node.type bare ∅) := mapValues_single rfl
    have found : (AList.insert node.type bare ∅ : StringMap (TypeDef P)).lookup node.type =
        some bare := AList.lookup_insert _
    rw [compileTypes, relations]
    refine mapValues_single ?_
    unfold compilePermissions
    rw [found]
    rfl
  have compiled : ∃ cs, compile lang (nextRaw node) [] 0 = .ok cs ∧
      cs.types = AList.insert node.type (nextType node) ∅ := by
    unfold compile
    split
    · rename_i e failed
      rw [types] at failed
      cases failed
    · rename_i made ran
      rw [types] at ran
      exact ⟨_, rfl, (Except.ok.inj ran).symm⟩
  obtain ⟨cs, made, same⟩ := compiled
  exact ⟨cs, ⟨nextRaw node, [], 0, made⟩, same⟩

theorem nextStore_tuplesOf :
    (nextStore node other : Memory.Store V).tuplesOf (nextTenant (V := V)).tenantID =
      [nextTuple node other] :=
  rfl

theorem nextStore_listSubjects (clock : Memory.Clock) (n : Nat) :
    ((nextStore node other : Memory.Store V).lookups (some nextTenant) clock).listSubjects n
      node.type node.id "next" =
        .ok [{ type := other.type, id := other.id, relation := other.permission }] := by
  show Except.ok _ = _
  rw [Memory.Store.liveTuples, nextStore_tuplesOf]
  -- The one tuple is live, and is the one that is asked for.
  simp [nextTuple, Memory.tupleIsExpiredAt]

theorem nextStore_checkDirect (userset : other.permission ≠ "") (clock : Memory.Clock) (n : Nat)
    (type id relation subjectType subjectID : String) :
    ((nextStore node other : Memory.Store V).lookups (some nextTenant) clock).checkDirect n type id
      relation subjectType subjectID = .ok false := by
  show Except.ok _ = _
  rw [nextStore_tuplesOf]
  -- Its subject is a userset, so it grants nothing by itself.
  simp [nextTuple, userset]

/-- An engine with a schema for that tenant. -/
def nextEngine (cs : CompiledSchema P) : Engine P :=
  (Engine.new { maxCheckDepth := 25 }).loadSchema "acme" cs

/-- A check of a node passes over any other node with its text. -/
theorem nextEngine_visits {cs : CompiledSchema P} (lang : ExprLang V P)
    (types : cs.types = AList.insert node.type (nextType node) ∅) (userset : other.permission ≠ "")
    (collide : node.text = other.text) :
    ((nextEngine cs).visits lang ((nextStore node other).lookups (some nextTenant) fun _ => 0)
      (some nextTenant) (nextRequest node)).2 = [.entered node, .skipped other] := by
  let store : Lookups V := (nextStore node other).lookups (some nextTenant) fun _ => 0
  let w : Walker V P := (nextEngine cs).walker lang store cs
  let req : CheckRequest V := nextRequest node
  let subj : SubjectRef := { type := other.type, id := other.id, relation := other.permission }
  have declared : w.schema.getPermission req.objectType req.permission =
      .ok (nextPermission node) := by
    show cs.getPermission node.type node.permission = _
    simp only [CompiledSchema.getPermission, types, nextType, AList.lookup_insert]
  -- The node is entered, and the one subject it lists has its key.
  let visited : WalkState := { WalkState.start with visited := VisitedSet.empty.add req.key }
  have entering : (visitPermission w 26 req (nextPermission node)).from (.start, []) =
      (visitOperation w (visitPermission w 25) req (nextPermission node)).from
        (visited, [.entered node]) := visitPermission_new declared rfl 25
  obtain ⟨after, kept, listing⟩ : ∃ after : WalkState, after.visited = visited.visited ∧
      (visitRelation w (visitPermission w 25) req "next").from (visited, [.entered node]) =
        (visitSubjects w (visitPermission w 25) req [subj]).from (after, [.entered node]) :=
    visitRelation_listed (fun n => nextStore_checkDirect node other userset _ n _ _ _ _ _)
      (fun n => nextStore_listSubjects node other _ n)
  have met : after.visited.has (req.userset subj).key = true := by
    rw [kept, VisitedSet.has_iff]
    exact List.mem_singleton.mpr (CheckRequest.keyOf_inj.mpr collide.symm)
  have passing : (visitSubjects w (visitPermission w 25) req [subj]).from (after, [.entered node]) =
      (.ok deny, after, [.entered node, .skipped other]) := visitSubjects_met userset met []
  have walked : (visitPermission w 26 req (nextPermission node)).from (.start, []) =
      (.ok deny, after, [.entered node, .skipped other]) := by
    rw [entering]
    show (visitUnion w (visitPermission w 25) req [{ relationRef := "next" }]).from _ = _
    have child : visitChild w (visitPermission w 25) req { relationRef := "next" } =
        visitRelation w (visitPermission w 25) req "next" := rfl
    rw [visitUnion, child, VisitM.from_bind, listing, passing]
    rfl
  have checked : (w.visitCheck req).from (.start, []) =
      (.ok deny, after, [.entered node, .skipped other]) := by
    have hops : w.hopsAt 0 = 26 := rfl
    rw [Walker.visitCheck, declared, hops]
    show VisitM.from (_ >>= _) _ = _
    rw [VisitM.from_bind, walked]
    rfl
  show ((w.visitCheck req).from (.start, [])).2.2 = _
  rw [checked]

/-- Such a check comes to the two nodes only. -/
theorem nextEngine_within {inUse : Node → Prop} (uses : inUse node) (usesOther : inUse other)
    {cs : CompiledSchema P} (types : cs.types = AList.insert node.type (nextType node) ∅) :
    NodesWithin inUse cs
      ((nextStore node other : Memory.Store V).lookups (some nextTenant) fun _ => 0)
      (nextRequest node) where
  root := uses
  usersets := by
    intro n type id relation listed found subj member userset
    obtain ⟨t, ⟨stored, -⟩, -, -, -, rfl⟩ := Memory.Store.mem_of_listed found member
    obtain rfl := List.mem_singleton.mp stored
    exact usesOther
  targets := by
    intro type permission permDef child n id listed declared among arrow
    obtain ⟨td, typed, filed⟩ := CompiledSchema.getPermission_mem declared
    rw [types] at typed
    obtain ⟨rfl, rfl⟩ := Sigma.mk.inj (List.mem_singleton.mp typed)
    obtain ⟨rfl, rfl⟩ := Sigma.mk.inj (List.mem_singleton.mp filed)
    -- Its one permission has no arrow.
    obtain rfl := List.mem_singleton.mp among
    cases arrow

end Collisions

/--
Checks pass over no node without cause, if and only if the nodes in use have texts of their own.

The schemas are compiled, and the stores and requests are any that come to nodes in use only.
-/
theorem skips_entered_iff (V P : Type) (inUse : Node → Prop) :
    Identified inUse ↔
      ∀ (e : Engine P) (lang : ExprLang V P) (store : Lookups V) (ctx : Context V)
        (req : CheckRequest V),
        (∀ cs, e.InForce ctx cs → cs.CompiledBy lang ∧ NodesWithin inUse cs store req) →
          SkipsEntered (e.visits lang store ctx req).2 := by
  constructor
  · exact fun identified e lang store ctx req within =>
      skips_entered identified e lang store ctx req within
  · intro entered node other uses usesOther userset collide
    let lang : ExprLang V P :=
      { compile := fun _ => .error "", run := fun _ _ => .error "", asBool := fun _ => .error "" }
    obtain ⟨cs, compiled, types⟩ := nextRaw_compiles node lang
    have skips := entered (nextEngine cs) lang
      ((nextStore node other).lookups (some nextTenant) fun _ => 0) (some nextTenant)
      (nextRequest node) (by
        rintro _ ⟨tc, passed, chosen⟩
        obtain rfl := Except.ok.inj passed
        obtain rfl := Except.ok.inj chosen
        exact ⟨compiled, nextEngine_within node other uses usesOther types⟩)
    rw [nextEngine_visits node other lang types userset collide] at skips
    -- Only the node itself was entered before the other was passed over.
    exact (List.mem_singleton.mp (skips [.entered node] other [] rfl)).symm

/-- Folders of a drive have a type whose name begins like that of the drive. -/
def drivesRaw : RawSchema where
  version := "1.0"
  types := AList.insert "drive" (some {
      relations := AList.insert "parent" (some ["drive:folder"]) ∅
      permissions := AList.insert "view" (some { union := ["parent->view"] }) ∅ })
    (AList.insert "drive:folder" (some {
      relations := AList.insert "viewer" (some ["user"]) ∅
      permissions := AList.insert "view" (some { resolve := "viewer" }) ∅ })
    (AList.insert "user" (some {}) ∅))

/-- What they compile to. -/
def drivesSchema : CompiledSchema Bool where
  types := AList.insert "user" { name := "user" }
    (AList.insert "drive:folder" {
      name := "drive:folder"
      relations := AList.insert "viewer"
        { name := "viewer", allowedTypes := [{ type := "user" }] } ∅
      permissions := AList.insert "view" {
        name := "view", operation := .direct, children := [{ relationRef := "viewer" }] } ∅ }
    (AList.insert "drive" {
      name := "drive"
      relations := AList.insert "parent"
        { name := "parent", allowedTypes := [{ type := "drive:folder" }] } ∅
      permissions := AList.insert "view" {
        name := "view", operation := .union
        children := [{ arrowRef := "parent", arrowPermission := "view" }] } ∅ } ∅))
  version := "1.0"
  hash := hashYAML []
  named := by decide

/-- The drive `folder:1` is in the folder `1`, which a user views. -/
def drivesTuples : List (RelationTuple Bool) :=
  [fact "drive" "folder:1" "parent" "drive:folder" "1",
   fact "drive:folder" "1" "viewer" "user" "u"]

/-- A request to view that drive. -/
def drivesRequest : CheckRequest Bool :=
  { objectType := "drive", objectID := "folder:1", permission := "view",
    subjectType := "user", subjectID := "u" }

theorem drivesSchema_compiled : drivesSchema.CompiledBy literalLang :=
  ⟨drivesRaw, [], 0, rfl⟩

/-- The drive is refused to a user who views its folder. -/
example : (acmeEngine drivesSchema 25).check literalLang
    ((acmeStore drivesTuples).lookups (some acme) fun _ => 0) (some acme) drivesRequest =
      .ok deny := by
  decide

/-- The folder is passed over, although only the drive was visited. -/
theorem skips_entered_drives :
    ¬ ∀ (e : Engine Bool) (lang : ExprLang Bool Bool) (store : Lookups Bool) (ctx : Context Bool)
        (req : CheckRequest Bool), (∀ cs, e.InForce ctx cs → cs.CompiledBy lang) →
          SkipsEntered (e.visits lang store ctx req).2 := by
  intro entered
  have skips := entered (acmeEngine drivesSchema 25) literalLang
    ((acmeStore drivesTuples).lookups (some acme) fun _ => 0) (some acme) drivesRequest (by
      rintro _ ⟨tc, passed, chosen⟩
      obtain rfl := Except.ok.inj passed
      obtain rfl := Except.ok.inj chosen
      exact drivesSchema_compiled)
  -- The two nodes have one text.
  have visits : ((acmeEngine drivesSchema 25).visits literalLang
      ((acmeStore drivesTuples).lookups (some acme) fun _ => 0) (some acme) drivesRequest).2 =
        [.entered ⟨"drive", "folder:1", "view"⟩, .skipped ⟨"drive:folder", "1", "view"⟩] := by
    decide
  rw [visits] at skips
  exact absurd (skips [.entered ⟨"drive", "folder:1", "view"⟩] _ [] rfl) (by decide)

end ZanGuard
