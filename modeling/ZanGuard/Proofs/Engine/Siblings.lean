import ZanGuard.Proofs.Engine.GraphWorld

/-! The children of a permission share a visited set, and are independent while they are apart. -/

namespace ZanGuard

open Search

variable {V P : Type}

/-- No two children of a permission lead to one visit key, and none leads back to the node's own. -/
structure World.Separate (world : World V P) (node : Node) (children : List PermissionRef) :
    Prop where
  own : ∀ child ∈ children, ∀ next, world.LeadsTo node.type node.id child next →
    world.key next ≠ world.key node
  siblings : children.Pairwise fun first second => ∀ n m,
    world.LeadsTo node.type node.id first n → world.LeadsTo node.type node.id second m →
      world.key n ≠ world.key m

section Walker

variable {w : Walker V P} {world : World V P}

/-- Separate children open branches that are apart once the node itself was visited. -/
theorem Walker.apart_of_separate (shows : w.ShowsAll world) {req : CheckRequest V}
    (asks : world.Asks req) {children : List PermissionRef}
    (separate : world.Separate req.node children) :
    w.graph.Apart [req.key] (children.map (w.childItems req)) where
  fresh := by
    -- Only the root was visited, and no child leads back to its key.
    intro items among k met member
    obtain ⟨child, inside, rfl⟩ := List.mem_map.mp among
    obtain ⟨node, leads, rfl⟩ := Walker.meets_leadsTo shows asks met
    obtain same := List.mem_singleton.mp member
    exact separate.own child inside node leads (same.trans asks.key_eq)
  siblings := by
    rw [List.pairwise_map]
    refine separate.siblings.imp ?_
    -- Marking is one way of meeting, so both sides have a node of the world.
    intro first second apart k marked met
    obtain ⟨n, left, rfl⟩ := Walker.meets_leadsTo shows asks (.inl marked)
    obtain ⟨m, right, same⟩ := Walker.meets_leadsTo shows asks met
    exact apart n m left right same.symm

/-- A run that matches a refusal is a refusal. -/
theorem Matches.refused {run : Except Err CheckResult × WalkState}
    {search : Answer Err (List String) × List String} (matched : Matches run search)
    (refused : search.1 = .ok none) :
    ∃ result after, run = (.ok result, after) ∧ result.allowed = false := by
  rcases matched.cases with ⟨e, st, v, rfl, rfl⟩ | ⟨result, st, rfl, rfl⟩
  · cases refused
  · refine ⟨result, st, rfl, ?_⟩
    -- A result that grants has evidence to show.
    have nothing : result.evidence = none := Except.ok.inj refused
    rcases result.evidence_cases with ⟨-, shown⟩ | ⟨denied, -⟩
    · rw [shown] at nothing
      cases nothing
    · exact denied

/-- A run that matches a grant is a grant. -/
theorem Matches.granted {run : Except Err CheckResult × WalkState}
    {search : Answer Err (List String) × List String} (matched : Matches run search)
    {path : List String} (granted : search.1 = .ok (some path)) :
    ∃ result after, run = (.ok result, after) ∧ result.allowed = true := by
  rcases matched.cases with ⟨e, st, v, rfl, rfl⟩ | ⟨result, st, rfl, rfl⟩
  · cases granted
  · refine ⟨result, st, rfl, ?_⟩
    -- A result that refuses has nothing to show.
    have something : result.evidence = some path := Except.ok.inj granted
    rcases result.evidence_cases with ⟨allowed, -⟩ | ⟨-, shown⟩
    · exact allowed
    · rw [shown] at something
      cases something

/-- A search that a granting run matches has evidence. -/
theorem Matches.found {run : Except Err CheckResult × WalkState}
    {search : Answer Err (List String) × List String} (matched : Matches run search)
    (allowed : ZanGuard.granted run.1 = true) : ∃ path, search.1 = .ok (some path) := by
  rcases matched.cases with ⟨e, st, v, rfl, rfl⟩ | ⟨result, st, rfl, rfl⟩
  · cases allowed
  · exact ⟨result.resolutionPath, congrArg Except.ok (if_pos allowed)⟩

/-- A run that returned matches a search with the same evidence. -/
theorem Matches.answered {result : CheckResult} {after : WalkState}
    {search : Answer Err (List String) × List String}
    (matched : Matches (.ok result, after) search) : search.1 = .ok result.evidence := by
  rcases matched.cases with ⟨e, st, v, failed, -⟩ | ⟨other, st, same, rfl⟩
  · cases failed
  · cases same
    rfl

end Walker

/-- Documents combine what two folders say about their viewers. -/
def twoFolderSchema (operation : PermOp) : CompiledSchema Bool :=
  schemaWith [
    ("doc", [{
      name := "view", operation
      children := [{ arrowRef := "a", arrowPermission := "view" },
        { arrowRef := "b", arrowPermission := "view" }] }]),
    ("folder", [{
      name := "view", operation := .direct, children := [{ relationRef := "viewer" }] }])]

/-- The tuples of one document and its folders, in which nothing points back. -/
def Layered (tuples : List (RelationTuple Bool)) : Prop :=
  ∀ t ∈ tuples, t.subjectRelation = "" ∧
    (t.subjectType = "user" ∨ (t.objectType = "doc" ∧ t.subjectType = "folder"))

section Layered

variable {tuples : List (RelationTuple Bool)} {cs : CompiledSchema Bool}

/-- The world of a document and its folders. -/
abbrev layeredWorld (tuples : List (RelationTuple Bool)) (cs : CompiledSchema Bool) :
    World Bool Bool :=
  (acmeStore tuples).world acme literalLang cs 0 "user" "u"

/-- In layered tuples a child opens only folders, and only from a document. -/
theorem layered_opens (layered : Layered tuples) (users : cs.types.lookup "user" = none)
    {type id : String} {child : PermissionRef} {next : Node}
    (opened : (layeredWorld tuples cs).Opens type id child next) :
    ∃ t ∈ tuples, type = "doc" ∧ t.relation = child.arrowRef ∧
      next = ⟨"folder", t.subjectID, child.arrowPermission⟩ := by
  -- No stored subject is a userset, so a child opens a node along an arrow only.
  cases opened with
  | userset kind listed nonempty =>
    obtain ⟨t, ⟨stored, -⟩, -, -, -, rfl⟩ := listed
    exact absurd (layered t stored).1 nonempty
  | target kind related declares =>
    obtain ⟨t, ⟨stored, -⟩, object, -, relation, rfl⟩ := related
    rcases (layered t stored).2 with user | ⟨doc, folder⟩
    · -- Users declare no permission, so an arrow does not open them.
      obtain ⟨permDef, declared⟩ := declares
      have missing : cs.getPermission "user" child.arrowPermission =
          .error (.unknownType "user") := by
        simp only [CompiledSchema.getPermission, users]
      simp only [user] at declared
      exact absurd (missing.symm.trans declared) (by simp)
    · exact ⟨t, stored, object.symm.trans doc, relation, by rw [folder]⟩

/-- A folder reaches only itself. -/
theorem layered_reaches (layered : Layered tuples) (users : cs.types.lookup "user" = none)
    {id permission : String} {node : Node}
    (reached : (layeredWorld tuples cs).Reaches ⟨"folder", id, permission⟩ node) :
    node = ⟨"folder", id, permission⟩ := by
  -- A first hop would have to start at a document.
  rcases Relation.ReflTransGen.cases_head reached with
    same | ⟨next, ⟨permDef, -, child, -, opened⟩, -⟩
  · exact same.symm
  · obtain ⟨-, -, doc, -⟩ := layered_opens layered users opened
    exact absurd doc (by simp)

/-- A child of the document leads to the folders it opens, and no further. -/
theorem layered_leadsTo (layered : Layered tuples) (users : cs.types.lookup "user" = none)
    {child : PermissionRef} {node : Node}
    (leads : (layeredWorld tuples cs).LeadsTo "doc" "1" child node) :
    ∃ t ∈ tuples, t.relation = child.arrowRef ∧
      node = ⟨"folder", t.subjectID, child.arrowPermission⟩ := by
  obtain ⟨first, opened, reached⟩ := leads
  obtain ⟨t, stored, -, relation, rfl⟩ := layered_opens layered users opened
  exact ⟨t, stored, relation, layered_reaches layered users reached⟩

/-- A document whose folders differ keeps its two children separate. -/
theorem layered_separate (layered : Layered tuples) (users : cs.types.lookup "user" = none)
    (differ : ∀ t ∈ tuples, ∀ u ∈ tuples, t.relation = "a" → u.relation = "b" →
      visitKey "folder" t.subjectID "view" "user" "u" ≠
        visitKey "folder" u.subjectID "view" "user" "u")
    (below : ∀ t ∈ tuples, visitKey "folder" t.subjectID "view" "user" "u" ≠
      visitKey "doc" "1" "view" "user" "u") :
    (layeredWorld tuples cs).Separate docRequest.node
      [{ arrowRef := "a", arrowPermission := "view" },
        { arrowRef := "b", arrowPermission := "view" }] where
  own := by
    intro child member next leads
    obtain ⟨t, stored, -, rfl⟩ := layered_leadsTo layered users leads
    -- Both arrows lead to the one permission.
    have permission : child.arrowPermission = "view" := by
      rcases List.mem_cons.mp member with rfl | member
      · rfl
      · obtain rfl := List.mem_singleton.mp member
        rfl
    rw [permission]
    exact below t stored
  siblings := by
    refine List.pairwise_pair.mpr ?_
    intro n m left right
    obtain ⟨t, stored, first, rfl⟩ := layered_leadsTo layered users left
    obtain ⟨u, kept, second, rfl⟩ := layered_leadsTo layered users right
    -- One was reached by the first relation, the other by the second.
    exact differ t stored u kept first second

end Layered

/-- One document with two folders, of which the user views the first. -/
def ownFolders : List (RelationTuple Bool) :=
  [fact "doc" "1" "a" "folder" "x", fact "doc" "1" "b" "folder" "y",
   fact "folder" "x" "viewer" "user" "u"]

end ZanGuard
