import Mathlib.Data.List.ModifyLast
import ZanGuard.Console.SchemaTypes
import ZanGuard.Proofs.Console.Lines

/-! Which types, relations and permissions of a schema the console offers. -/

namespace ZanGuard.Console

section InlineLists

/-- A reference without its quotation marks. -/
theorem stripQuotes_written (ref : TypeRef) : stripQuotes ref.written = ref.chars := by
  obtain ⟨first, last⟩ := ref.unquoted
  -- A mark in front and the same one behind, or none at all.
  have quoted : ∀ mark, isQuote mark = true →
      stripQuotes ([mark] ++ ref.chars ++ [mark]) = ref.chars := by
    intro mark is
    have opened : ([mark] ++ ref.chars ++ [mark]).head?.any isQuote = true := by simp [is]
    have inner : ([mark] ++ ref.chars ++ [mark]).tail = ref.chars ++ [mark] := rfl
    have closed : (ref.chars ++ [mark]).getLast?.any isQuote = true := by simp [is]
    simp only [stripQuotes, opened, inner, closed, if_true, List.dropLast_concat]
  rcases ref.quoting with none | single | double
  · rw [TypeRef.written, none, List.nil_append, List.append_nil]
    simp only [stripQuotes, first, last, Bool.false_eq_true, if_false]
  · rw [TypeRef.written, single]
    exact quoted _ rfl
  · rw [TypeRef.written, double]
    exact quoted _ rfl

/-- Entries apart by a comma and a blank are apart by a comma, most with a blank in front. -/
theorem intercalate_blank (first : List Char) (rest : List (List Char)) :
    [',', ' '].intercalate (first :: rest) = [','].intercalate (first :: rest.map (' ' :: ·)) := by
  -- By induction on the rest; the blank goes over from the separator to the next entry.
  induction rest generalizing first with
  | nil => rfl
  | cons next others ih =>
    have step : ∀ (mark a b : List Char) (l : List (List Char)),
        mark.intercalate (a :: b :: l) = a ++ mark ++ mark.intercalate (b :: l) := by
      intro mark a b l
      simp [List.intercalate]
    have blank : ∀ l : List (List Char),
        [','].intercalate ((' ' :: next) :: l) = ' ' :: [','].intercalate (next :: l) := by
      intro l
      cases l <;> simp [List.intercalate]
    rw [step, ih next, List.map_cons, step, blank]
    simp

/-- A reference is read back from its piece of a list, with or without a blank in front. -/
theorem strip_written (ref : TypeRef) (depth : Nat) :
    String.ofList (stripQuotes (trim (indented depth ref.written))) = ref.text := by
  rw [trim_indented ref.starts_written ref.ends_written, stripQuotes_written]
  rfl

/-- No reference is written with a comma. -/
theorem comma_not_mem_written (ref : TypeRef) : ',' ∉ ref.written := by
  -- Neither the marks nor the name between them have one.
  have quote : ',' ∉ ref.quote := by
    rcases ref.quoting with none | single | double
    · simp [none]
    · simp [single]
    · simp [double]
  simp [TypeRef.written, quote, ref.single]

/-- The types in brackets are read one by one. -/
theorem parseInlineList_bracketed (types : List TypeRef) :
    parseInlineList (bracketed types) = types.map fun ref => ref.text := by
  have opens : (bracketed types).head? = some '[' := rfl
  have closes : (bracketed types).getLast? = some ']' := by
    rw [bracketed, ← List.cons_append, List.getLast?_concat]
  have inner : (bracketed types).tail.dropLast =
      [',', ' '].intercalate (types.map TypeRef.written) := by
    rw [bracketed, List.tail_cons, List.dropLast_concat]
  have nonempty : bracketed types ≠ [] := List.cons_ne_nil _ _
  rw [parseInlineList, trim_self (starts_bracketed types) (ends_bracketed types), if_neg nonempty,
    if_pos ⟨opens, closes⟩, inner]
  cases types with
  | nil => decide
  | cons first rest =>
    -- The commas stand between the references, and nowhere else.
    have pieces : ∀ piece ∈ first.written :: (rest.map TypeRef.written).map (' ' :: ·),
        ',' ∉ piece := by
      intro piece member
      rcases List.mem_cons.mp member with rfl | member
      · exact comma_not_mem_written first
      · obtain ⟨written, among, rfl⟩ := List.mem_map.mp member
        obtain ⟨ref, -, rfl⟩ := List.mem_map.mp among
        simpa using comma_not_mem_written ref
    rw [List.map_cons, intercalate_blank,
      List.splitOn_intercalate ',' pieces (List.cons_ne_nil _ _), List.map_cons, List.map_map, List.map_map]
    have head : String.ofList (stripQuotes (trim first.written)) = first.text :=
      strip_written first 0
    have tail : rest.map (((fun item => String.ofList (stripQuotes (trim item))) ∘ (' ' :: ·)) ∘
        TypeRef.written) = rest.map fun ref => ref.text :=
      List.map_congr_left fun ref _ => strip_written ref 1
    rw [head, tail, ← List.map_cons (f := fun ref : TypeRef => ref.text)]
    refine List.filter_eq_self.mpr fun text member => ?_
    -- None of them is empty.
    obtain ⟨ref, -, rfl⟩ := List.mem_map.mp member
    simpa using ref.text_ne_empty

end InlineLists

section Reading

variable {σ ρ : Type}

/-- What the lines below a type come to, for a reader of them. -/
def MemberReader.readLines (reader : MemberReader σ ρ) (lines : List (List Char))
    (from' : σ × List ρ) : σ × List ρ :=
  lines.foldl (fun st line => reader.read (indentOf line) (trim line) st) from'

theorem MemberReader.readLines_append (reader : MemberReader σ ρ) (first rest : List (List Char))
    (from' : σ × List ρ) :
    reader.readLines (first ++ rest) from' = reader.readLines rest (reader.readLines first from') :=
  List.foldl_append

theorem MemberReader.readLines_cons {reader : MemberReader σ ρ} {depth : Nat} {text : List Char}
    (starts : Starts text) (ends : Ends text) (rest : List (List Char)) (from' : σ × List ρ) :
    reader.readLines (indented depth text :: rest) from' =
      reader.readLines rest (reader.read depth text from') := by
  rw [readLines, List.foldl_cons, indentOf_indented starts, trim_indented starts ends]
  rfl

theorem MemberReader.readLines_one {reader : MemberReader σ ρ} {depth : Nat} {text : List Char}
    (starts : Starts text) (ends : Ends text) (from' : σ × List ρ) :
    reader.readLines [indented depth text] from' = reader.read depth text from' :=
  readLines_cons starts ends [] from'

end Reading

section Relations

variable {st : RelationState} {relations : List SchemaRelation}

/-- What the readers of relations list for a relation. -/
def RelationDecl.info (decl : RelationDecl) : SchemaRelation :=
  { name := decl.name.text, allowedTypes := decl.types.map fun ref => ref.text }

theorem relationReader_read : relationReader.read = relationLine := rfl

/-- Types are allowed by the relation that was added last. -/
theorem allowTypes_last (relation : SchemaRelation) (types : List String) :
    allowTypes (relations ++ [relation]) types =
      relations ++ [{ relation with allowedTypes := relation.allowedTypes ++ types }] :=
  List.modifyLast_concat _ _ _

/-- Outside a section of relations, the lines of the entries change nothing. -/
theorem relationLine_outside (outside : st.inRelations = false) {line : List Char}
    (deep : Deep line) :
    relationReader.readLines [line] (st, relations) = (st, relations) := by
  obtain ⟨depth, text, depths, starts, ends, rfl⟩ := deep
  rw [MemberReader.readLines_one starts ends, relationReader_read, relationLine]
  -- None of these depths is that of a section.
  rcases depths with rfl | rfl | rfl <;> simp [outside]

/-- The header of a section says whether relations follow. -/
theorem relationLine_section {name : List Char} (starts : Starts name) (ends : Ends name) :
    relationReader.readLines [header 4 name] (st, relations) =
      ({ inRelations := name == "relations".toList
         hasRelation := false, collectingTypesList := false }, relations) := by
  rw [header, MemberReader.readLines_one (starts.append _) (ends_colon _), relationReader_read,
    relationLine, if_pos ⟨rfl, endsWithColon_append_colon _⟩, List.dropLast_concat,
    trim_self starts ends]

/-- The header of a relation adds it, without types. -/
theorem relationLine_header (inside : st.inRelations = true) (plain : Plain) :
    relationReader.readLines [header 6 plain.chars] (st, relations) =
      ({ st with hasRelation := true, collectingTypesList := false },
        relations ++ [{ name := plain.text, allowedTypes := [] }]) := by
  rw [header, MemberReader.readLines_one (plain.startsPlain.append _) (ends_colon _),
    relationReader_read, relationLine, if_neg (by simp), if_neg (by simp [inside]),
    if_pos ⟨rfl, endsWithColon_append_colon _⟩, List.dropLast_concat, plain.trim_chars]
  rfl

/-- A list of types in one line is added to the current relation. -/
theorem relationLine_inline (inside : st.inRelations = true) (current : st.hasRelation = true)
    (types : List TypeRef) :
    relationReader.readLines [indented 8 (inlineTypes types)] (st, relations) =
      ({ st with collectingTypesList := false },
        allowTypes relations (types.map fun ref => ref.text)) := by
  have list : trim ((inlineTypes types).drop "types:".length) = bracketed types := by
    show trim (("types:".toList ++ indented 1 (bracketed types)).drop _) = _
    rw [List.drop_left' String.length_toList]
    exact trim_indented (starts_bracketed types) (ends_bracketed types) 1
  have opens : "types:".toList <+: inlineTypes types := ⟨_, rfl⟩
  have nonempty : bracketed types ≠ [] := List.cons_ne_nil _ _
  -- Of the readings of a line, the one for lists in brackets is left.
  rw [MemberReader.readLines_one (starts_inlineTypes _) (ends_inlineTypes _), relationReader_read,
    relationLine, if_neg (by simp), if_neg (by simp [inside]), if_neg (by simp),
    if_neg (by simp [current]), if_pos ⟨rfl, opens⟩, list]
  dsimp only
  rw [if_pos nonempty, parseInlineList_bracketed]

/-- The line that opens a list of types starts to collect them. -/
theorem relationLine_collect (inside : st.inRelations = true) (current : st.hasRelation = true) :
    relationReader.readLines [header 8 "types".toList] (st, relations) =
      ({ st with collectingTypesList := true }, relations) := by
  -- After the colon there is nothing, so what is allowed comes on other lines.
  rw [header, MemberReader.readLines_one (starts_types.append _) (ends_colon _),
    relationReader_read, relationLine, if_neg (by simp), if_neg (by simp [inside]),
    if_neg (by simp), if_neg (by simp [current]), if_pos ⟨rfl, by decide⟩, if_neg (by decide)]

/-- Collected types are added to the current relation one by one. -/
theorem relationLine_items (inside : st.inRelations = true) (current : st.hasRelation = true)
    (collecting : st.collectingTypesList = true) (types : List TypeRef)
    (relation : SchemaRelation) :
    relationReader.readLines (types.map fun ref => indented 10 (['-', ' '] ++ ref.written))
        (st, relations ++ [relation]) =
      (st, relations ++ [{ relation with
        allowedTypes := relation.allowedTypes ++ types.map fun ref => ref.text }]) := by
  -- By induction on the items, each of which is added to the relation they belong to.
  induction types generalizing relation with
  | nil => simp [MemberReader.readLines]
  | cons ref rest ih =>
    have item : trim ((['-', ' '] ++ ref.written).drop 1) = ref.written :=
      trim_indented ref.starts_written ref.ends_written 1
    have dash : "-".toList <+: ['-', ' '] ++ ref.written := ⟨' ' :: ref.written, by simp⟩
    have nonempty : ref.written ≠ [] := by
      obtain ⟨c, more, shape, -⟩ := ref.starts_written
      rw [shape]
      exact List.cons_ne_nil c more
    rw [List.map_cons, MemberReader.readLines_cons (starts_dash _) (Ends.append _ ref.ends_written)]
    have added : relationReader.read 10 (['-', ' '] ++ ref.written) (st, relations ++ [relation]) =
        (st, relations ++ [{ relation with
          allowedTypes := relation.allowedTypes ++ [ref.text] }]) := by
      rw [relationReader_read, relationLine, if_neg (by simp), if_neg (by simp [inside]),
        if_neg (by simp), if_neg (by simp [current]), if_neg (by simp), if_pos ⟨collecting, le_rfl, dash⟩, item]
      dsimp only
      rw [if_pos nonempty, stripQuotes_written, allowTypes_last]
      rfl
    rw [added, ih]
    simp

/-- A relation is added with its types, however they are written. -/
theorem relationReader_decl (inside : st.inRelations = true) (decl : RelationDecl) :
    ∃ after, after.inRelations = true ∧
      relationReader.readLines decl.lines (st, relations) = (after, relations ++ [decl.info]) := by
  -- What is remembered below the header of the relation.
  let below : RelationState := { st with hasRelation := true, collectingTypesList := false }
  have header : relationReader.readLines [header 6 decl.name.chars] (st, relations) =
      (below, relations ++ [{ name := decl.name.text, allowedTypes := [] }]) :=
    relationLine_header inside decl.name
  have within : below.inRelations = true := inside
  rw [RelationDecl.lines, ← List.singleton_append, MemberReader.readLines_append, header]
  cases form : decl.inline with
  | true =>
    rw [if_pos rfl, relationLine_inline within rfl, allowTypes_last]
    exact ⟨below, inside, rfl⟩
  | false =>
    -- The types stand in lines of their own.
    let collecting : RelationState := { below with collectingTypesList := true }
    have still : collecting.inRelations = true := inside
    let added : SchemaRelation := { name := decl.name.text, allowedTypes := [] }
    have opened : relationReader.readLines [Console.header 8 "types".toList]
        (below, relations ++ [added]) = (collecting, relations ++ [added]) :=
      relationLine_collect within rfl
    have listed : relationReader.readLines
        (decl.types.map fun ref => indented 10 (['-', ' '] ++ ref.written))
        (collecting, relations ++ [added]) = (collecting, relations ++ [decl.info]) :=
      relationLine_items still rfl rfl decl.types added
    rw [if_neg (by simp), ← List.singleton_append, MemberReader.readLines_append, opened]
    exact ⟨collecting, inside, listed⟩

/-- A row of relations is added one after the other. -/
theorem relationReader_decls (inside : st.inRelations = true) (decls : List RelationDecl) :
    ∃ after, relationReader.readLines (decls.flatMap RelationDecl.lines) (st, relations) =
      (after, relations ++ decls.map RelationDecl.info) := by
  -- By induction on the relations: within the section each one is read as on its own.
  induction decls generalizing st relations with
  | nil => exact ⟨st, by simp [MemberReader.readLines]⟩
  | cons decl rest ih =>
    obtain ⟨mid, still, first⟩ : ∃ mid : RelationState, mid.inRelations = true ∧
        relationReader.readLines decl.lines (st, relations) = (mid, relations ++ [decl.info]) :=
      relationReader_decl inside decl
    obtain ⟨after, read⟩ : ∃ after,
        relationReader.readLines (rest.flatMap RelationDecl.lines)
          (mid, relations ++ [decl.info]) =
          (after, relations ++ [decl.info] ++ rest.map RelationDecl.info) := ih still
    refine ⟨after, ?_⟩
    rw [List.flatMap_cons, MemberReader.readLines_append, first, read]
    simp

/-- Lines outside a section of relations change nothing. -/
theorem relationReader_outside (outside : st.inRelations = false) {lines : List (List Char)}
    (deep : ∀ line ∈ lines, Deep line) :
    relationReader.readLines lines (st, relations) = (st, relations) := by
  -- By induction on the lines, none of which enters a section.
  induction lines with
  | nil => rfl
  | cons line rest ih =>
    rw [← List.singleton_append, MemberReader.readLines_append,
      relationLine_outside outside (deep line List.mem_cons_self)]
    exact ih fun later member => deep later (List.mem_cons_of_mem _ member)

/-- A section adds the relations it declares. -/
theorem relationReader_section (decl : SectionDecl) :
    ∃ after, relationReader.readLines decl.lines (st, relations) =
      (after, relations ++ decl.relationDecls.map RelationDecl.info) := by
  have deep := decl.entryLines_deep
  rw [decl.lines_eq, ← List.singleton_append, MemberReader.readLines_append,
    relationLine_section decl.starts_title decl.ends_title]
  -- By the title of the section, which says whether its entries are read.
  cases decl with
  | relations entries =>
    have own : ("relations".toList == "relations".toList) = true := beq_self_eq_true _
    exact relationReader_decls own entries
  | attributes entries =>
    have other : ("attributes".toList == "relations".toList) = false := by decide
    rw [relationReader_outside other deep]
    exact ⟨_, congrArg (Prod.mk _) (List.append_nil relations).symm⟩
  | permissions entries =>
    have other : ("permissions".toList == "relations".toList) = false := by decide
    rw [relationReader_outside other deep]
    exact ⟨_, congrArg (Prod.mk _) (List.append_nil relations).symm⟩

/-- A type's sections add the relations of the type. -/
theorem relationReader_sections (sections : List SectionDecl) :
    (relationReader.readLines (sections.flatMap SectionDecl.lines) (st, relations)).2 =
      relations ++ (sections.flatMap SectionDecl.relationDecls).map RelationDecl.info := by
  -- By induction on the sections, whatever is remembered from the one before.
  induction sections generalizing st relations with
  | nil => simp [MemberReader.readLines]
  | cons decl rest ih =>
    obtain ⟨after, read⟩ : ∃ after, relationReader.readLines decl.lines (st, relations) =
        (after, relations ++ decl.relationDecls.map RelationDecl.info) :=
      relationReader_section decl
    rw [List.flatMap_cons, MemberReader.readLines_append, read, ih]
    simp

end Relations

section Permissions

variable {inPermissions : Bool} {permissions : List String}

theorem permissionReader_read : permissionReader.read = permissionLine := rfl

/-- The header of a section says whether permissions follow. -/
theorem permissionLine_section {name : List Char} (starts : Starts name) (ends : Ends name) :
    permissionReader.readLines [header 4 name] (inPermissions, permissions) =
      (name == "permissions".toList, permissions) := by
  rw [header, MemberReader.readLines_one (starts.append _) (ends_colon _), permissionReader_read,
    permissionLine, if_pos ⟨rfl, endsWithColon_append_colon _⟩, List.dropLast_concat,
    trim_self starts ends]

/-- The header of a permission adds it. -/
theorem permissionLine_header (plain : Plain) :
    permissionReader.readLines [header 6 plain.chars] (true, permissions) =
      (true, permissions ++ [plain.text]) := by
  rw [header, MemberReader.readLines_one (plain.startsPlain.append _) (ends_colon _),
    permissionReader_read, permissionLine, if_neg (by simp),
    if_pos ⟨rfl, rfl, endsWithColon_append_colon _⟩, List.dropLast_concat, plain.trim_chars]
  rfl

/-- Outside a section of permissions, the lines of the entries change nothing. -/
theorem permissionReader_outside {lines : List (List Char)} (deep : ∀ line ∈ lines, Deep line) :
    permissionReader.readLines lines (false, permissions) = (false, permissions) := by
  -- By induction on the lines, as for relations.
  induction lines with
  | nil => rfl
  | cons line rest ih =>
    obtain ⟨depth, text, depths, starts, ends, rfl⟩ := deep line List.mem_cons_self
    rw [MemberReader.readLines_cons starts ends, permissionReader_read, permissionLine,
      if_neg (by omega), if_neg (by simp)]
    exact ih fun later member => deep later (List.mem_cons_of_mem _ member)

/-- The lines of a body add no permission. -/
theorem permissionReader_body (body : List BodyLine) :
    permissionReader.readLines (body.map BodyLine.line) (inPermissions, permissions) =
      (inPermissions, permissions) := by
  induction body with
  | nil => rfl
  | cons line rest ih =>
    rw [List.map_cons, BodyLine.line,
      MemberReader.readLines_cons line.text.startsPlain line.text.endsPlain, permissionReader_read,
      permissionLine]
    -- Neither of the two depths is that of a header.
    cases line.deep with
    | false => rwa [if_neg (by simp), if_neg (by simp)]
    | true => rwa [if_neg (by simp), if_neg (by simp)]

/-- A row of permissions is added one after the other. -/
theorem permissionReader_decls (decls : List PermissionDecl) :
    permissionReader.readLines (decls.flatMap PermissionDecl.lines) (true, permissions) =
      (true, permissions ++ decls.map fun decl => decl.name.text) := by
  -- By induction on the permissions: a header adds one, and a body none.
  induction decls generalizing permissions with
  | nil => simp [MemberReader.readLines]
  | cons decl rest ih =>
    rw [List.flatMap_cons, MemberReader.readLines_append, PermissionDecl.lines,
      ← List.singleton_append, MemberReader.readLines_append, permissionLine_header,
      permissionReader_body, ih]
    simp

/-- A section adds the permissions it declares. -/
theorem permissionReader_section (decl : SectionDecl) :
    ∃ after, permissionReader.readLines decl.lines (inPermissions, permissions) =
      (after, permissions ++ decl.permissionDecls.map fun decl => decl.name.text) := by
  have deep := decl.entryLines_deep
  rw [decl.lines_eq, ← List.singleton_append, MemberReader.readLines_append,
    permissionLine_section decl.starts_title decl.ends_title]
  -- Again by the title of the section.
  cases decl with
  | permissions entries => exact ⟨true, permissionReader_decls entries⟩
  | attributes entries =>
    refine ⟨false, (permissionReader_outside deep).trans ?_⟩
    simp [SectionDecl.permissionDecls]
  | relations entries =>
    refine ⟨false, (permissionReader_outside deep).trans ?_⟩
    simp [SectionDecl.permissionDecls]

/-- A type's sections add the permissions of the type. -/
theorem permissionReader_sections (sections : List SectionDecl) :
    (permissionReader.readLines (sections.flatMap SectionDecl.lines)
      (inPermissions, permissions)).2 =
      permissions ++ (sections.flatMap SectionDecl.permissionDecls).map fun decl =>
        decl.name.text := by
  -- By induction on the sections, like the relations.
  induction sections generalizing inPermissions permissions with
  | nil => simp [MemberReader.readLines]
  | cons decl rest ih =>
    obtain ⟨after, read⟩ : ∃ after,
        permissionReader.readLines decl.lines (inPermissions, permissions) =
          (after, permissions ++ decl.permissionDecls.map fun decl => decl.name.text) :=
      permissionReader_section decl
    rw [List.flatMap_cons, MemberReader.readLines_append, read, ih]
    simp

end Permissions

section Types

variable {σ ρ : Type} {reader : MemberReader σ ρ}
  {add : List (TypeInfo ρ) → String → List (TypeInfo ρ) × Nat}

/-- What a line with text changes, from the line as it stands. -/
def contentStep (reader : MemberReader σ ρ)
    (add : List (TypeInfo ρ) → String → List (TypeInfo ρ) × Nat) (st : TypesState σ ρ)
    (line : List Char) : TypesState σ ρ :=
  contentLine reader add st (indentOf line) (trim line)

/-- What is remembered below the header of a type. -/
def inside (front : List (TypeInfo ρ)) (name : String) (below : σ × List ρ) : TypesState σ ρ :=
  { inTypesSection := true, result := front ++ [{ name, members := below.2 }]
    currentType := some front.length, below := below.1 }

/-- The lines that a reader passes over are none of the schema's. -/
theorem readTypes_lines {decl : SchemaDecl} {source : String}
    (written : decl.WrittenAs isSkipped source) :
    readTypes reader add source = (decl.lines.foldl (contentStep reader add)
      { inTypesSection := false, result := [], currentType := none,
        below := reader.reset }).result := by
  -- To pass over a line is the same as not to read it.
  have passes : typesLine reader add = fun st line =>
      if !isSkipped line then contentStep reader add st line else st := by
    funext st line
    rw [typesLine, contentStep]
    cases isSkipped line <;> rfl
  rw [readTypes, passes, ← List.foldl_filter, written]

/-- A line at the margin that is not the header of the types ends them. -/
theorem contentStep_other {plain : Plain} (other : plain.chars ≠ "types:".toList)
    (st : TypesState σ ρ) :
    contentStep reader add st plain.chars =
      { st with inTypesSection := false, currentType := none, below := reader.reset } := by
  have margin : indentOf plain.chars = 0 := indentOf_indented plain.startsPlain 0
  rw [contentStep, plain.trim_chars, contentLine, if_pos margin, beq_eq_false_iff_ne.mpr other]

/-- Lines outside the types add none. -/
theorem contentStep_others {others : List Plain}
    (differ : ∀ plain ∈ others, plain.chars ≠ "types:".toList) (st : TypesState σ ρ) :
    ((others.map Plain.chars).foldl (contentStep reader add) st).result = st.result := by
  -- By induction on the lines, each of which leaves the types that were found.
  induction others generalizing st with
  | nil => rfl
  | cons plain rest ih =>
    rw [List.map_cons, List.foldl_cons, contentStep_other (differ plain List.mem_cons_self)]
    exact ih (fun later member => differ later (List.mem_cons_of_mem _ member)) _

/-- The header of the types opens them. -/
theorem contentStep_types (st : TypesState σ ρ) :
    contentStep reader add st (header 0 "types".toList) =
      { st with inTypesSection := true, currentType := none, below := reader.reset } := by
  have starts : Starts ("types".toList ++ [':']) := starts_types.append _
  have line : "types".toList ++ [':'] = "types:".toList := by simp
  rw [contentStep, header, indentOf_indented starts, trim_indented starts (ends_colon _), line,
    contentLine, if_pos rfl, beq_self_eq_true]

/-- The header of a new type adds it. -/
theorem contentStep_header (st : TypesState σ ρ) (opened : st.inTypesSection = true)
    {name : Plain} (fresh : add st.result name.text = pushType st.result name.text) :
    contentStep reader add st (header 2 name.chars) =
      inside st.result name.text (reader.reset, []) := by
  -- The name is what stands before the colon.
  have named : (trim (name.chars ++ [':']).dropLast) = name.chars := by
    rw [List.dropLast_concat, name.trim_chars]
  rw [contentStep, header, indentOf_indented (name.startsPlain.append _),
    trim_indented (name.startsPlain.append _) (ends_colon _), contentLine, if_neg (by simp),
    if_neg (by simp [opened]), if_pos ⟨rfl, endsWithColon_append_colon _⟩, named]
  dsimp only
  rw [if_neg name.chars_ne_nil, ← Plain.text, fresh]
  simp only [pushType, inside, opened]

/-- Lines below a type change what the reader lists under it, and no more. -/
theorem contentStep_inside {lines : List (List Char)} (deep : ∀ line ∈ lines, 2 < indentOf line)
    (front : List (TypeInfo ρ)) (name : String) (below : σ × List ρ) :
    lines.foldl (contentStep reader add) (inside front name below) =
      inside front name (reader.readLines lines below) := by
  induction lines generalizing below with
  | nil => rfl
  | cons line rest ih =>
    have depth := deep line List.mem_cons_self
    have step : contentStep reader add (inside front name below) line =
        inside front name (reader.read (indentOf line) (trim line) below) := by
      rw [contentStep, contentLine, if_neg (by omega), if_neg (by simp [inside]),
        if_neg (by omega)]
      -- The current type is the last one.
      simp [inside]
    rw [List.foldl_cons, step]
    exact ih (fun later member => deep later (List.mem_cons_of_mem _ member)) _

/-- A type without a body adds nothing. -/
theorem contentStep_empty (shallow : ∀ line below, (reader.read 2 line below).2 = below.2)
    (name : Plain) (st : TypesState σ ρ) (opened : st.inTypesSection = true) :
    (contentStep reader add st (indented 2 (name.chars ++ ": {}".toList))).inTypesSection = true ∧
      (contentStep reader add st (indented 2 (name.chars ++ ": {}".toList))).result =
        st.result := by
  have starts : Starts (name.chars ++ ": {}".toList) := name.startsPlain.append _
  have ends : Ends (name.chars ++ ": {}".toList) := ends_emptyBody _
  have noHeader : endsWithColon (name.chars ++ ": {}".toList) = false :=
    endsWithColon_emptyBody _
  constructor <;>
    rw [contentStep, indentOf_indented starts, trim_indented starts ends, contentLine,
      if_neg (by simp), if_neg (by simp [opened]), if_neg (by rw [noHeader]; simp)]
  · -- Below no type and below any, the section stays the same.
    cases st.currentType with
    | none => exact opened
    | some place =>
      cases found : st.result[place]? with
      | none => simpa only [found] using opened
      | some info => simpa only [found] using opened
  · cases st.currentType with
    | none => rfl
    | some place =>
      cases found : st.result[place]? with
      | none => simp only [found]
      | some info =>
        -- The reader keeps what is listed under the type before.
        obtain ⟨bound, rfl⟩ := List.getElem?_eq_some_iff.mp found
        simp only [found, shallow]
        exact List.set_getElem_self bound

/-- A type's sections stand below its header. -/
theorem SectionDecl.lines_below (decl : SectionDecl) : ∀ line ∈ decl.lines, 2 < indentOf line := by
  intro line member
  rw [decl.lines_eq] at member
  rcases List.mem_cons.mp member with rfl | member
  · -- The header is four blanks deep, and its entries six at least.
    rw [header, indentOf_indented (decl.starts_title.append _)]
    omega
  · obtain ⟨depth, text, depths, starts, -, rfl⟩ := decl.entryLines_deep line member
    rw [indentOf_indented starts]
    omega

/-- What a reader lists for a type. -/
def MemberReader.info (reader : MemberReader σ ρ) (type : TypeDecl) : TypeInfo ρ where
  name := type.name.text
  members := (reader.readLines (type.sections.flatMap SectionDecl.lines) (reader.reset, [])).2

/-- How a type is added under a name that is not there yet. -/
def AddsNew (add : List (TypeInfo ρ) → String → List (TypeInfo ρ) × Nat) : Prop :=
  ∀ result name, (∀ info ∈ result, info.name ≠ name) → add result name = pushType result name

/-- A row of types adds those with a body, each with what is listed under it. -/
theorem contentStep_typeDecls (adds : AddsNew add)
    (shallow : ∀ line below, (reader.read 2 line below).2 = below.2) (types : List TypeDecl)
    (st : TypesState σ ρ) (opened : st.inTypesSection = true)
    (apart : (types.map fun type => type.name.text).Nodup)
    (fresh : ∀ type ∈ types, ∀ info ∈ st.result, info.name ≠ type.name.text) :
    ((types.flatMap TypeDecl.lines).foldl (contentStep reader add) st).result =
      st.result ++ (types.filter TypeDecl.isBlock).map reader.info := by
  induction types generalizing st with
  | nil => simp
  | cons type rest ih =>
    obtain ⟨unlike, others⟩ := List.nodup_cons.mp apart
    rw [List.flatMap_cons, List.foldl_append]
    cases type with
    | empty name =>
      let after := contentStep reader add st (indented 2 (name.chars ++ ": {}".toList))
      obtain ⟨still, same⟩ : after.inTypesSection = true ∧ after.result = st.result :=
        contentStep_empty shallow name st opened
      have later : ∀ type ∈ rest, ∀ info ∈ after.result, info.name ≠ type.name.text := by
        rw [same]
        exact fun type member => fresh type (List.mem_cons_of_mem _ member)
      rw [TypeDecl.lines, List.foldl_cons, List.foldl_nil, ih after still others later, same]
      rfl
    | block name sections =>
      have deep : ∀ line ∈ sections.flatMap SectionDecl.lines, 2 < indentOf line := by
        intro line member
        obtain ⟨decl, -, member⟩ := List.mem_flatMap.mp member
        exact decl.lines_below line member
      have new := adds st.result name.text (fresh _ List.mem_cons_self)
      let after := inside st.result name.text
        (reader.readLines (sections.flatMap SectionDecl.lines) (reader.reset, []))
      have grown : after.result = st.result ++ [reader.info (.block name sections)] := rfl
      have later : ∀ type ∈ rest, ∀ info ∈ after.result, info.name ≠ type.name.text := by
        intro type member info among
        rw [grown] at among
        rcases List.mem_append.mp among with before | last
        · exact fresh type (List.mem_cons_of_mem _ member) info before
        · rw [List.mem_singleton.mp last]
          -- The new name does not come again.
          exact fun same => unlike (List.mem_map.mpr ⟨type, member, same.symm⟩)
      rw [TypeDecl.lines, List.foldl_cons, contentStep_header st opened new,
        contentStep_inside deep, ih after rfl others later, grown, List.append_assoc]
      rfl

/-- A source is read as the types of its schema that have a body. -/
theorem readTypes_written (adds : AddsNew add)
    (shallow : ∀ line below, (reader.read 2 line below).2 = below.2) {decl : SchemaDecl}
    {source : String} (written : decl.WrittenAs isSkipped source) :
    readTypes reader add source = decl.blocks.map reader.info := by
  obtain ⟨before, after⟩ := List.forall_mem_append.mp decl.others
  rw [readTypes_lines written, SchemaDecl.lines, List.append_assoc, List.foldl_append,
    List.cons_append, List.foldl_cons, contentStep_types, List.foldl_append,
    contentStep_others after,
    contentStep_typeDecls adds shallow decl.types _ rfl decl.apart, contentStep_others before]
  · rfl
  · -- There is no type before the header of the types.
    rw [contentStep_others before]
    exact fun _ _ _ member => absurd member List.not_mem_nil

end Types

section Offers

/-- A type as the readers of relations list it. -/
def TypeDecl.relationInfo (type : TypeDecl) : TypeInfo SchemaRelation :=
  { name := type.name.text, members := type.relationDecls.map RelationDecl.info }

/-- A type as the reader of permissions lists it. -/
def TypeDecl.permissionInfo (type : TypeDecl) : TypeInfo String :=
  { name := type.name.text, members := type.permissionDecls.map fun decl => decl.name.text }

/-- The console offers the types of a schema, each with what is declared under it. -/
structure OffersTypes (decl : SchemaDecl) (source : String) : Prop where
  /-- in the dialog for new tuples -/
  tuples : parseSchemaTypes source = decl.types.map TypeDecl.relationInfo
  /-- in the graph -/
  graph : parseTypes source = decl.types.map TypeDecl.relationInfo
  /-- in the evaluator -/
  evaluator : parseSchemaTypeInfos source = decl.types.map TypeDecl.permissionInfo

theorem pushType_addsNew {ρ : Type} : AddsNew (pushType (ρ := ρ)) :=
  fun _ _ _ => rfl

/-- A name that is not there is put behind the others. -/
theorem setType_addsNew {ρ : Type} : AddsNew (setType (ρ := ρ)) := by
  intro parsed name fresh
  -- It is not found among those that are there.
  have absent : parsed.findIdx? (·.name == name) = none := by
    rw [List.findIdx?_eq_none_iff]
    exact fun info member => beq_eq_false_iff_ne.mpr (fresh info member)
  rw [setType, absent]

theorem relationReader_info (type : TypeDecl) : relationReader.info type = type.relationInfo := by
  rw [MemberReader.info, relationReader_sections]
  rfl

theorem permissionReader_info (type : TypeDecl) :
    permissionReader.info type = type.permissionInfo := by
  rw [MemberReader.info, permissionReader_sections]
  rfl

/-- The line of a type without a body lists nothing. -/
theorem relationLine_shallow (line : List Char) (below : RelationState × List SchemaRelation) :
    (relationReader.read 2 line below).2 = below.2 := by
  obtain ⟨st, relations⟩ := below
  rw [relationReader_read, relationLine, if_neg (by simp)]
  cases inside : st.inRelations with
  | false => rfl
  | true =>
    rw [if_neg (by simp), if_neg (by simp)]
    cases current : st.hasRelation with
    | false => rfl
    | true =>
      -- The lines of a relation stand further to the right.
      rw [if_neg (by simp), if_neg (by simp), if_neg (by simp), if_pos (by simp)]

theorem permissionLine_shallow (line : List Char) (below : Bool × List String) :
    (permissionReader.read 2 line below).2 = below.2 := by
  rw [permissionReader_read, permissionLine, if_neg (by simp), if_neg (by simp)]

variable {decl : SchemaDecl} {source : String} (written : decl.WrittenAs isSkipped source)
include written

/-- The dialog for new tuples offers the types with a body. -/
theorem parseSchemaTypes_written :
    parseSchemaTypes source = decl.blocks.map TypeDecl.relationInfo := by
  rw [parseSchemaTypes, readTypes_written pushType_addsNew relationLine_shallow written]
  exact List.map_congr_left fun type _ => relationReader_info type

/-- The graph shows the types with a body. -/
theorem parseTypes_written : parseTypes source = decl.blocks.map TypeDecl.relationInfo := by
  rw [parseTypes, readTypes_written setType_addsNew relationLine_shallow written]
  exact List.map_congr_left fun type _ => relationReader_info type

/-- The evaluator offers the types with a body. -/
theorem parseSchemaTypeInfos_written :
    parseSchemaTypeInfos source = decl.blocks.map TypeDecl.permissionInfo := by
  rw [parseSchemaTypeInfos, readTypes_written pushType_addsNew permissionLine_shallow written]
  exact List.map_congr_left fun type _ => permissionReader_info type

end Offers

/-- The console offers the types of a schema if and only if none is without a body. -/
theorem offers_types (decl : SchemaDecl) (source : String)
    (written : decl.WrittenAs isSkipped source) :
    OffersTypes decl source ↔ ∀ type ∈ decl.types, type.isBlock = true := by
  constructor
  · intro offers
    have same : decl.blocks.map TypeDecl.relationInfo = decl.types.map TypeDecl.relationInfo :=
      (parseSchemaTypes_written written).symm.trans offers.tuples
    -- As many have a body as there are.
    have count := congrArg List.length same
    rw [List.length_map, List.length_map] at count
    exact List.length_filter_eq_length_iff.mp count
  · intro bodies
    -- All that is declared is read.
    have same : decl.blocks = decl.types := List.filter_eq_self.mpr bodies
    exact
      { tuples := by rw [parseSchemaTypes_written written, same]
        graph := by rw [parseTypes_written written, same]
        evaluator := by rw [parseSchemaTypeInfos_written written, same] }

/-- The minimal example is written in the layout. -/
theorem minimalDecl_skipped : minimalDecl.WrittenAs isSkipped minimalSource := by
  rw [SchemaDecl.WrittenAs, minimalSource, splitLines_ofList]
  decide

theorem offers_types_minimal :
    OffersTypes minimalDecl minimalSource ↔ ∀ type ∈ minimalDecl.types, type.isBlock = true :=
  offers_types minimalDecl minimalSource minimalDecl_skipped

/-- The type `user` of the minimal example is not offered. -/
theorem offers_types_minimal_user :
    ¬ ∀ (decl : SchemaDecl) (source : String), decl.WrittenAs isSkipped source →
      OffersTypes decl source := by
  intro offers
  have offered := offers minimalDecl minimalSource minimalDecl_skipped
  have blocks : minimalDecl.blocks.map TypeDecl.relationInfo =
      minimalDecl.types.map TypeDecl.relationInfo :=
    (parseSchemaTypes_written minimalDecl_skipped).symm.trans offered.tuples
  have count := congrArg List.length blocks
  -- One of the two types has a body.
  rw [List.length_map, List.length_map] at count
  exact absurd count (by decide)

end ZanGuard.Console
