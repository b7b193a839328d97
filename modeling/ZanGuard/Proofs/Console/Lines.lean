import ZanGuard.Spec.SchemaLayout

/-! How the lines of the two-space block layout look to a reader that trims them. -/

namespace ZanGuard.Console

/-- A text that does not start with white space. -/
def Starts (text : List Char) : Prop :=
  ∃ c rest, text = c :: rest ∧ isSpace c = false

/-- A text that does not end in white space. -/
def Ends (text : List Char) : Prop :=
  ∃ front c, text = front ++ [c] ∧ isSpace c = false

section Texts

variable {text more : List Char}

theorem Starts.append (starts : Starts text) (more : List Char) : Starts (text ++ more) := by
  obtain ⟨c, rest, rfl, plain⟩ := starts
  exact ⟨c, rest ++ more, rfl, plain⟩

theorem Ends.append (text : List Char) (ends : Ends more) : Ends (text ++ more) := by
  obtain ⟨front, c, rfl, plain⟩ := ends
  exact ⟨text ++ front, c, (List.append_assoc _ _ _).symm, plain⟩

/-- White space in front of a text is its indentation. -/
theorem trimStart_indented (starts : Starts text) (depth : Nat) :
    trimStart (indented depth text) = text := by
  obtain ⟨c, rest, rfl, plain⟩ := starts
  rw [trimStart, indented, List.dropWhile_append_of_pos,
    List.dropWhile_cons_of_neg (by simp [plain])]
  -- Blanks are white space.
  intro blank member
  rw [List.eq_of_mem_replicate member]
  rfl

theorem trimEnd_self (ends : Ends text) : trimEnd text = text := by
  obtain ⟨front, c, rfl, plain⟩ := ends
  exact List.rdropWhile_concat_neg _ _ _ (by simp [plain])

theorem trimEnd_indented (ends : Ends text) (depth : Nat) :
    trimEnd (indented depth text) = indented depth text :=
  trimEnd_self (ends.append _)

/-- An indented text trims to the text. -/
theorem trim_indented (starts : Starts text) (ends : Ends text) (depth : Nat) :
    trim (indented depth text) = text := by
  rw [trim, trimStart_indented starts, trimEnd_self ends]

/-- A text without white space around it trims to itself. -/
theorem trim_self (starts : Starts text) (ends : Ends text) : trim text = text :=
  trim_indented starts ends 0

/-- The indentation of a line is the number of its blanks in front. -/
theorem indentOf_indented (starts : Starts text) (depth : Nat) :
    indentOf (indented depth text) = depth := by
  rw [indentOf, trimStart_indented starts, indented, List.length_append, List.length_replicate,
    Nat.add_sub_cancel]

theorem endsWithColon_append_colon (text : List Char) : endsWithColon (text ++ [':']) = true := by
  simp [endsWithColon]

end Texts

section Names

variable (plain : Plain)

/-- A name starts with something other than white space, and no comment. -/
theorem Plain.chars_starts : ∃ c rest, plain.chars = c :: rest ∧ isSpace c = false ∧ c ≠ '#' := by
  have starts := plain.starts
  -- An empty text has no first character to be tested.
  cases shape : plain.chars with
  | nil => rw [shape] at starts; cases starts
  | cons c rest =>
    rw [shape] at starts
    refine ⟨c, rest, rfl, ?_⟩
    simpa using starts

theorem Plain.startsPlain : Starts plain.chars := by
  obtain ⟨c, rest, shape, space, -⟩ := plain.chars_starts
  exact ⟨c, rest, shape, space⟩

theorem Plain.endsPlain : Ends plain.chars := by
  have ends := plain.ends
  rcases List.eq_nil_or_concat plain.chars with shape | ⟨front, c, shape⟩
  · rw [shape] at ends
    cases ends
  · rw [shape] at ends
    exact ⟨front, c, by simpa using shape, by simpa using ends⟩

theorem Plain.chars_ne_nil : plain.chars ≠ [] := by
  obtain ⟨c, rest, shape, -⟩ := plain.chars_starts
  rw [shape]
  exact List.cons_ne_nil c rest

theorem Plain.text_ne_empty : plain.text ≠ "" := by
  intro empty
  have chars := congrArg String.toList empty
  rw [Plain.text, String.toList_ofList] at chars
  exact plain.chars_ne_nil chars

theorem Plain.trim_chars : trim plain.chars = plain.chars :=
  trim_self plain.startsPlain plain.endsPlain

theorem ends_colon (name : List Char) : Ends (name ++ [':']) :=
  ⟨name, ':', rfl, rfl⟩

/-- A type without a body. -/
theorem ends_emptyBody (name : List Char) : Ends (name ++ ": {}".toList) :=
  Ends.append name ⟨": \x7b".toList, '}', by simp, rfl⟩

theorem endsWithColon_emptyBody (name : List Char) :
    endsWithColon (name ++ ": {}".toList) = false := by
  simp [endsWithColon]

/-- A reference is written without white space around it, quoted or not. -/
theorem TypeRef.ends_written (ref : TypeRef) : Ends ref.written := by
  -- Quoted, it ends in the mark, and unquoted as the name does.
  rcases ref.quoting with none | single | double
  · rw [TypeRef.written, none, List.append_nil]
    exact ref.endsPlain
  · exact ⟨ref.quote ++ ref.chars, '\'', by rw [TypeRef.written, single], rfl⟩
  · exact ⟨ref.quote ++ ref.chars, '"', by rw [TypeRef.written, double], rfl⟩

theorem TypeRef.starts_written (ref : TypeRef) : Starts ref.written := by
  rcases ref.quoting with none | single | double
  · rw [TypeRef.written, none]
    exact ref.startsPlain.append []
  · exact ⟨'\'', ref.chars ++ ref.quote, by rw [TypeRef.written, single]; rfl, rfl⟩
  · exact ⟨'"', ref.chars ++ ref.quote, by rw [TypeRef.written, double]; rfl, rfl⟩

end Names

/-- A line below the header of a section. -/
def Deep (line : List Char) : Prop :=
  ∃ depth text, (depth = 6 ∨ depth = 8 ∨ depth = 10) ∧ Starts text ∧ Ends text ∧
    line = indented depth text

section Lines

theorem AttributeDecl.line_deep (decl : AttributeDecl) : Deep decl.line := by
  refine ⟨6, _, .inl rfl, ?_, ?_, rfl⟩
  · rw [List.append_assoc]
    exact decl.name.startsPlain.append _
  · exact Ends.append _ decl.type.endsPlain

theorem starts_types : Starts "types".toList :=
  ⟨'t', "ypes".toList, by simp, rfl⟩

theorem starts_attributes : Starts "attributes".toList :=
  ⟨'a', "ttributes".toList, by simp, rfl⟩

theorem ends_attributes : Ends "attributes".toList :=
  ⟨"attribute".toList, 's', by simp, rfl⟩

theorem starts_relations : Starts "relations".toList :=
  ⟨'r', "elations".toList, by simp, rfl⟩

theorem ends_relations : Ends "relations".toList :=
  ⟨"relation".toList, 's', by simp, rfl⟩

theorem starts_permissions : Starts "permissions".toList :=
  ⟨'p', "ermissions".toList, by simp, rfl⟩

theorem ends_permissions : Ends "permissions".toList :=
  ⟨"permission".toList, 's', by simp, rfl⟩

theorem starts_dash (more : List Char) : Starts (['-', ' '] ++ more) :=
  ⟨'-', ' ' :: more, rfl, rfl⟩

theorem starts_bracketed (types : List TypeRef) : Starts (bracketed types) :=
  ⟨'[', _, rfl, rfl⟩

theorem ends_bracketed (types : List TypeRef) : Ends (bracketed types) :=
  Ends.append ['['] (Ends.append _ ⟨[], ']', rfl, rfl⟩)

theorem starts_inlineTypes (types : List TypeRef) : Starts (inlineTypes types) := by
  refine Starts.append ⟨'t', "ypes:".toList, ?_, rfl⟩ _
  simp

theorem ends_inlineTypes (types : List TypeRef) : Ends (inlineTypes types) :=
  Ends.append _ (Ends.append _ (ends_bracketed types))

/-- The header of an entry. -/
theorem header_deep (plain : Plain) : Deep (header 6 plain.chars) :=
  ⟨6, _, .inl rfl, plain.startsPlain.append _, ends_colon _, rfl⟩

/-- The line that opens a list of types. -/
theorem types_deep : Deep (header 8 "types".toList) :=
  ⟨8, "types".toList ++ [':'], .inr (.inl rfl), starts_types.append _, ends_colon _,
    by rw [header]⟩

theorem RelationDecl.lines_deep (decl : RelationDecl) : ∀ line ∈ decl.lines, Deep line := by
  intro line member
  rw [RelationDecl.lines] at member
  rcases List.mem_cons.mp member with rfl | member
  · exact header_deep decl.name
  · cases form : decl.inline with
    | true =>
      -- One line holds all the types.
      rw [if_pos form] at member
      rw [List.mem_singleton.mp member]
      exact ⟨8, inlineTypes decl.types, .inr (.inl rfl), starts_inlineTypes _, ends_inlineTypes _,
        rfl⟩
    | false =>
      rw [if_neg (by simp [form])] at member
      rcases List.mem_cons.mp member with rfl | member
      · exact types_deep
      · obtain ⟨ref, -, rfl⟩ := List.mem_map.mp member
        exact ⟨10, ['-', ' '] ++ ref.written, .inr (.inr rfl), starts_dash _,
          Ends.append _ ref.ends_written, rfl⟩

theorem BodyLine.line_deep (body : BodyLine) : Deep body.line := by
  refine ⟨_, _, ?_, body.text.startsPlain, body.text.endsPlain, rfl⟩
  -- Both depths are below the header.
  cases body.deep
  · exact .inr (.inl rfl)
  · exact .inr (.inr rfl)

theorem PermissionDecl.lines_deep (decl : PermissionDecl) : ∀ line ∈ decl.lines, Deep line := by
  -- The header of the permission, and then its body.
  rintro line (_ | ⟨_, member⟩)
  · exact header_deep decl.name
  · obtain ⟨body, -, rfl⟩ := List.mem_map.mp member
    exact body.line_deep

/-- The name of a section, as its header has it. -/
def SectionDecl.title : SectionDecl → List Char
  | .attributes _ => "attributes".toList
  | .relations _ => "relations".toList
  | .permissions _ => "permissions".toList

/-- The lines below the header of a section. -/
def SectionDecl.entryLines : SectionDecl → List (List Char)
  | .attributes entries => entries.map AttributeDecl.line
  | .relations entries => entries.flatMap RelationDecl.lines
  | .permissions entries => entries.flatMap PermissionDecl.lines

theorem SectionDecl.lines_eq (decl : SectionDecl) :
    decl.lines = header 4 decl.title :: decl.entryLines := by
  cases decl <;> rfl

theorem SectionDecl.starts_title (decl : SectionDecl) : Starts decl.title := by
  cases decl with
  | attributes entries => exact starts_attributes
  | relations entries => exact starts_relations
  | permissions entries => exact starts_permissions

theorem SectionDecl.ends_title (decl : SectionDecl) : Ends decl.title := by
  cases decl with
  | attributes entries => exact ends_attributes
  | relations entries => exact ends_relations
  | permissions entries => exact ends_permissions

/-- The entries of a section stand below its header, whatever they declare. -/
theorem SectionDecl.entryLines_deep (decl : SectionDecl) : ∀ line ∈ decl.entryLines, Deep line := by
  intro line member
  cases decl with
  | attributes entries =>
    obtain ⟨decl, -, rfl⟩ := List.mem_map.mp member
    exact decl.line_deep
  | relations entries =>
    obtain ⟨decl, -, member⟩ := List.mem_flatMap.mp member
    exact decl.lines_deep line member
  | permissions entries =>
    obtain ⟨decl, -, member⟩ := List.mem_flatMap.mp member
    exact decl.lines_deep line member

/-- Lines that a reader passes over may be left out. -/
theorem foldl_silent {σ : Type} {step : σ → List Char → σ} {silent : List Char → Bool}
    (passes : ∀ st line, silent line = true → step st line = st) (lines : List (List Char))
    (st : σ) : lines.foldl step st = (lines.filter fun line => !silent line).foldl step st := by
  -- By induction on the lines, whatever was read before.
  induction lines generalizing st with
  | nil => rfl
  | cons line rest ih =>
    cases said : silent line with
    | true =>
      rw [List.filter_cons_of_neg (by simp [said]), List.foldl_cons, passes st line said]
      exact ih st
    | false =>
      rw [List.filter_cons_of_pos (by simp [said]), List.foldl_cons, List.foldl_cons]
      exact ih _

end Lines

end ZanGuard.Console
