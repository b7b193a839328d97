import ZanGuard.Console.AttributeEditor

/-! Which attributes an editor saves as they were when nobody edits them. -/

namespace ZanGuard.Console

variable {V : Type}

/-- A text that is no JSON, or reads as the string it is. -/
def JsonCodec.Keeps (json : JsonCodec V) (text : String) : Prop :=
  json.parse text = none ∨ json.parse text = some (.string text)

/-- The keys the editor is made for: not empty, and with no white space around them. -/
def TrimmedKeys (attributes : StringMap (JsonValue V)) : Prop :=
  ∀ key ∈ attributes, key ≠ "" ∧ trim key.toList = key.toList

/-- A value is saved as it was shown unless it is a string that reads as something else. -/
theorem savedValue_shownValue (json : JsonCodec V) (value : JsonValue V) :
    savedValue json (shownValue json value) = value ↔
      ∀ text, value = .string text → json.Keeps text := by
  cases value with
  | other value =>
    -- What was written as JSON is read back.
    have back : savedValue json (shownValue json (.other value)) = .other value := by
      simp only [shownValue, savedValue, json.inverts]
    refine ⟨fun _ text same => ?_, fun _ => back⟩
    cases same
  | string text =>
    -- A string is shown raw, so it comes back unless parsing makes something of it.
    simp only [shownValue, savedValue, JsonCodec.Keeps]
    cases read : json.parse text with
    | none =>
      refine ⟨?_, fun _ => rfl⟩
      rintro - other same
      obtain rfl := JsonValue.string.inj same
      exact .inl read
    | some value =>
      constructor
      · rintro rfl other same
        obtain rfl := JsonValue.string.inj same
        exact .inr read
      · intro keeps
        rcases keeps text rfl with missed | kept
        · rw [read] at missed
          cases missed
        · rw [read] at kept
          exact Option.some.inj kept

/-- Saving assigns the lines that have a key, one after the other. -/
theorem handleSave_eq_setKeys (json : JsonCodec V) (entries : List Entry)
    (record : StringMap (JsonValue V)) (keyed : ∀ entry ∈ entries, entry.trimmedKey ≠ "") :
    entries.foldl (fun attrs entry =>
      if entry.trimmedKey = "" then attrs
      else setKey attrs entry.trimmedKey (savedValue json entry.value)) record =
    setKeys record (entries.map fun entry => (entry.trimmedKey, savedValue json entry.value)) := by
  -- By induction on the lines, each of which makes one assignment.
  induction entries generalizing record with
  | nil => rfl
  | cons entry rest ih =>
    rw [List.foldl_cons, if_neg (keyed entry List.mem_cons_self)]
    exact ih _ fun other member => keyed other (List.mem_cons_of_mem _ member)

/-- Saving what nobody has edited assigns every attribute the value its line reads as. -/
theorem handleSave_initialEntries (json : JsonCodec V) {attributes : StringMap (JsonValue V)}
    (trimmed : TrimmedKeys attributes) :
    handleSave json (initialEntries json attributes) =
      setKeys ∅ (attributes.entries.map fun pair =>
        (pair.1, savedValue json (shownValue json pair.2))) := by
  -- Trimming leaves the key of each line as it is.
  have same : ∀ pair ∈ attributes.entries,
      Entry.trimmedKey ⟨pair.1, shownValue json pair.2⟩ = pair.1 := by
    intro pair member
    rw [Entry.trimmedKey, (trimmed pair.1 (List.mem_map_of_mem member)).2,
      String.ofList_toList]
  rw [handleSave, handleSave_eq_setKeys]
  · rw [initialEntries, List.map_map]
    congr 1
    refine List.map_congr_left fun pair member => ?_
    exact Prod.ext (same pair member) rfl
  · -- No key is empty.
    intro entry line
    obtain ⟨pair, member, rfl⟩ := List.mem_map.mp line
    rw [same pair member]
    exact (trimmed pair.1 (List.mem_map_of_mem member)).1

/-- An attribute that nobody edited is saved as the value its line reads as. -/
theorem handleSave_lookup (json : JsonCodec V) {attributes : StringMap (JsonValue V)}
    (trimmed : TrimmedKeys attributes) {key : String} (own : key ≠ "__proto__") :
    (handleSave json (initialEntries json attributes)).lookup key =
      (attributes.lookup key).map fun value => savedValue json (shownValue json value) := by
  rw [handleSave_initialEntries json trimmed]
  cases found : attributes.lookup key with
  | none =>
    -- A key that is not there gets no line, and so no assignment.
    have absent : key ∉ attributes.entries.map Sigma.fst := AList.lookup_eq_none.mp found
    rw [lookup_setKeys_absent (by rwa [List.map_map])]
    rfl
  | some value =>
    refine lookup_setKeys_mem ?_ ?_ own
    · rw [List.map_map]
      exact attributes.nodupKeys
    · exact List.mem_map_of_mem (AList.mem_lookup_iff.mp found)

/--
Saving what nobody has edited changes nothing, exactly when every string is kept.

A string that is the text of a number or a truth value is saved as that value, and an attribute
under the key that sets the prototype is not saved at all.
-/
theorem save_unedited (json : JsonCodec V) (attributes : StringMap (JsonValue V))
    (trimmed : TrimmedKeys attributes) :
    (∀ key, (handleSave json (initialEntries json attributes)).lookup key =
        attributes.lookup key) ↔
      (∀ key text, attributes.lookup key = some (.string text) → json.Keeps text) ∧
        "__proto__" ∉ attributes := by
  constructor
  · intro unchanged
    -- Nothing is saved under the prototype's key, so nothing was there.
    have proto : "__proto__" ∉ attributes := by
      rw [← AList.lookup_eq_none, ← unchanged, handleSave_initialEntries json trimmed,
        lookup_setKeys_proto]
      rfl
    refine ⟨fun key text found => ?_, proto⟩
    have own : key ≠ "__proto__" := by
      rintro rfl
      exact proto (AList.lookup_isSome.mp (by rw [found]; rfl))
    have saved := handleSave_lookup json trimmed own
    rw [unchanged, found] at saved
    exact (savedValue_shownValue json _).mp (Option.some.inj saved).symm text rfl
  · rintro ⟨keeps, proto⟩ key
    by_cases own : key = "__proto__"
    · -- Nothing is there, before and after.
      subst own
      rw [handleSave_initialEntries json trimmed, lookup_setKeys_proto,
        AList.lookup_eq_none.mpr proto]
      rfl
    · rw [handleSave_lookup json trimmed own]
      cases found : attributes.lookup key with
      | none => rfl
      | some value =>
        refine congrArg some ((savedValue_shownValue json value).mpr ?_)
        rintro text rfl
        exact keeps key text found

/-- JSON with no values but strings and truth values. -/
def truthCodec : JsonCodec Bool where
  parse text :=
    if text = "true" then some (.other true)
    else if text = "false" then some (.other false)
    else match text.toList with
      | '"' :: quoted =>
        if quoted.getLast? = some '"' then some (.string (.ofList quoted.dropLast)) else none
      | _ => none
  stringify
    | .other true => "true"
    | .other false => "false"
    | .string text => .ofList ('"' :: text.toList ++ ['"'])
  inverts value := by
    cases value with
    | other truth => cases truth <;> rfl
    | string text =>
      -- A quoted text is neither of the two words.
      have quoted : ∀ word : String, word.toList.head? ≠ some '"' →
          String.ofList ('"' :: text.toList ++ ['"']) ≠ word := by
        rintro word starts rfl
        exact starts (by simp)
      rw [if_neg (quoted "true" (by decide)), if_neg (quoted "false" (by decide))]
      simp

/-- Attributes in which a truth value was stored as a string. -/
def verifiedAttributes : StringMap (JsonValue Bool) :=
  AList.singleton "verified" (.string "true")

/-- The keys of these attributes are trimmed. -/
theorem verifiedAttributes_trimmed : TrimmedKeys verifiedAttributes := by
  intro key member
  obtain rfl : key = "verified" := List.mem_singleton.mp member
  decide

/-- Whether a truth value that was stored as a string is saved as one. -/
theorem save_unedited_verified :
    (∀ key, (handleSave truthCodec (initialEntries truthCodec verifiedAttributes)).lookup key =
        verifiedAttributes.lookup key) ↔
      (∀ key text, verifiedAttributes.lookup key = some (.string text) → truthCodec.Keeps text) ∧
        "__proto__" ∉ verifiedAttributes :=
  save_unedited truthCodec verifiedAttributes verifiedAttributes_trimmed

/-- A string that says `true` is saved as a truth value. -/
theorem save_unedited_retyped :
    ¬ ∀ (json : JsonCodec Bool) (attributes : StringMap (JsonValue Bool)),
      TrimmedKeys attributes →
        ∀ key, (handleSave json (initialEntries json attributes)).lookup key =
          attributes.lookup key := by
  intro unchanged
  have same := unchanged truthCodec verifiedAttributes verifiedAttributes_trimmed "verified"
  -- The value under the key was a string before, and is a truth value after.
  revert same
  decide

end ZanGuard.Console
