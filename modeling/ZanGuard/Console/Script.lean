import Mathlib.Data.List.DropRight
import ZanGuard.Model.Basic

/-! What the console uses of its language: white space, lines, records and JSON values. -/

namespace ZanGuard.Console

/-- White space and line ends, as `trim` knows them. -/
def isSpace (c : Char) : Bool :=
  [0x9, 0xA, 0xB, 0xC, 0xD, 0x20, 0xA0, 0x1680, 0x2000, 0x2001, 0x2002, 0x2003, 0x2004, 0x2005,
    0x2006, 0x2007, 0x2008, 0x2009, 0x200A, 0x2028, 0x2029, 0x202F, 0x205F, 0x3000,
    0xFEFF].contains c.toNat

/-- `s.trimStart()`, on the characters. -/
def trimStart (s : List Char) : List Char :=
  s.dropWhile isSpace

/-- `s.trimEnd()`, on the characters. -/
def trimEnd (s : List Char) : List Char :=
  s.rdropWhile isSpace

/-- `s.trim()`, on the characters. -/
def trim (s : List Char) : List Char :=
  trimEnd (trimStart s)

/-- How far a line is indented, counting white space of any kind. -/
def indentOf (line : List Char) : Nat :=
  line.length - (trimStart line).length

/-- `source.split("\n")`, each line as its characters. -/
def splitLines (source : String) : List (List Char) :=
  source.toList.splitOn '\n'

/-- A text that is given by its characters is split as these are. -/
theorem splitLines_ofList (chars : List Char) : splitLines (.ofList chars) = chars.splitOn '\n' := by
  rw [splitLines, String.toList_ofList]

/-- `s.endsWith(":")`. -/
def endsWithColon (s : List Char) : Bool :=
  s.getLast? == some ':'

/-- A quotation mark of either kind. -/
def isQuote (c : Char) : Bool :=
  c == '\'' || c == '"'

/-- An assignment `record[key] = value` to an object that was written as a literal. -/
def setKey {α : Type} (record : StringMap α) (key : String) (value : α) : StringMap α :=
  -- This one key sets the prototype of the object, and no property of its own.
  if key = "__proto__" then record else record.insert key value

/-- A JSON value, with the strings apart from all others. -/
inductive JsonValue (V : Type) where
  | string (text : String)
  | other (value : V)
  deriving DecidableEq

/-- `JSON.parse`, which throws on a text that is no JSON, and `JSON.stringify`. -/
structure JsonCodec (V : Type) where
  parse : String → Option (JsonValue V)
  stringify : JsonValue V → String
  inverts : ∀ value, parse (stringify value) = some value

section Records

variable {α : Type}

/-- An assignment is read back, unless its key is the one that sets the prototype. -/
theorem lookup_setKey_same {record : StringMap α} {key : String} (value : α)
    (own : key ≠ "__proto__") : (setKey record key value).lookup key = some value := by
  rw [setKey, if_neg own, AList.lookup_insert]

/-- An assignment leaves the other properties alone. -/
theorem lookup_setKey_ne {record : StringMap α} {key other : String} (value : α)
    (apart : other ≠ key) : (setKey record key value).lookup other = record.lookup other := by
  unfold setKey
  split
  · rfl
  · exact AList.lookup_insert_ne apart

/-- No object is ever given a property under the key that sets the prototype. -/
theorem lookup_setKey_proto (record : StringMap α) (key : String) (value : α) :
    (setKey record key value).lookup "__proto__" = record.lookup "__proto__" := by
  -- Either the assignment is this one, or it is to another key.
  by_cases same : key = "__proto__"
  · rw [setKey, if_pos same]
  · exact lookup_setKey_ne value (Ne.symm same)

/-- Assignments in a row, from an object on. -/
def setKeys (record : StringMap α) (assignments : List (String × α)) : StringMap α :=
  assignments.foldl (fun record assignment => setKey record assignment.1 assignment.2) record

theorem setKeys_append (record : StringMap α) (first rest : List (String × α)) :
    setKeys record (first ++ rest) = setKeys (setKeys record first) rest :=
  List.foldl_append

/-- A key that is not assigned reads as it did before. -/
theorem lookup_setKeys_absent {record : StringMap α} {assignments : List (String × α)}
    {key : String} (absent : key ∉ assignments.map Prod.fst) :
    (setKeys record assignments).lookup key = record.lookup key := by
  -- By induction on the assignments, from whatever object they have reached.
  induction assignments generalizing record with
  | nil => rfl
  | cons first rest ih =>
    obtain ⟨apart, later⟩ := not_or.mp (fun among => absent (List.mem_cons.mpr among))
    exact (ih later).trans (lookup_setKey_ne first.2 apart)

/-- The key that sets the prototype reads as it did before. -/
theorem lookup_setKeys_proto (record : StringMap α) (assignments : List (String × α)) :
    (setKeys record assignments).lookup "__proto__" = record.lookup "__proto__" := by
  induction assignments generalizing record with
  | nil => rfl
  | cons first rest ih => exact (ih _).trans (lookup_setKey_proto record first.1 first.2)

/-- An assignment to a key of its own is read back after all of them. -/
theorem lookup_setKeys_mem {record : StringMap α} {assignments : List (String × α)}
    {key : String} {value : α} (apart : (assignments.map Prod.fst).Nodup)
    (member : (key, value) ∈ assignments) (own : key ≠ "__proto__") :
    (setKeys record assignments).lookup key = some value := by
  induction assignments generalizing record with
  | nil => cases member
  | cons first rest ih =>
    obtain ⟨unique, later⟩ := List.nodup_cons.mp apart
    rcases List.mem_cons.mp member with rfl | member
    · -- None of the later assignments has its key.
      exact (lookup_setKeys_absent unique).trans (lookup_setKey_same value own)
    · exact ih later member

end Records

end ZanGuard.Console
