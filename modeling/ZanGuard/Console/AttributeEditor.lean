import ZanGuard.Console.Script

/-! The attribute editor: one line of text for each attribute, and what saving makes of them. -/

namespace ZanGuard.Console

variable {V : Type}

/-- One line of the editor. -/
structure Entry where
  key : String
  value : String
  deriving DecidableEq

/-- A string is shown as it stands, and any other value as its JSON text. -/
def shownValue (json : JsonCodec V) (value : JsonValue V) : String :=
  match value with
  | .string text => text
  | .other _ => json.stringify value

/-- The lines an editor starts with. -/
def initialEntries (json : JsonCodec V) (attributes : StringMap (JsonValue V)) : List Entry :=
  attributes.entries.map fun ⟨key, value⟩ => { key, value := shownValue json value }

/-- The two fields of a line. -/
inductive EntryField where
  | key
  | value
  deriving DecidableEq

/-- What the user can do to the lines. -/
inductive Edit where
  | addEntry
  | removeEntry (index : Nat)
  | updateEntry (index : Nat) (field : EntryField) (val : String)
  deriving DecidableEq

/-- Change the lines as the user did. -/
def Edit.apply (entries : List Entry) : Edit → List Entry
  | .addEntry => entries ++ [{ key := "", value := "" }]
  | .removeEntry index => entries.eraseIdx index
  | .updateEntry index field val =>
    entries.modify index fun entry =>
      match field with
      | .key => { entry with key := val }
      | .value => { entry with value := val }

/-- What a line's text is saved as: what it says as JSON, and else the text itself. -/
def savedValue (json : JsonCodec V) (text : String) : JsonValue V :=
  match json.parse text with
  -- A text that is JSON is taken for the value it says, also where it was shown for a string.
  | some value => value
  | none => .string text

/-- The key of a line, without the white space around it. -/
def Entry.trimmedKey (entry : Entry) : String :=
  .ofList (trim entry.key.toList)

/-- The attributes that the lines are saved as. -/
def handleSave (json : JsonCodec V) (entries : List Entry) : StringMap (JsonValue V) :=
  entries.foldl (fun attrs entry =>
    -- A line without a key is left out.
    if entry.trimmedKey = "" then attrs
    else setKey attrs entry.trimmedKey (savedValue json entry.value)) ∅

end ZanGuard.Console
