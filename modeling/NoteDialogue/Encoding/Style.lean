import NoteDialogue.Json.Record
import NoteDialogue.Style

/-!
# Styles in JSON
-/

set_option autoImplicit false

namespace NoteDialogue.Style

/-- The fields of a style. -/
def fields : List Json.Field :=
  [.plain "key", .plain "name", .plain "systemPrompt", .withDefault "modelOverride"]

/-- A style from its JSON form. -/
def ofJson? (json : Json) : Option Style :=
  match Json.record? fields json with
  | some [key, name, systemPrompt, modelOverride] => do
      let key ← Json.required Json.text? key
      let name ← Json.required Json.text? name
      let systemPrompt ← Json.required Json.text? systemPrompt
      let modelOverride ← Json.possible Json.text? modelOverride
      some { key, name, systemPrompt, modelOverride }
  | _ => none

/-- The JSON form of a style. -/
def toJson (style : Style) : Json :=
  .ofMembers [("key", .str style.key), ("name", .str style.name),
    ("systemPrompt", .str style.systemPrompt),
    ("modelOverride", .optional .str style.modelOverride)]

end NoteDialogue.Style
