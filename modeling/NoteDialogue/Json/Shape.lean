import NoteDialogue.Json.Record

/-!
# Shapes of JSON values

A shape says which values a format admits where their content does not matter to the reader.
-/

set_option autoImplicit false

namespace NoteDialogue.Json

/-- What a value may look like. -/
inductive Shape
  | text
  /-- One of some names without data. -/
  | name (names : List String)
  /-- A natural number up to a limit. -/
  | natural (limit : Nat)
  /-- A number in single precision. -/
  | single
  /-- A value that may be missing or `null`. -/
  | possible (shape : Shape)
  | list (item : Shape)
  /-- A record with these fields. -/
  | record (fields : List (String × Shape))
  deriving Repr, Inhabited

mutual

/-- Whether a value that is there has a shape. -/
def fits : Shape → Json → Bool
  | .text, json => json.text?.isSome
  | .name names, json => (json.nameOf? (fun name => names.find? (· == name))).isSome
  | .natural limit, json => (json.word?.filter (· ≤ limit)).isSome
  | .single, json => json.single?.isSome
  | .possible _, .null => true
  | .possible shape, json => fits shape json
  | .list item, .list items => items.all (fits item)
  | .list _, _ => false
  | .record fields, json =>
      match record? (fields.map (fun field => Field.plain field.1)) json with
      | some values => fitFields fields values
      | none => false

/-- Whether the values of some fields have their shapes; only a value that may be missing may be. -/
def fitFields : List (String × Shape) → List (Option Json) → Bool
  | [], [] => true
  | (_, shape) :: fields, some value :: values => fits shape value && fitFields fields values
  | (_, .possible _) :: fields, none :: values => fitFields fields values
  | _, _ => false

end

/-- A value with a shape. -/
def fitting? (shape : Shape) (json : Json) : Option Json :=
  if fits shape json then some json else none

end NoteDialogue.Json
