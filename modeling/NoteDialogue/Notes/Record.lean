import NoteDialogue.Encoding.Name
import NoteDialogue.Encoding.Style
import NoteDialogue.Failure
import NoteDialogue.Json.Reader
import NoteDialogue.Note

/-!
# Files of notes and styles

Notes and styles are read from files with a JSON list of records.  A record of a note may do without an
identifier and a time, which are then supplied; it must name an owner.  A style must have a key.
-/

set_option autoImplicit false

namespace NoteDialogue

/-- A note as a file holds it. -/
structure NoteRecord where
  id : Option String
  ownerId : String
  title : String
  content : String
  notebook : Option String
  updatedAt : Option Timestamp
  deriving DecidableEq, Repr, Inhabited

namespace NoteRecord

/-- The fields of a record. -/
def fields : List Json.Field :=
  [.withDefault "id", .plain "ownerId", .plain "title", { names := ["content", "plainContent"] },
    .withDefault "notebook", .withDefault "updatedAt"]

/-- A record from its JSON form. -/
def ofJson? (json : Json) : Option NoteRecord :=
  match Json.record? fields json with
  | some [id, ownerId, title, content, notebook, updatedAt] => do
      let id ← Json.possible Json.text? id
      let ownerId ← Json.required Json.text? ownerId
      let title ← Json.required Json.text? title
      let content ← Json.required Json.text? content
      let notebook ← Json.possible Json.text? notebook
      let updatedAt ← Json.possible Timestamp.ofJson? updatedAt
      some { id, ownerId, title, content, notebook, updatedAt }
  | _ => none

/-- The identifier of a record, unless it is blank. -/
def givenId? (record : NoteRecord) : Option String :=
  record.id.filter (fun id => !Text.isBlankText id)

/-- The note of a record, with what is supplied where the record has no identifier or time. -/
def toNote (record : NoteRecord) (freshId : String) (now : Timestamp) : Note :=
  { id := record.givenId?.getD freshId, ownerId := record.ownerId, title := record.title,
    plainContent := record.content, notebook := record.notebook,
    updatedAt := record.updatedAt.getD now }

/-- The failure of a record without an owner. -/
def missingOwner (path : String) (record : NoteRecord) : Failure :=
  .validation ("Note '" ++ record.title ++ "' in " ++ path ++ " has no ownerId")

/-- The records in the content of a file. -/
def readAll (path content : String) : Except Failure (List NoteRecord) :=
  match (Json.ofText? content).bind (Json.listOf? ofJson?) with
  | none => .error (.json "no list of notes")
  | some records =>
      match records.find? (fun record => Text.isBlankText record.ownerId) with
      | some record => .error (missingOwner path record)
      | none => .ok records

end NoteRecord

namespace Style

/-- The styles in the content of a file. -/
def readAll (content : String) : Except Failure (List Style) :=
  match (Json.ofText? content).bind (Json.listOf? ofJson?) with
  | none => .error (.json "no list of styles")
  | some styles =>
      if styles.any (fun style => Text.isBlankText style.key) then
        .error (.validation "Style with empty key")
      else .ok styles

end Style

end NoteDialogue
