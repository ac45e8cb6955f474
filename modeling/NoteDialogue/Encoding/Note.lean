import NoteDialogue.Encoding.Name
import NoteDialogue.Note

/-!
# Notes in JSON

Notes, documents, hits and citations.  A score that is not finite is written as `null`.
-/

set_option autoImplicit false

namespace NoteDialogue

namespace Note

/-- The fields of a note. -/
def fields : List Json.Field :=
  [.plain "id", .plain "owner_id", .plain "title", .plain "plain_content", .plain "notebook",
    .plain "updated_at"]

/-- A note from its JSON form. -/
def ofJson? (json : Json) : Option Note :=
  match Json.record? fields json with
  | some [id, ownerId, title, plainContent, notebook, updatedAt] => do
      let id ← Json.required Json.text? id
      let ownerId ← Json.required Json.text? ownerId
      let title ← Json.required Json.text? title
      let plainContent ← Json.required Json.text? plainContent
      let notebook ← Json.possible Json.text? notebook
      let updatedAt ← Json.required Timestamp.ofJson? updatedAt
      some { id, ownerId, title, plainContent, notebook, updatedAt }
  | _ => none

/-- The JSON form of a note. -/
def toJson (note : Note) : Json :=
  .ofMembers [("id", .str note.id), ("owner_id", .str note.ownerId), ("title", .str note.title),
    ("plain_content", .str note.plainContent), ("notebook", .optional .str note.notebook),
    ("updated_at", note.updatedAt.toJson)]

end Note

namespace Document

/-- The fields of a document. -/
def fields : List Json.Field :=
  [.plain "id", .plain "title", .plain "plain_content", .plain "notebook",
    .plain "relevance_score"]

/-- A document from its JSON form. -/
def ofJson? (json : Json) : Option Document :=
  match Json.record? fields json with
  | some [id, title, plainContent, notebook, relevance] => do
      let id ← Json.required Json.text? id
      let title ← Json.required Json.text? title
      let plainContent ← Json.required Json.text? plainContent
      let notebook ← Json.possible Json.text? notebook
      let relevance ← Json.possible Json.single? relevance
      some { id, title, plainContent, notebook, relevance }
  | _ => none

/-- The members of the JSON form of a document. -/
def members (document : Document) : List (String × Json) :=
  [("id", .str document.id), ("title", .str document.title),
    ("plain_content", .str document.plainContent), ("notebook", .optional .str document.notebook),
    ("relevance_score", .optional .single document.relevance)]

/-- The JSON form of a document. -/
def toJson (document : Document) : Json :=
  .ofMembers document.members

end Document

namespace ChunkHit

/-- A hit from its JSON form. -/
def ofJson? (json : Json) : Option ChunkHit :=
  match Json.record? [.plain "note_id", .plain "chunk_content", .plain "score"] json with
  | some [noteId, content, score] => do
      let noteId ← Json.required Json.text? noteId
      let content ← Json.required Json.text? content
      let score ← Json.required Json.single? score
      some { noteId, content, score }
  | _ => none

/-- The JSON form of a hit. -/
def toJson (hit : ChunkHit) : Json :=
  .ofMembers [("note_id", .str hit.noteId), ("chunk_content", .str hit.content),
    ("score", .single hit.score)]

end ChunkHit

namespace Citation

/-- A citation from its JSON form. -/
def ofJson? (json : Json) : Option Citation :=
  match Json.record? [.plain "noteId", .plain "title", .plain "relevanceScore"] json with
  | some [noteId, title, relevance] => do
      let noteId ← Json.required Json.text? noteId
      let title ← Json.required Json.text? title
      let relevance ← Json.possible Json.single? relevance
      some { noteId, title, relevance }
  | _ => none

/-- The JSON form of a citation. -/
def toJson (citation : Citation) : Json :=
  .ofMembers [("noteId", .str citation.noteId), ("title", .str citation.title),
    ("relevanceScore", .optional .single citation.relevance)]

end Citation

end NoteDialogue
