import NoteDialogue.Time.Timestamp

/-!
# Notes

A note belongs to one owner and has been rendered to plain text.  A document is a note as a candidate
for an answer: without its owner and its time, with a relevance when it was found by similarity.
-/

set_option autoImplicit false

namespace NoteDialogue

/-- A note of one owner. -/
structure Note where
  id : String
  ownerId : String
  title : String
  plainContent : String
  notebook : Option String := none
  updatedAt : Timestamp
  deriving DecidableEq, Repr, Inhabited

/-- A note that may ground an answer. -/
structure Document where
  id : String
  title : String
  plainContent : String
  notebook : Option String := none
  /-- Similarity between zero and one, when the note was found by it. -/
  relevance : Option Float32 := none
  deriving Inhabited

/-- A note that grounded a reply. -/
structure Citation where
  noteId : String
  title : String
  relevance : Option Float32
  deriving Inhabited

namespace Document

/-- The note as a candidate. -/
def ofNote (relevance : Option Float32) (note : Note) : Document :=
  { id := note.id, title := note.title, plainContent := note.plainContent,
    notebook := note.notebook, relevance }

/-- The document as a citation. -/
def citation (document : Document) : Citation :=
  { noteId := document.id, title := document.title, relevance := document.relevance }

end Document

/-- A stretch of a note that a search by similarity found, and its score. -/
structure ChunkHit where
  noteId : String
  content : String
  score : Float32
  deriving Inhabited

end NoteDialogue
