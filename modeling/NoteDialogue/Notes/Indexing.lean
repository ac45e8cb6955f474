import NoteDialogue.Interaction
import NoteDialogue.Notes.Chunk
import NoteDialogue.Notes.Store

/-!
# Indexing notes

A note is indexed by embedding its chunks and storing it with them; a note without a sentence is
embedded by its title.  Notes are indexed one after the other.  The first failure ends the work and
leaves the notes before it stored; it is a failure, too, when there are not as many embeddings as
chunks.
-/

set_option autoImplicit false

namespace NoteDialogue

/-- The passages of a note that are embedded. -/
def Note.passages (note : Note) : List String :=
  match chunksOf maxChunkLength note.plainContent with
  | [] => [note.title]
  | chunks => chunks

/-- The failure of a note that did not get an embedding for each of its passages. -/
def wrongEmbeddingCount (note : Note) (expected actual : Nat) : Failure :=
  .embedding ("Expected " ++ toString expected ++ " chunk embeddings for note " ++ note.id ++
    ", got " ++ toString actual)

/-- The chunks of a note from the embeddings of its passages. -/
def Note.chunksWith (note : Note) (embeddings : List Vector32) : Except Failure (List NoteChunk) :=
  if embeddings.length = note.passages.length then
    .ok (List.zipWith NoteChunk.mk note.passages embeddings)
  else .error (wrongEmbeddingCount note note.passages.length embeddings.length)

/-- What indexing has come to: the notes that were indexed or why the work ended, and the store. -/
structure IndexReport where
  indexed : Except Failure Nat
  store : NoteStore
  deriving Inhabited

namespace NoteStore

/-- Index some notes after so many others. -/
def indexFrom (count : Nat) (store : NoteStore) : List Note → Interaction IndexReport
  | [] => .done ⟨.ok count, store⟩
  | note :: rest => do
      match (← Interaction.request (.embedPassages note.passages)).bind note.chunksWith with
      | .error failure => pure ⟨.error failure, store⟩
      | .ok chunks => indexFrom (count + 1) (store.upsert note chunks) rest

/-- Index some notes. -/
def index (store : NoteStore) (notes : List Note) : Interaction IndexReport :=
  store.indexFrom 0 notes

end NoteStore

end NoteDialogue
