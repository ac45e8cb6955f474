import NoteDialogue.Note
import NoteDialogue.Notes.Similarity
import NoteDialogue.Query

/-!
# The store of notes

The notes of all owners with the embeddings of their chunks, in the order in which they were first
stored.  A note that is stored again takes the place of the old one.  Every lookup is made among the
notes of one owner.

A literal search puts the notes whose title holds the phrase first, then those whose body holds it,
then those whose title holds every keyword, then those that hold every keyword somewhere; among equals
the more recent come first, and otherwise the order of storing decides.
-/

set_option autoImplicit false

namespace NoteDialogue

/-- A stretch of a note and its embedding. -/
structure NoteChunk where
  content : String
  embedding : Vector32
  deriving Inhabited

/-- A note with its chunks. -/
structure StoredNote where
  note : Note
  chunks : List NoteChunk := []
  deriving Inhabited

/-- The notes of all owners. -/
structure NoteStore where
  notes : List StoredNote := []
  deriving Inhabited

/-- The notes with one stored: in the place of the one with its identifier, or at the end. -/
def upsertNote (entry : StoredNote) : List StoredNote → List StoredNote
  | [] => [entry]
  | first :: rest =>
      if first.note.id = entry.note.id then entry :: rest else first :: upsertNote entry rest

/-! ## Ranking by words -/

/-- A phrase to look for and its keywords. -/
structure LiteralTerms where
  phrase : List Char
  keywords : List (List Char)
  deriving Repr, DecidableEq

namespace LiteralTerms

/-- The phrase of a text, trimmed and in lower case, and its words of two characters or more. -/
def ofText (text : String) : LiteralTerms :=
  let phrase := Text.lowerChars (Text.trimChars text.toList)
  { phrase, keywords := (Text.wordsOfChars phrase).filter (fun word => 1 < word.length) }

/-- How well a title and a body in lower case match; lower is better. -/
def rank? (terms : LiteralTerms) (title body : List Char) : Option Nat :=
  let inTitle (passage : List Char) := Text.containsChars passage title
  let inBody (passage : List Char) := Text.containsChars passage body
  if terms.phrase.isEmpty then some 0
  else if inTitle terms.phrase then some 0
  else if inBody terms.phrase then some 1
  else if terms.keywords.isEmpty then none
  else if terms.keywords.all inTitle then some 2
  else if terms.keywords.all (fun keyword => inTitle keyword || inBody keyword) then some 3
  else none

/-- How well a note matches. -/
def rankOf? (terms : LiteralTerms) (note : Note) : Option Nat :=
  terms.rank? (Text.lowerChars note.title.toList) (Text.lowerChars note.plainContent.toList)

end LiteralTerms

/-- Equality of names, blanks around them and the case of ASCII letters apart. -/
def sameName (left right : String) : Bool :=
  Text.sameIgnoringAsciiCase (Text.trimChars left.toList) (Text.trimChars right.toList)

namespace NoteFilter

/-- Whether a note passes the restriction. -/
def admits (filter : NoteFilter) (note : Note) : Bool :=
  let notebookFits := match filter.notebook with
    | some wanted => (note.notebook.map (sameName wanted)).getD false
    | none => true
  let titleFits := match filter.title with
    | some wanted => sameName wanted note.title
    | none => true
  notebookFits && titleFits

end NoteFilter

/-- A note and its rank in a literal search. -/
structure RankedNote where
  rank : Nat
  note : Note

/-- A better rank, or the same rank and not an earlier time, may come first. -/
def RankedNote.mayPrecede (left right : RankedNote) : Bool :=
  left.rank < right.rank ||
    (left.rank == right.rank && !left.note.updatedAt.isBefore right.note.updatedAt)

/-- The notes that pass the restriction and match the terms, best first. -/
def rankNotes (terms : LiteralTerms) (filter : NoteFilter) (notes : List Note) : List Note :=
  let ranked := (notes.filter filter.admits).filterMap (fun note =>
    (terms.rankOf? note).map (fun rank => RankedNote.mk rank note))
  (ranked.mergeSort RankedNote.mayPrecede).map (·.note)

/-! ## Ranking by similarity -/

/-- The hits of all chunks of some notes. -/
def chunkHits (embedding : Vector32) (notes : List StoredNote) : List ChunkHit :=
  notes.flatMap (fun stored =>
    stored.chunks.map (fun chunk =>
      { noteId := stored.note.id, content := chunk.content,
        score := cosine embedding chunk.embedding }))

/-- A hit may come first unless its score is smaller. -/
def ChunkHit.mayPrecede (left right : ChunkHit) : Bool :=
  !(left.score < right.score)

namespace NoteStore

/-- Store a note with its chunks. -/
def upsert (store : NoteStore) (note : Note) (chunks : List NoteChunk) : NoteStore :=
  { notes := upsertNote { note, chunks } store.notes }

/-- Store a note without embeddings, which only literal lookups find. -/
def insert (store : NoteStore) (note : Note) : NoteStore :=
  store.upsert note []

/-- The number of notes. -/
def size (store : NoteStore) : Nat :=
  store.notes.length

/-- The notes of an owner, with their chunks. -/
def owned (store : NoteStore) (ownerId : String) : List StoredNote :=
  store.notes.filter (fun stored => stored.note.ownerId == ownerId)

/-- The notes of an owner. -/
def ownedNotes (store : NoteStore) (ownerId : String) : List Note :=
  (store.owned ownerId).map (·.note)

/-- The note of an owner with an identifier. -/
def find? (store : NoteStore) (ownerId noteId : String) : Option Note :=
  (store.ownedNotes ownerId).find? (fun note => note.id == noteId)

/-- The notes of an owner that pass the restriction and match the text, best first, up to a limit. -/
def searchLiteral (store : NoteStore) (ownerId terms : String) (filter : NoteFilter)
    (limit : Nat) : List Note :=
  (rankNotes (LiteralTerms.ofText terms) filter (store.ownedNotes ownerId)).take limit

/-- The notes of an owner with a title, most recent first. -/
def withTitle (store : NoteStore) (ownerId title : String) : List Note :=
  rankNotes (LiteralTerms.ofText "") { title := some title } (store.ownedNotes ownerId)

/-- The notes of an owner that match a text; a blank text matches none. -/
def searchFuzzy (store : NoteStore) (ownerId text : String) (limit : Nat) : List Note :=
  if Text.isBlankText text then [] else store.searchLiteral ownerId text {} limit

/-- The chunks of an owner's notes that score no less than a threshold, best first, up to a limit. -/
def searchSimilar (store : NoteStore) (ownerId : String) (embedding : Vector32) (limit : Nat)
    (threshold : Float32) : List ChunkHit :=
  (((chunkHits embedding (store.owned ownerId)).filter (fun hit => threshold ≤ hit.score)).mergeSort
    ChunkHit.mayPrecede).take limit

end NoteStore

end NoteDialogue
