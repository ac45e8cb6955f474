import NoteDialogue.Ambiguity
import NoteDialogue.Config
import NoteDialogue.Interaction
import NoteDialogue.Notes.Store

/-!
# Finding notes for a query

A query is searched in the way that it calls for: within the restriction that it opens with or that the
caller gives, by its words, or by its meaning.  In a search by meaning the best chunk of a note stands
for the note, and the notes are then looked up; one that has gone in the meantime is left out.  The
result says whether it is ambiguous.
-/

set_option autoImplicit false

namespace NoteDialogue

/-- What a search found. -/
structure SearchResult where
  /-- The notes, the most relevant first. -/
  documents : List Document
  strategy : SearchStrategy
  ambiguity : Option AmbiguityReason := none
  deriving Inhabited

namespace SearchResult

/-- A search that found nothing. -/
def empty (strategy : SearchStrategy) : SearchResult :=
  { documents := [], strategy }

/-- Whether it is unclear which note is meant. -/
def isAmbiguous (result : SearchResult) : Bool :=
  result.ambiguity.isSome

end SearchResult

namespace Retrieval

open Interaction (request lookUp ofExcept forEach)

/-- The first of several items with the same key, in order. -/
def firstOfEach {α κ : Type} [BEq κ] (key : α → κ) (items : List α) : List α :=
  items.foldl (fun kept item =>
    if kept.any (fun other => key other == key item) then kept else kept ++ [item]) []

/-- The best hit of each note, the best first, up to a limit. -/
def bestHits (hits : List ChunkHit) (limit : Nat) : List ChunkHit :=
  (firstOfEach (·.noteId) (hits.mergeSort ChunkHit.mayPrecede)).take limit

/-- The notes that hold the terms. -/
def literal (config : RetrievalConfig) (ownerId terms : String) (filter : NoteFilter) :
    Interaction (List Document) := do
  let notes ← ofExcept (← lookUp (.notesByTerms ownerId terms filter config.topK))
  pure (notes.map (Document.ofNote none))

/-- The embedding of a query, remembered or new. -/
def queryEmbedding (config : RetrievalConfig) (query : String) : Interaction Vector32 := do
  match ← lookUp (.recollect query) with
  | some embedding => pure embedding
  | none =>
      match ← request (.embedQuery query config.embeddingTimeout) with
      | .late => .failed (.timeout "Query embedding")
      | .inTime (.error failure) => .failed failure
      | .inTime (.ok embedding) => do
          let _ ← lookUp (.remember query embedding)
          pure embedding

/-- The note of a hit, if it is still there. -/
def lookUpHit (ownerId : String) (hit : ChunkHit) : Interaction (Option Document) := do
  let note ← ofExcept (← lookUp (.noteById ownerId hit.noteId))
  pure (note.map (Document.ofNote (some (clampScore hit.score))))

/-- The notes whose meaning is close to the query. -/
def semantic (config : RetrievalConfig) (ownerId query : String) :
    Interaction (List Document) := do
  let embedding ← queryEmbedding config query
  let live ← lookUp (.setting similarityThresholdName)
  let threshold := similarityThresholdOf live config.similarityThreshold
  let hits ← ofExcept (← lookUp (.similarChunks ownerId embedding (config.topK * 3) threshold))
  let found ← forEach (lookUpHit ownerId) (bestHits hits config.topK)
  pure (found.filterMap id)

/-- The notes for a query within the caller's restriction, and the way in which they were found. -/
def find (config : RetrievalConfig) (ownerId query : String) (filter : NoteFilter) :
    Interaction (SearchStrategy × List Document) := do
  match Query.filtered? query with
  | some filtered =>
      let documents ← literal config ownerId filtered.terms (filter.mergedWith filtered.filter)
      pure (.filtered, documents)
  | none =>
      if !filter.isEmpty then
        let documents ← literal config ownerId (Query.literalTerms query) filter
        pure (.filtered, documents)
      else if Query.strategy query == .semantic then
        let documents ← semantic config ownerId query
        pure (.semantic, documents)
      else
        let documents ← literal config ownerId (Query.literalTerms query) {}
        pure (.literal, documents)

/-- Search the notes of an owner. -/
def search (config : RetrievalConfig) (ownerId query : String) (filter : NoteFilter) :
    Interaction SearchResult := do
  let (strategy, documents) ← find config ownerId query filter
  let live ← lookUp (.setting multiDocThresholdName)
  let threshold := multiDocThresholdOf live config.multiDocThreshold
  pure { documents, strategy, ambiguity := ambiguity query documents threshold }

end Retrieval

end NoteDialogue
