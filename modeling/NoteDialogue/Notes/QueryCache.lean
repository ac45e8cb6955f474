import NoteDialogue.Notes.Similarity
import NoteDialogue.Text.Blank

/-!
# Remembered query embeddings

The embeddings of recent queries, the most recently used first.  An embedding is kept under the digest
of its query without surrounding blanks, so queries that differ in these blanks alone are the same, and
so are queries whose digests collide.  When there is no more room the embedding that has not been used
for the longest time is forgotten; a cache without any room remembers nothing.
-/

set_option autoImplicit false

namespace NoteDialogue

/-- The embeddings of recent queries. -/
structure QueryCache where
  capacity : Nat
  /-- The digest of a text, of which nothing is promised. -/
  digest : String → String := id
  /-- Keys and embeddings, the most recently used first. -/
  entries : List (String × Vector32) := []
  deriving Inhabited

namespace QueryCache

/-- What the embedding of a query is kept under. -/
def key (cache : QueryCache) (query : String) : String :=
  cache.digest (Text.trim query)

/-- Whether an entry belongs to a query. -/
def isEntryOf (cache : QueryCache) (query : String) (entry : String × Vector32) : Bool :=
  entry.1 == cache.key query

/-- The entries of the other queries. -/
def others (cache : QueryCache) (query : String) : List (String × Vector32) :=
  cache.entries.filter (fun entry => !cache.isEntryOf query entry)

/-- The embedding of a query, which has then been used most recently. -/
def recollect (cache : QueryCache) (query : String) : Option Vector32 × QueryCache :=
  match cache.entries.find? (cache.isEntryOf query) with
  | some entry => (some entry.2, { cache with entries := entry :: cache.others query })
  | none => (none, cache)

/-- Remember the embedding of a query. -/
def remember (cache : QueryCache) (query : String) (embedding : Vector32) : QueryCache :=
  { cache with
    entries := ((cache.key query, embedding) :: cache.others query).take cache.capacity }

/-- The number of remembered queries. -/
def size (cache : QueryCache) : Nat :=
  cache.entries.length

end QueryCache

end NoteDialogue
