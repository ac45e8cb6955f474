import NoteDialogue.Config
import NoteDialogue.Interaction
import NoteDialogue.Notes.QueryCache
import NoteDialogue.Notes.Store

/-!
# The archive

What a running program holds in memory beside its sessions: notes, styles, live settings and remembered
embeddings.  The archive answers every lookup; only the remembered embeddings change by it.
-/

set_option autoImplicit false

namespace NoteDialogue

/-- Notes, styles, live settings and remembered embeddings. -/
structure Archive where
  notes : NoteStore := {}
  styles : StyleRegistry := {}
  settings : Settings := {}
  cache : QueryCache
  deriving Inhabited

namespace Archive

/-- An archive with room for some embeddings. -/
def empty (cacheSize : Nat) : Archive :=
  { cache := { capacity := cacheSize } }

/-- What looking something up gives, and the archive after it. -/
def answer (archive : Archive) : (lookup : Lookup) → lookup.Answer × Archive
  | .style key => (.ok (archive.styles.find? key), archive)
  | .setting name => (archive.settings.get? name, archive)
  | .recollect query =>
      let (embedding, cache) := archive.cache.recollect query
      (embedding, { archive with cache })
  | .remember query embedding =>
      ((), { archive with cache := archive.cache.remember query embedding })
  | .noteById ownerId noteId => (.ok (archive.notes.find? ownerId noteId), archive)
  | .notesByTitle ownerId title => (.ok (archive.notes.withTitle ownerId title), archive)
  | .notesByText ownerId text limit =>
      (.ok (archive.notes.searchFuzzy ownerId text limit), archive)
  | .notesByTerms ownerId terms filter limit =>
      (.ok (archive.notes.searchLiteral ownerId terms filter limit), archive)
  | .similarChunks ownerId embedding limit threshold =>
      (.ok (archive.notes.searchSimilar ownerId embedding limit threshold), archive)

end Archive

end NoteDialogue
