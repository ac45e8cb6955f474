import NoteDialogue.Interaction
import NoteDialogue.Reference

/-!
# Looking up references

A mention by identifier is looked up as such; one by title among the titles and then, like free text,
among all notes that match.  Every mention is looked up by itself, and a failure is an answer about that
mention alone.  A note that is mentioned twice counts once, and so does a missing one that is asked for
in the same words.
-/

set_option autoImplicit false

namespace NoteDialogue

/-- What two references have in common when one of them is dropped. -/
inductive ReferenceKey
  | note (id : String)
  | request (words : String)
  deriving DecidableEq, Repr

namespace ResolvedReference

/-- The note that was found, or the words in which a missing one was asked for. -/
def key (reference : ResolvedReference) : ReferenceKey :=
  match reference.found, reference.noteId with
  | true, some id => .note id
  | _, _ => .request (Text.lowercase (Text.trim reference.requested))

/-- The references without those whose key occurs earlier; `seen` are the keys so far. -/
def dedupeFrom (seen : List ReferenceKey) : List ResolvedReference → List ResolvedReference
  | [] => []
  | reference :: rest =>
      if seen.contains reference.key then dedupeFrom seen rest
      else reference :: dedupeFrom (reference.key :: seen) rest

/-- The references without those whose key occurs earlier. -/
def dedupe (references : List ResolvedReference) : List ResolvedReference :=
  dedupeFrom [] references

/-- The reason why a note is missing when no lookup failed. -/
def noteNotFound : String := "note not found"

end ResolvedReference

namespace Mention

/-- The first note that matches a text. -/
def lookUpText (ownerId text : String) : Interaction (Except Failure (Option Note)) := do
  match ← Interaction.lookUp (.notesByText ownerId text 1) with
  | .ok notes => pure (.ok notes.head?)
  | .error failure => pure (.error failure)

/-- The note that a mention names. -/
def lookUp (ownerId : String) (mention : Mention) : Interaction (Except Failure (Option Note)) :=
  match mention.kind with
  | .exactId => Interaction.lookUp (.noteById ownerId mention.value)
  | .freeText => lookUpText ownerId mention.value
  | .quotedTitle => do
      match ← Interaction.lookUp (.notesByTitle ownerId mention.value) with
      | .error failure => pure (.error failure)
      | .ok (note :: _) => pure (.ok (some note))
      | .ok [] => lookUpText ownerId mention.value

/-- What a lookup says about a mention. -/
def resolved (mention : Mention) : Except Failure (Option Note) → ResolvedReference
  | .ok (some note) => .present note.id note.title note.plainContent mention.value
  | .ok none => .missing mention.value ResolvedReference.noteNotFound
  | .error failure => .missing mention.value ("lookup failed: " ++ failure.message)

/-- Look up one mention. -/
def resolve (ownerId : String) (mention : Mention) : Interaction ResolvedReference := do
  let note ← mention.lookUp ownerId
  pure (mention.resolved note)

/-- Look up all mentions of an utterance. -/
def resolveAll (ownerId : String) (mentions : List Mention) :
    Interaction (List ResolvedReference) := do
  let references ← Interaction.forEach (resolve ownerId) mentions
  pure (ResolvedReference.dedupe references)

end Mention

end NoteDialogue
