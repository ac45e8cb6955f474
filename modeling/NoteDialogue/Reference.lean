/-!
# References to notes

A mention is a reference as the user wrote it; a resolved reference is what looking it up gave.
-/

set_option autoImplicit false

namespace NoteDialogue

/-- How a mention names its note. -/
inductive ReferenceKind
  | exactId
  | quotedTitle
  | freeText
  deriving DecidableEq, Repr, Inhabited

/-- The written form. -/
def ReferenceKind.name : ReferenceKind → String
  | .exactId => "exact_id"
  | .quotedTitle => "quoted_title"
  | .freeText => "free_text"

/-- One explicit mention of a note in an utterance. -/
structure Mention where
  kind : ReferenceKind
  /-- What names the note. -/
  value : String
  /-- The piece that was cut out of the utterance. -/
  span : String
  deriving DecidableEq, Repr, Inhabited

/-- What looking up a reference gave. -/
structure ResolvedReference where
  noteId : Option String
  title : String
  plainContent : String
  found : Bool
  errorReason : Option String
  /-- What the user asked for, which the reply about missing notes repeats. -/
  requested : String
  deriving DecidableEq, Repr, Inhabited

namespace ResolvedReference

/-- A reference whose note was found. -/
def present (noteId title plainContent requested : String) : ResolvedReference :=
  { noteId := some noteId, title, plainContent, found := true, errorReason := none, requested }

/-- A reference without a note, and the reason. -/
def missing (requested reason : String) : ResolvedReference :=
  { noteId := none, title := "", plainContent := "", found := false, errorReason := some reason,
    requested }

end ResolvedReference

end NoteDialogue
