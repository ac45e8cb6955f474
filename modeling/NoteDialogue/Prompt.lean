import NoteDialogue.Note
import NoteDialogue.Mode
import NoteDialogue.Reference

/-!
# Prompts and fixed replies

The texts that a model is given and the replies that need no model.  The texts that prime a model with
notes have fingerprints, pieces that occur in nothing else; by them such a message is recognised when
a caller hands it back as part of the conversation.
-/

set_option autoImplicit false

namespace NoteDialogue

/-- Lines joined into one text. -/
def joinLines (lines : List String) : String :=
  String.intercalate "\n" lines

/-- Paragraphs joined with an empty line between them. -/
def joinParagraphs (paragraphs : List String) : String :=
  String.intercalate "\n\n" paragraphs

/-! ## Priming -/

/-- The instruction that opens every answer from notes. -/
def systemSeed : String :=
  "You are Notewise, an assistant that answers questions using the user's own notes. " ++
    "Ground every statement in the notes provided in the context block. If the notes do not contain " ++
    "the answer, say so plainly instead of guessing."

/-- The mark that opens the block of notes. -/
def contextHeader : String := "[NOTE CONTEXT]"

/-- The mark that closes the block of notes. -/
def contextFooter : String := "[END NOTE CONTEXT]"

/-- The pieces by which a priming text is recognised. -/
def primingFingerprints : List String :=
  [contextHeader, contextFooter,
    "You are Notewise, an assistant that answers questions using the user's own notes",
    "Ground every statement in the notes provided",
    "Answer using only the notes above"]

/-- Whether a message primes a model rather than belonging to the conversation. -/
def isPriming (content : String) : Bool :=
  let trimmed := Text.trim content
  trimmed == systemSeed || primingFingerprints.any (Text.contains trimmed)

/-! ## Notes in a prompt -/

/-- A remark on the notebook of a document. -/
def notebookRemark : Option String → String
  | some notebook => " (notebook: " ++ notebook ++ ")"
  | none => ""

/-- A document in the block of notes, with its number. -/
def contextEntry (number : Nat) (document : Document) : String :=
  "## Note " ++ toString number ++ ": " ++ document.title ++ notebookRemark document.notebook ++
    "\n" ++ Text.trim document.plainContent

/-- The block of notes that grounds an answer. -/
def contextBlock (documents : List Document) : String :=
  contextHeader ++ "\n" ++
    joinParagraphs (documents.zipIdx.map (fun (document, index) =>
      contextEntry (index + 1) document)) ++
    "\n" ++ contextFooter ++ "\nAnswer using only the notes above."

/-- A document as the user shared it. -/
def sharedEntry (document : Document) : String :=
  "\"" ++ document.title ++ "\":\n" ++ Text.trim document.plainContent

/-- The message about the notes that the user shared in a bypass turn. -/
def sharedNotes (documents : List Document) : String :=
  "The user shared these notes for this message:\n\n" ++
    joinParagraphs (documents.map sharedEntry)

/-- The question that stands in when notes are attached without one. -/
def attachedNotesQuestion : String := "Summarize the referenced notes."

/-! ## Fixed replies -/

/-- A remark on the style of a selection. -/
def styleRemark : Option String → String
  | some key => " using the '" ++ key ++ "' style"
  | none => ""

/-- The reply to a directive without a question. -/
def usageHint (selection : ModeSelection) : String :=
  let style := styleRemark selection.styleKey
  if selection.mode.isBypass then
    "Bypass mode" ++ style ++ ": I answer directly without looking at your notes. " ++
      "Type your question after the command, e.g. `/bypass explain recursion`."
  else
    "Notes mode" ++ style ++ ": I search your notes and answer from them. Ask a question, " ++
      "mention a note with @note:\"Title\" or [[Title]], or filter with /notebook <name>."

/-- The reply that asks which note is meant. -/
def clarifyReply (candidates : List Document) : String :=
  if candidates.isEmpty then
    "Could you tell me a bit more about what you are looking for? " ++
      "A title, notebook or keyword helps me find the right note."
  else
    "I found several notes that could match. Which one do you mean?\n" ++
      joinLines (candidates.zipIdx.map (fun (document, index) =>
        toString (index + 1) ++ ". " ++ document.title)) ++
      "\nYou can also ask about all of them at once."

/-- The reply to a search that found nothing. -/
def noResultsReply (query : String) : String :=
  "I couldn't find any notes matching \"" ++ query ++
    "\". Try different keywords or a notebook filter."

/-- The reply when notes could not be searched. -/
def searchUnavailableReply : String :=
  "I couldn't search your notes just now. Please try again in a moment."

/-- The reply that lists the references without a note. -/
def referencesNotFoundReply (references : List ResolvedReference) : String :=
  "I couldn't find these notes:\n" ++
    joinLines ((references.filter (fun reference => !reference.found)).map (fun reference =>
      "- " ++ reference.requested))

end NoteDialogue
