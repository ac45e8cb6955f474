import NoteDialogue.Text.Blank
import NoteDialogue.Text.Sentence

/-!
# Chunks of a note

A note is embedded in chunks of whole sentences.  Sentences are joined by single spaces as long as the
chunk stays within a limit of characters; a sentence that is longer than the limit is a chunk of its
own.  What counts as a sentence is decided elsewhere: packing works on any list of sentences.
-/

set_option autoImplicit false

namespace NoteDialogue

/-- The characters that a chunk may have. -/
def maxChunkLength : Nat := 800

/-- The chunks of the remaining sentences, of which the first one has been begun.  An empty beginning
stands for none. -/
def packSentences (limit : Nat) (begun : String) : List String → List String
  | [] => if begun.isEmpty then [] else [begun]
  | sentence :: rest =>
      if begun.isEmpty then packSentences limit sentence rest
      else if limit < begun.length + 1 + sentence.length then
        begun :: packSentences limit sentence rest
      else packSentences limit (begun ++ " " ++ sentence) rest

/-- The sentences without the blanks around them; blank ones are left out. -/
def trimmedSentences (sentences : List String) : List String :=
  (sentences.map Text.trim).filter (fun sentence => !sentence.isEmpty)

/-- The chunks of a text. -/
def chunksOf (limit : Nat) (text : String) : List String :=
  packSentences limit "" (trimmedSentences (Text.sentences text))

end NoteDialogue
