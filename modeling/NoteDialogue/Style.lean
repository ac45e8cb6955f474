import NoteDialogue.Text.Blank
import NoteDialogue.Text.LetterCase

/-!
# Styles

A style is a named instruction to the model, and may ask for a model of its own.  A registry finds
styles by key, whatever the case of its letters; of several styles whose keys differ in case alone the
last one counts.
-/

set_option autoImplicit false

namespace NoteDialogue

/-- A named way of answering. -/
structure Style where
  key : String
  name : String
  systemPrompt : String
  modelOverride : Option String := none
  deriving DecidableEq, Repr, Inhabited

/-- Styles by key, each with the spelling under which it is found. -/
structure StyleRegistry where
  entries : List (String × Style) := []
  deriving Inhabited

namespace StyleRegistry

/-- The entries with one put in: in the place of the one with its spelling, or at the end. -/
def putEntry (spelling : String) (style : Style) : List (String × Style) → List (String × Style)
  | [] => [(spelling, style)]
  | first :: rest =>
      if first.1 = spelling then (spelling, style) :: rest else first :: putEntry spelling style rest

/-- The registry of some styles. -/
def ofList (styles : List Style) : StyleRegistry :=
  { entries := styles.foldl (fun entries style =>
      putEntry (Text.lowercase style.key) style entries) [] }

/-- The style that a key asks for; blanks around the key do not count. -/
def find? (registry : StyleRegistry) (key : String) : Option Style :=
  (registry.entries.find? (fun entry => entry.1 == Text.lowercase (Text.trim key))).map (·.2)

/-- The keys as the styles spell them, in order. -/
def keys (registry : StyleRegistry) : List String :=
  (registry.entries.map (fun entry => entry.2.key)).mergeSort (fun left right => !(right < left))

/-- The styles that are there when none are given. -/
def builtIn : StyleRegistry :=
  ofList
    [{ key := "concise", name := "Concise",
       systemPrompt := "Answer in at most three short sentences. Skip preambles and " ++
         "restating the question." },
     { key := "tutor", name := "Tutor",
       systemPrompt := "Explain step by step as a patient tutor. End with one short " ++
         "question that checks understanding." },
     { key := "bullet", name := "Bullet points",
       systemPrompt := "Reply only with a bulleted list of key points." }]

end StyleRegistry

end NoteDialogue
