import NoteDialogue.Text.LetterCase
import NoteDialogue.Text.Passage

/-!
# Names of models

A configured model may be written with its provider in front of a slash.  A provider is known in any
case of letters and keeps the spelling in which it is written; a name without a known provider belongs
to no remote one and is a model as a whole.
-/

set_option autoImplicit false

namespace NoteDialogue

/-- A model and its provider. -/
structure ModelName where
  provider : String
  model : String
  deriving DecidableEq, Repr, Inhabited

namespace ModelName

/-- The providers of generated text. -/
def generationProviders : List String :=
  ["openai", "openrouter", "ollama", "lmstudio"]

/-- The provider of models that run on this computer. -/
def localProvider : String := "local"

/-- The providers of embeddings. -/
def embeddingProviders : List String :=
  generationProviders ++ [localProvider]

/-- The model that a text names, for a list of known providers. -/
def ofText (known : List String) (text : String) : ModelName :=
  match Text.splitAtChar? '/' text.toList with
  | some (provider, model) =>
      let provider := String.ofList provider
      if known.contains (Text.lowercase provider) then ⟨provider, String.ofList model⟩
      else ⟨localProvider, text⟩
  | none => ⟨localProvider, text⟩

/-- The model of embeddings that a text names. -/
def ofEmbedding (text : String) : ModelName :=
  ofText embeddingProviders text

/-- The model of generated text that a text names. -/
def ofGeneration (text : String) : ModelName :=
  ofText generationProviders text

end ModelName

/-- Where a provider is found when nothing else is configured. -/
def defaultBaseUrl (provider : String) : String :=
  let written := Text.lowercase provider
  if written = "openrouter" then "https://openrouter.ai/api/v1"
  else if written = "ollama" then "http://localhost:11434/v1"
  else if written = "lmstudio" then "http://localhost:1234/v1"
  else "https://api.openai.com/v1"

end NoteDialogue
