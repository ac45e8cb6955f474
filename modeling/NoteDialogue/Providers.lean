import NoteDialogue.Archive
import NoteDialogue.Conversation
import NoteDialogue.Embedding.Client
import NoteDialogue.Generation.Client

/-!
# Providers

The providers of a running program, and interactions carried out with them: what a provider has to
answer becomes an exchange with its service, and everything else is looked up in the archive.
-/

set_option autoImplicit false

namespace NoteDialogue

/-- Where text and embeddings come from. -/
structure Providers where
  embedding : EmbeddingProvider
  generation : GenerationProvider
  deriving Inhabited

namespace Providers

/-- The providers of a configuration. -/
def ofConfig (config : Config) : Except Failure Providers :=
  match EmbeddingProvider.ofConfig config.embedding with
  | .ok embedding => .ok { embedding, generation := GenerationProvider.ofConfig config.generation }
  | .error failure => .error failure

/-- The answer to a question, and the archive after it. -/
def answer (providers : Providers) (archive : Archive) :
    (question : Ask) → Exchange (question.Answer × Archive)
  | .generate _ messages options _ => do
      let text ← providers.generation.chat messages options
      pure (.inTime text, archive)
  | .embedQuery query _ => do
      let embedding ← providers.embedding.client.embedOne .query query
      pure (.inTime embedding, archive)
  | .embedPassages passages => do
      let embeddings ← providers.embedding.client.embed .document passages
      pure (embeddings, archive)
  | .lookUp lookup => .done (archive.answer lookup)

/-- Carry out an interaction: its ending, and the archive after it. -/
def perform {α : Type} (providers : Providers) :
    Interaction α → Archive → Exchange (Ending α × Archive)
  | .done result, archive => .done (.done result, archive)
  | .failed failure, archive => .done (.failed failure, archive)
  | .crashed, archive => .done (.crashed, archive)
  | .ask question next, archive =>
      (providers.answer archive question).andThen (fun (answer, archive) =>
        providers.perform (next answer) archive)

end Providers

namespace Conversation

/-- Run a turn with providers. -/
def executeWith (config : Config) (providers : Providers) (request : TurnRequest)
    (store : SessionStore) (archive : Archive) :
    Exchange (TurnEnding × SessionStore × Archive) :=
  match enter request false store with
  | (.turnedAway ending, store) => .done (ending, store, archive)
  | (.entered guard session, store) => do
      let (ending, archive) ← providers.perform (Turn.run config request session) archive
      pure (endingOf ending, settle store guard ending, archive)

end Conversation

end NoteDialogue
