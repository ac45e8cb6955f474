/-!
# Failures

Why a turn, a search or a call of a provider fails.  Of the failures of a search, those that come from
the providers of embeddings and of generated text end the turn; all others are answered within it.
-/

set_option autoImplicit false

namespace NoteDialogue

/-- Why something failed. -/
inductive Failure
  | notFound (what : String)
  | validation (reason : String)
  | noteStore (reason : String)
  | embedding (reason : String)
  | http (reason : String)
  | json (reason : String)
  | file (reason : String)
  | embeddingRateLimit (retryAfter : Option Nat)
  | authentication (reason : String)
  | generation (reason : String)
  | generationUnavailable (reason : String)
  | generationRateLimit (retryAfter : Option Nat)
  | timeout (step : String)
  | cancelled
  | unexpected (reason : String)
  deriving DecidableEq, Repr, Inhabited

namespace Failure

/-- A waiting time that may be missing. -/
def renderRetry : Option Nat → String
  | some seconds => "Some(" ++ toString seconds ++ ")"
  | none => "None"

/-- The message of a failure. -/
def message : Failure → String
  | .notFound what => "Not found: " ++ what
  | .validation reason => "Validation error: " ++ reason
  | .noteStore reason => "Note store error: " ++ reason
  | .embedding reason => "Embedding error: " ++ reason
  | .http reason => "HTTP request error: " ++ reason
  | .json reason => "JSON error: " ++ reason
  | .file reason => "IO error: " ++ reason
  | .embeddingRateLimit retryAfter =>
      "API rate limit exceeded, retry after " ++ renderRetry retryAfter ++ " seconds"
  | .authentication reason => "API authentication error: " ++ reason
  | .generation reason => "LLM error: " ++ reason
  | .generationUnavailable reason => "LLM unavailable: " ++ reason
  | .generationRateLimit retryAfter =>
      "LLM rate limit exceeded, retry after " ++ renderRetry retryAfter ++ " seconds"
  | .timeout step => step ++ " timed out"
  | .cancelled => "Turn cancelled"
  | .unexpected reason => "Internal error: " ++ reason

/-- A failure of a provider of embeddings or of generated text. -/
def isFromProvider : Failure → Bool
  | .embedding _ | .http _ | .embeddingRateLimit _ | .authentication _ | .generation _
  | .generationUnavailable _ | .generationRateLimit _ | .timeout _ => true
  | .notFound _ | .validation _ | .noteStore _ | .json _ | .file _ | .cancelled
  | .unexpected _ => false

end Failure

end NoteDialogue
