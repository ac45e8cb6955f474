import NoteDialogue.Failure
import NoteDialogue.Json.Member

/-!
# Failures in JSON

A failure is written as an object with the name of its kind under `err`.  What it says beside that is
under `message`, and the seconds after which a call may be made again under `retryAfter`.
-/

set_option autoImplicit false

namespace NoteDialogue.Failure

/-- The name of the kind of a failure. -/
def kindName : Failure → String
  | .notFound _ => "NotFound"
  | .validation _ => "Validation"
  | .noteStore _ => "NoteStore"
  | .embedding _ => "Embedding"
  | .http _ => "Http"
  | .json _ => "Json"
  | .file _ => "Io"
  | .embeddingRateLimit _ => "ApiRateLimit"
  | .authentication _ => "ApiAuth"
  | .generation _ => "Llm"
  | .generationUnavailable _ => "LlmUnavailable"
  | .generationRateLimit _ => "LlmRateLimit"
  | .timeout _ => "Timeout"
  | .cancelled => "Cancelled"
  | .unexpected _ => "Internal"

/-- A failure from its JSON form; a kind with no other name is unexpected. -/
def ofJson (json : Json) : Failure :=
  let message := json.textAt "message"
  let retryAfter := (json.member "retryAfter").word?
  match json.textAt "err" with
  | "NotFound" => .notFound message
  | "Validation" => .validation message
  | "NoteStore" => .noteStore message
  | "Embedding" => .embedding message
  | "Http" => .http message
  | "Json" => .json message
  | "Io" => .file message
  | "ApiRateLimit" => .embeddingRateLimit retryAfter
  | "ApiAuth" => .authentication message
  | "Llm" => .generation message
  | "LlmUnavailable" => .generationUnavailable message
  | "LlmRateLimit" => .generationRateLimit retryAfter
  | "Timeout" => .timeout message
  | "Cancelled" => .cancelled
  | _ => .unexpected message

end NoteDialogue.Failure
