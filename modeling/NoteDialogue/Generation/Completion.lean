import NoteDialogue.Json.Reader
import NoteDialogue.Json.Shape
import NoteDialogue.Network.Exchange
import NoteDialogue.Network.Status
import NoteDialogue.Text.Passage

/-!
# Completions

The format of a reply with generated text, and of a reply that says why there is none.  A reply is read
by its status: a server that fails may say anything, other failures must be in the format of an error,
and a success must be in the format of a completion, of which only the texts of the choices are used.
-/

set_option autoImplicit false

namespace NoteDialogue

/-- What a service says is wrong. -/
structure ServiceError where
  message : String
  kind : Option String := none
  parameter : Option String := none
  code : Option String := none
  deriving DecidableEq, Repr, Inhabited

/-- Why there is no completion. -/
inductive CompletionError
  | service (error : ServiceError)
  /-- The exchange broke off, before a status came or after it. -/
  | transport (status : Option Nat) (detail : String)
  /-- The reply is not in the format; what is wrong with it may be told. -/
  | unreadable (detail : Option String)
  /-- The request cannot be made. -/
  | invalidRequest (reason : String)
  /-- Something that has to do with files or with streams. -/
  | other (detail : String)
  deriving DecidableEq, Repr, Inhabited

/-- What one call comes to: the texts of the choices, some of which may be missing. -/
abbrev CallOutcome := Except CompletionError (List (Option String))

namespace ServiceError

/-- An error from its JSON form. -/
def ofJson? (json : Json) : Option ServiceError :=
  match Json.record? [.plain "message", .plain "type", .plain "param", .plain "code"] json with
  | some [message, kind, parameter, code] => do
      let message ← Json.required Json.text? message
      let kind ← Json.possible Json.text? kind
      let parameter ← Json.possible Json.text? parameter
      let code ← Json.possible Json.text? code
      some { message, kind, parameter, code }
  | _ => none

/-- The error in the body of a reply. -/
def ofBody? (body : String) : Option ServiceError :=
  match (Json.ofText? body).bind (Json.record? [.plain "error"]) with
  | some [error] => Json.required ofJson? error
  | _ => none

/-- The written form. -/
def render (error : ServiceError) : String :=
  String.intercalate " "
    (error.kind.toList.map (· ++ ":") ++ [error.message] ++
      error.parameter.toList.map (fun parameter => "(param: " ++ parameter ++ ")") ++
      error.code.toList.map (fun code => "(code: " ++ code ++ ")"))

/-- A part that may be missing, in lower case. -/
def lowered (part : Option String) : String :=
  Text.lowercase (part.getD "")

/-- Whether the service says that there are too many requests, or no quota for them. -/
def isRateLimit (error : ServiceError) : Bool :=
  let message := Text.lowercase error.message
  Text.contains message "rate limit" || Text.contains message "too many requests" ||
    Text.contains (lowered error.kind) "rate_limit" ||
    Text.contains (lowered error.code) "rate_limit" || lowered error.code == "insufficient_quota"

/-- Whether the service does not accept the key. -/
def isAuthentication (error : ServiceError) : Bool :=
  let message := Text.lowercase error.message
  Text.contains message "unauthorized" || Text.contains message "invalid api key" ||
    Text.contains (lowered error.code) "invalid_api_key" ||
    Text.contains (lowered error.kind) "authentication"

/-- Whether the service says what is wrong by a kind or a code. -/
def isClassified (error : ServiceError) : Bool :=
  error.kind.isSome || error.code.isSome

end ServiceError

namespace Completion

/-- The limit of a number of thirty-two bits. -/
def halfWord : Json.Shape := .natural Numeral.maxHalfWord

/-- The shape of a call of a function. -/
def callShape : Json.Shape :=
  .record [("name", .text), ("arguments", .text)]

/-- The shape of a message. -/
def messageShape : Json.Shape :=
  .record
    [("content", .possible .text), ("refusal", .possible .text),
      ("tool_calls", .possible (.list (.record
        [("id", .text), ("type", .name ["function"]), ("function", callShape)]))),
      ("role", .name ["system", "user", "assistant", "tool", "function"]),
      ("function_call", .possible callShape),
      ("audio", .possible (.record
        [("id", .text), ("expires_at", halfWord), ("data", .text), ("transcript", .text)]))]

/-- The shape of the bytes of a token. -/
def bytesShape : Json.Shape :=
  .possible (.list (.natural 255))

/-- The shape of some tokens with their likelihoods. -/
def tokensShape : Json.Shape :=
  .possible (.list (.record
    [("token", .text), ("logprob", .single), ("bytes", bytesShape),
      ("top_logprobs", .list (.record
        [("token", .text), ("logprob", .single), ("bytes", bytesShape)]))]))

/-- The shape of a choice. -/
def choiceShape : Json.Shape :=
  .record
    [("index", halfWord), ("message", messageShape),
      ("finish_reason", .possible (.name
        ["stop", "length", "tool_calls", "content_filter", "function_call"])),
      ("logprobs", .possible (.record [("content", tokensShape), ("refusal", tokensShape)]))]

/-- The shape of an account of what was used. -/
def usageShape : Json.Shape :=
  .record
    [("prompt_tokens", halfWord), ("completion_tokens", halfWord), ("total_tokens", halfWord),
      ("prompt_tokens_details", .possible (.record
        [("audio_tokens", .possible halfWord), ("cached_tokens", .possible halfWord)])),
      ("completion_tokens_details", .possible (.record
        [("accepted_prediction_tokens", .possible halfWord),
          ("audio_tokens", .possible halfWord), ("reasoning_tokens", .possible halfWord),
          ("rejected_prediction_tokens", .possible halfWord)]))]

/-- The shape of a completion. -/
def fields : List (String × Json.Shape) :=
  [("id", .text), ("choices", .list choiceShape), ("created", halfWord), ("model", .text),
    ("service_tier", .possible (.name ["scale", "default"])),
    ("system_fingerprint", .possible .text), ("object", .text), ("usage", .possible usageShape)]

/-- The value of a field of a record. -/
def part? (fields : List String) (name : String) (json : Json) : Option Json := do
  let values ← json.record? (fields.map Json.Field.plain)
  let index ← fields.idxOf? name
  (← values[index]?)

/-- The names of the fields of a shape. -/
def fieldNames : Json.Shape → List String
  | .record fields => fields.map (·.1)
  | _ => []

/-- The text of a choice. -/
def choiceText? (choice : Json) : Option String :=
  let content := (part? (fieldNames choiceShape) "message" choice).bind
    (part? (fieldNames messageShape) "content")
  content.bind Json.text?

/-- The texts of the choices in the body of a reply. -/
def texts? (body : String) : Option (List (Option String)) := do
  let json ← (Json.ofText? body).bind (Json.fitting? (.record fields))
  match ← part? (fieldNames (.record fields)) "choices" json with
  | .list choices => some (choices.map choiceText?)
  | _ => none

/-- The texts of the choices in a reply. -/
def ofReply (url : String) : Reply → CallOutcome
  | .dropped => .error (.transport none ("error sending request for url (" ++ url ++ ")"))
  | .answered status _ body =>
      let body := if Status.isBodiless status then "" else body
      if Status.isServerError status then .error (.service { message := body })
      else if Status.isSuccess status then
        match texts? body with
        | some texts => .ok texts
        | none => .error (.unreadable none)
      else
        match ServiceError.ofBody? body with
        | some error => .error (.service error)
        | none => .error (.unreadable none)

/-- Whether a reply may be different a little later: the server failed, or had too many requests and
says so for another reason than a used-up quota. -/
def isTransient : Reply → Bool
  | .dropped => false
  | .answered status _ body =>
      Status.isServerError status ||
        (status == Status.tooMany &&
          match ServiceError.ofBody? body with
          | some error => error.kind != some "insufficient_quota"
          | none => false)

end Completion

end NoteDialogue
