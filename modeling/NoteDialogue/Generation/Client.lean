import NoteDialogue.Config
import NoteDialogue.Generation.Completion
import NoteDialogue.Interaction
import NoteDialogue.ModelName

/-!
# A provider of generated text

A conversation is sent without its blank messages, and the first choice of the reply is the text.  A
call repeats its request while the service is overloaded, within the time that a call may take.  A call
that fails is made again only when the failure says nothing about its cause; that there are too many
requests, and that the key is not accepted, ends the matter.
-/

set_option autoImplicit false

namespace NoteDialogue

/-- How a provider of generated text is asked. -/
structure GenerationClient where
  baseUrl : String
  apiKey : Option String
  model : String
  /-- The seconds that a call may take. -/
  timeout : Nat
  maxRetries : Nat
  temperature : Option Float32
  deriving Inhabited

namespace CompletionError

/-- The failure that there are too many requests. -/
def rateLimit? : CompletionError → Option Failure
  | .service error => if error.isRateLimit then some (.generationRateLimit none) else none
  | .transport status _ =>
      if status = some Status.tooMany then some (.generationRateLimit none) else none
  | .unreadable _ | .invalidRequest _ | .other _ => none

/-- The failure that the key is not accepted. -/
def refusal? : CompletionError → Option Failure
  | .service error =>
      if error.isAuthentication then
        some (.authentication ("LLM authentication failed: " ++ error.render))
      else none
  | .transport status detail =>
      if status.any Status.isRefusal then
        some (.authentication ("LLM authentication failed: " ++ detail))
      else none
  | .unreadable _ | .invalidRequest _ | .other _ => none

/-- Whether another call may succeed. -/
def isRetryable : CompletionError → Bool
  | .service error => !error.isClassified
  | .transport status _ => (status.map Status.isServerError).getD true
  | .unreadable _ | .invalidRequest _ | .other _ => false

/-- Any other failure of a call. -/
def failure : CompletionError → Failure
  | .service error => .generation ("LLM API error: " ++ error.render)
  | .transport _ detail => .generation ("LLM request failed: " ++ detail)
  | .unreadable detail =>
      .generation ("Failed to parse LLM response" ++ detail.elim "" (": " ++ ·))
  | .invalidRequest reason => .validation reason
  | .other detail => .generation detail

end CompletionError

namespace GenerationClient

/-- The address of the service. -/
def url (client : GenerationClient) : String :=
  client.baseUrl ++ "/chat/completions"

/-- A message of a request. -/
def messageJson (message : Message) : Json :=
  .ofMembers [("role", .str message.role.name), ("content", .str message.content)]

/-- The messages that are sent. -/
def sentMessages (messages : List Message) : List Message :=
  messages.filter (fun message => !Text.isBlankText message.content)

/-- The request for a text. -/
def request (client : GenerationClient) (messages : List Message) (options : GenerationOptions) :
    Request :=
  let temperature := (options.temperature.or client.temperature).toList.map (fun value =>
    ("temperature", Json.single value))
  let maxTokens := options.maxTokens.toList.map (fun value => ("max_tokens", Json.nat value))
  { url := client.url
    authorization := some ("Bearer " ++ client.apiKey.getD "")
    body := .ofMembers
      ([("messages", .list ((sentMessages messages).map messageJson)),
        ("model", .str (options.model.getD client.model))] ++ maxTokens ++ temperature) }

/-! ## One call -/

/-- The longest wait before a request is repeated, in thousandths of a second. -/
def longestWait : Nat := 60000

/-- The first wait before a request is repeated. -/
def firstWait : Nat := 500

/-- Send a request and repeat it while the service is overloaded; each wait is half as long again as
the one before, and all of them together fit into the time that is left. -/
def callWithin (url : String) (request : Request) (left wait : Nat) : Exchange CallOutcome :=
  .send request (fun reply =>
    if _repeats : Completion.isTransient reply ∧ 0 < wait ∧ wait ≤ left then
      callWithin url request (left - wait) (min longestWait (wait * 3 / 2))
    else .done (Completion.ofReply url reply))
termination_by left
decreasing_by omega

/-- Make one call. -/
def call (client : GenerationClient) (request : Request) : Exchange CallOutcome :=
  callWithin client.url request (client.timeout * 1000) firstWait

/-! ## The text -/

/-- The text of the first choice; a missing one is as good as an empty one. -/
def firstText : List (Option String) → Except Failure String
  | [] => .error (.generation "LLM response contained no choices")
  | choice :: _ =>
      let text := choice.getD ""
      if Text.isBlankText text then .error (.generation "LLM response contained empty content")
      else .ok text

/-- What one call means for the matter. -/
def attemptOf : CallOutcome → Attempt Failure String
  | .ok choices =>
      match firstText choices with
      | .ok text => .success text
      | .error failure => .final failure
  | .error error =>
      match error.rateLimit?.or error.refusal? with
      | some failure => .final failure
      | none => if error.isRetryable then .again error.failure else .final error.failure

/-! ## All calls -/

/-- The failure when there is no call left and none of them has settled the matter. -/
def callsUsedUp (last : Option Failure) : Failure :=
  last.getD (.generation "LLM completion failed after retries")

/-- Calls until one settles the matter, when so many of them are left and the last one failed like
this. -/
def callUntilSettled (once : Exchange (Attempt Failure String)) (usedUp : Option Failure → Failure) :
    Nat → Option Failure → Exchange (Except Failure String)
  | 0, last => .done (.error (usedUp last))
  | left + 1, _ =>
      once.andThen (fun attempt =>
        match attempt with
        | .success text => .done (.ok text)
        | .again failure =>
            if 0 < left then callUntilSettled once usedUp left (some failure)
            else .done (.error failure)
        | .final failure => .done (.error failure))

/-- The next message of a conversation, with a way of making one call and a failure for calls that
are used up. -/
def chatBy (client : GenerationClient) (create : Request → Exchange CallOutcome)
    (usedUp : Option Failure → Failure) (messages : List Message) (options : GenerationOptions) :
    Exchange (Except Failure String) :=
  if (sentMessages messages).isEmpty then
    .done (.error (.validation "Chat transcript cannot be empty"))
  else
    callUntilSettled
      ((create (client.request messages options)).andThen (fun outcome => .done (attemptOf outcome)))
      usedUp (client.maxRetries + 1) none

/-- The next message of a conversation. -/
def chat (client : GenerationClient) (messages : List Message) (options : GenerationOptions) :
    Exchange (Except Failure String) :=
  client.chatBy client.call callsUsedUp messages options

/-- Whether a provider wants a key. -/
def needsKey (provider : String) : Bool :=
  let written := Text.lowercase provider
  !(written == "ollama" || written == ModelName.localProvider || written == "lmstudio")

/-- The client of a configuration, if it has the key that it needs. -/
def ofConfig (config : GenerationConfig) : Except Failure GenerationClient :=
  let name := ModelName.ofGeneration config.model
  if needsKey name.provider && config.apiKey.isNone then
    .error (.generationUnavailable "API key required for this provider")
  else
    .ok
      { baseUrl := config.baseUrl.getD (defaultBaseUrl name.provider)
        apiKey := config.apiKey, model := name.model, timeout := config.timeout,
        maxRetries := config.maxRetries, temperature := config.temperature }

end GenerationClient

/-! ## Providers -/

/-- The services that are told apart. -/
inductive GenerationService
  | openAI
  | openRouter
  | ollama
  | lmStudio
  /-- Any other that follows the same format. -/
  | compatible (baseUrl : String)
  deriving DecidableEq, Repr, Inhabited

/-- A provider of generated text as it is configured. -/
inductive GenerationProvider
  | available (service : GenerationService) (client : GenerationClient)
  | unavailable (reason : String)
  deriving Inhabited

namespace GenerationProvider

/-- The service of a configuration. -/
def serviceOf? (config : GenerationConfig) : Option GenerationService :=
  let written := Text.lowercase (ModelName.ofGeneration config.model).provider
  if written = "openai" then some .openAI
  else if written = "openrouter" then some .openRouter
  else if written = "ollama" then some .ollama
  else if written = "lmstudio" then some .lmStudio
  else config.baseUrl.map .compatible

/-- The provider of a configuration that may be missing. -/
def ofConfig : Option GenerationConfig → GenerationProvider
  | none => .unavailable "No LLM configuration provided"
  | some config =>
      match serviceOf? config with
      | none => .unavailable ("Unknown provider in model: " ++ config.model)
      | some service =>
          match GenerationClient.ofConfig config with
          | .ok client => .available service client
          | .error failure => .unavailable failure.message

/-- Whether text can be generated. -/
def isAvailable : GenerationProvider → Bool
  | .available _ _ => true
  | .unavailable _ => false

/-- The next message of a conversation. -/
def chat (provider : GenerationProvider) (messages : List Message) (options : GenerationOptions) :
    Exchange (Except Failure String) :=
  match provider with
  | .available _ client => client.chat messages options
  | .unavailable reason => .done (.error (.generationUnavailable reason))

end GenerationProvider

end NoteDialogue
