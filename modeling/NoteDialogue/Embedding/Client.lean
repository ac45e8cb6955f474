import NoteDialogue.Embedding.InputStyle
import NoteDialogue.Failure
import NoteDialogue.Json.Reader
import NoteDialogue.Json.Record
import NoteDialogue.ModelName
import NoteDialogue.Network.Exchange
import NoteDialogue.Network.Status
import NoteDialogue.Notes.Similarity

/-!
# A provider of embeddings

Texts are embedded by one request, and the embeddings come back in the order of the texts.  A provider
may number them; they are sorted when all carry a number.  A request is repeated when the connection
breaks, when there are too many requests and when the server fails; any other reply is final.
-/

set_option autoImplicit false

namespace NoteDialogue

/-- An item of a reply with embeddings. -/
structure EmbeddingItem where
  index : Option Nat
  embedding : Vector32
  deriving Inhabited

namespace EmbeddingItem

/-- An item from its JSON form. -/
def ofJson? (json : Json) : Option EmbeddingItem :=
  match Json.record? [.withDefault "index", .plain "embedding"] json with
  | some [index, embedding] => do
      let index ← Json.possible Json.word? index
      let embedding ← Json.required (Json.listOf? Json.single?) embedding
      some { index, embedding }
  | _ => none

/-- The items in the body of a reply. -/
def ofBody? (body : String) : Option (List EmbeddingItem) :=
  match (Json.ofText? body).bind (Json.record? [.plain "data"]) with
  | some [data] => Json.required (Json.listOf? ofJson?) data
  | _ => none

/-- Items in order: by number if all are numbered, or else as they came. -/
def ordered (items : List EmbeddingItem) : List EmbeddingItem :=
  if items.all (·.index.isSome) then
    items.mergeSort (fun left right => left.index.getD 0 ≤ right.index.getD 0)
  else items

/-- The embeddings of so many texts. -/
def embeddings (items : List EmbeddingItem) (expected : Nat) : Except Failure (List Vector32) :=
  if items.length = expected then .ok ((ordered items).map (·.embedding))
  else .error (.embedding ("Expected " ++ toString expected ++ " embeddings, got " ++
    toString items.length))

end EmbeddingItem

/-- How a provider of embeddings is asked. -/
structure EmbeddingClient where
  baseUrl : String
  apiKey : Option String
  model : String
  maxRetries : Nat
  inputStyle : InputStyle
  deriving Repr, Inhabited

/-- What one request for embeddings comes to. -/
abbrev EmbeddingAttempt := Attempt Failure (List Vector32)

namespace EmbeddingClient

/-- The address of the service. -/
def url (client : EmbeddingClient) : String :=
  String.ofList (Text.dropTrailing (· = '/') client.baseUrl.toList) ++ "/embeddings"

/-- The request for some texts. -/
def request (client : EmbeddingClient) (purpose : EmbeddingPurpose) (texts : List String) :
    Request :=
  let input := texts.map (fun text => Json.str (client.inputStyle.mark purpose ++ text))
  let field := (client.inputStyle.fieldValue? purpose).toList.map (fun value =>
    ("input_type", Json.str value))
  { url := client.url
    authorization := client.apiKey.map ("Bearer " ++ ·)
    body := .ofMembers ([("model", .str client.model), ("input", .list input)] ++ field) }

/-- A text without the mark of byte order at its start. -/
def withoutOrderMark (body : String) : String :=
  match body.toList with
  | c :: rest => if c.toNat = 0xFEFF then String.ofList rest else body
  | [] => body

/-- The attempt that ended with a reply to so many texts. -/
def attemptOf (url : String) (expected : Nat) : Reply → EmbeddingAttempt
  | .dropped =>
      .again (.embedding ("Request failed: error sending request for url (" ++ url ++ ")"))
  | .answered status headers body =>
      let body := if Status.isBodiless status then "" else body
      if Status.isSuccess status then
        match EmbeddingItem.ofBody? body with
        | none =>
            .final (.embedding "Failed to parse response: error decoding response body")
        | some items =>
            match EmbeddingItem.embeddings items expected with
            | .ok embeddings => .success embeddings
            | .error failure => .final failure
      else if status = Status.tooMany then
        let retryAfter := ((Reply.header? "retry-after" headers).map Text.trim).bind
          (Numeral.natural? Numeral.maxWord)
        .again (.embeddingRateLimit retryAfter)
      else if Status.isRefusal status then .final (.authentication (withoutOrderMark body))
      else if Status.isServerError status then
        .again (.embedding ("Server error " ++ Status.render status ++ ": " ++
          withoutOrderMark body))
      else
        .final (.embedding ("API error " ++ Status.render status ++ ": " ++
          withoutOrderMark body))

/-- The embeddings of some texts; none are asked for when there is no text. -/
def embed (client : EmbeddingClient) (purpose : EmbeddingPurpose) (texts : List String) :
    Exchange (Except Failure (List Vector32)) :=
  if texts.isEmpty then .done (.ok [])
  else
    Exchange.attempts
      ((Exchange.post (client.request purpose texts)).andThen (fun reply =>
        .done (attemptOf client.url texts.length reply)))
      client.maxRetries

/-- The embedding of one text. -/
def embedOne (client : EmbeddingClient) (purpose : EmbeddingPurpose) (text : String) :
    Exchange (Except Failure Vector32) := do
  match ← client.embed purpose [text] with
  | .error failure => pure (.error failure)
  | .ok [] => pure (.error (.embedding "No embedding generated"))
  | .ok (embedding :: _) => pure (.ok embedding)

end EmbeddingClient

/-- A provider of embeddings as it is configured. -/
structure EmbeddingProvider where
  client : EmbeddingClient
  /-- The length of embeddings, as it is configured. -/
  dimensions : Nat
  deriving Repr, Inhabited

namespace EmbeddingProvider

/-- Whether a provider wants a key, in this spelling. -/
def needsKey (provider : String) : Bool :=
  provider == "openai" || provider == "openrouter"

/-- The provider of a configuration.  There is none for models that would run on this computer. -/
def ofConfig (config : EmbeddingConfig) : Except Failure EmbeddingProvider :=
  let name := ModelName.ofEmbedding config.model
  if name.provider = ModelName.localProvider then
    .error (.embedding ("No local embedding model " ++ name.model))
  else if config.apiKey.isNone && needsKey name.provider then
    .error (.embedding ("EMBEDDING_API_KEY is required for provider " ++ name.provider))
  else
    .ok
      { client :=
          { baseUrl := config.baseUrl.getD (defaultBaseUrl name.provider)
            apiKey := config.apiKey, model := name.model, maxRetries := config.maxRetries,
            inputStyle := InputStyle.ofConfig config name.model }
        dimensions := config.dimensions }

end EmbeddingProvider

end NoteDialogue
