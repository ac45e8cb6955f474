import NoteDialogue.Json.Member
import NoteDialogue.Json.Writer
import NoteDialogue.Network.Exchange
import NoteDialogue.Rehearsal

/-!
# Rehearsed services

Servers that follow a script, for trying out the clients and the whole program without a network.  A
`ReplyQueue` gives the replies that it was told to give, in order, and finds nothing when it has run out
of them.  A `StandIn` behaves like a provider: it embeds texts by counting words and completes
conversations with the texts it was told to.  Both keep the requests that were made, the last one first.
-/

set_option autoImplicit false

namespace NoteDialogue

/-- The replies that are left and the requests so far. -/
structure ReplyQueue where
  replies : List Reply
  requests : List Request := []
  deriving Inhabited

namespace ReplyQueue

/-- What comes back when no reply is left. -/
def nothingFound : Reply := .answered 404 [] ""

/-- Give the next reply. -/
def serve (request : Request) (queue : ReplyQueue) : Reply × ReplyQueue :=
  let requests := request :: queue.requests
  match queue.replies with
  | [] => (nothingFound, { replies := [], requests })
  | reply :: rest => (reply, { replies := rest, requests })

end ReplyQueue

/-- A reply from its JSON form.  A body that is a text is sent as it is, any other body as JSON. -/
def Reply.ofJson (json : Json) : Reply :=
  if json.isTrueAt "drop" then .dropped
  else
    let headers := (json.itemsAt "headers").filterMap (fun header =>
      match header with
      | .list [name, value] => some (name.content, value.content)
      | _ => none)
    let body := match json.member "body" with
      | .text (.plain body) => body
      | other => other.render
    .answered (json.natAt "status" 200) headers body

/-- A provider of embeddings and of generated text; a text that is left out is sent as `null`. -/
structure StandIn where
  counter : WordCounter
  texts : List (Option String)
  requests : List Request := []
  deriving Inhabited

namespace StandIn

/-- The body of a completion. -/
def completionJson (text : Option String) : Json :=
  let message : Json :=
    .ofMembers [("role", .str "assistant"), ("content", .optional .str text)]
  let choice : Json :=
    .ofMembers [("index", .nat 0), ("message", message), ("finish_reason", .str "stop")]
  .ofMembers
    [("id", .str "c"), ("object", .str "chat.completion"), ("created", .nat 1),
      ("model", .str "m"), ("choices", .list [choice])]

/-- The body of the answer when no text is left. -/
def wordlessJson : Json :=
  .ofMembers
    [("error", .ofMembers
      [("message", .str "no scripted reply"), ("type", .str "x"), ("param", .null),
        ("code", .str "y")])]

/-- The body of an answer with the embeddings that a request asks for. -/
def embeddingsJson (counter : WordCounter) (body : Json) : Json :=
  .ofMembers
    [("data", .list ((body.textsAt "input").map (fun text =>
      .ofMembers [("embedding", .list ((counter.embed text).map .single))])))]

/-- Answer a request at a path. -/
def serve (path : Request → String) (request : Request) (service : StandIn) : Reply × StandIn :=
  let recorded := { service with requests := request :: service.requests }
  if path request == "/embeddings" then
    (.answered 200 [] (embeddingsJson service.counter request.body).render, recorded)
  else
    match service.texts with
    | [] => (.answered 400 [] wordlessJson.render, recorded)
    | text :: rest =>
        (.answered 200 [] (completionJson text).render, { recorded with texts := rest })

end StandIn

end NoteDialogue
