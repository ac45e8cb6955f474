import NoteDialogue.Encoding.Config
import NoteDialogue.Encoding.Failure
import NoteDialogue.Rehearsal

/-!
# Scripts of rehearsals in JSON

The parts of a script as they are written down: what the model says, how the embedder works, and which
lookups fail.
-/

set_option autoImplicit false

namespace NoteDialogue

/-- A cue from its JSON form: how long it takes, and the failure it comes to, if any. -/
def Cue.ofJson {α : Type} (result : α) (json : Json) : Cue α :=
  { delay := json.natAt "delayMs" 0
    outcome := if (json.given? "err").isSome then .error (.ofJson json) else .ok result }

/-- A line of the model from its JSON form. -/
def Cue.lineOfJson (json : Json) : Cue String :=
  .ofJson (json.textAt "ok") json

/-- An embedder from its JSON form. -/
def WordCounter.ofJson (json : Json) : WordCounter :=
  { vocabulary := json.textsAt "vocabulary"
    bias := (json.singleAt? "bias").getD 0.125
    fixed := (json.member "fixed").members.map (fun (text, vector) => (text, vector.vector)) }

/-- The failing lookups of notes from their JSON form. -/
def LookupFailures.ofJson (json : Json) : LookupFailures :=
  let failure (name : String) : Option Failure := (json.given? name).map .ofJson
  { byId := failure "findById", byTitle := failure "exactTitle", byText := failure "fuzzy",
    byTerms := failure "literal", bySimilarity := failure "similar" }

/-- The JSON form of a call of the model. -/
def GenerationCall.toJson (call : GenerationCall) : Json :=
  .ofMembers
    [("messages", .list (call.messages.map (fun message =>
        .list [.str message.role.name, .str message.content]))),
      ("model", .optional .str call.options.model),
      ("temperature", .optional .singleOrName call.options.temperature),
      ("maxTokens", .optional .nat call.options.maxTokens)]

/-- The JSON form of a text that was embedded. -/
def EmbeddingCall.toJson (call : EmbeddingCall) : Json :=
  .list [.str call.purpose.name, .str call.text]

end NoteDialogue
