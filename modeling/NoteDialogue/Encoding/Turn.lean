import NoteDialogue.Encoding.Message
import NoteDialogue.Encoding.Reference
import NoteDialogue.Encoding.Session
import NoteDialogue.Turn

/-!
# Turns in JSON

The request of a turn as a caller writes it, and its result as a caller reads it.
-/

set_option autoImplicit false

namespace NoteDialogue

namespace TurnRequest

/-- The fields of a request. -/
def fields : List Json.Field :=
  [.plain "userId", .plain "sessionId", .plain "text", .withDefault "history",
    .withDefault "sessionMode", .withDefault "attachedReferences"]

/-- A request from its JSON form. -/
def ofJson? (json : Json) : Option TurnRequest :=
  match Json.record? fields json with
  | some [userId, sessionId, text, history, sessionMode, attached] => do
      let userId ← Json.required Json.text? userId
      let sessionId ← Json.required Json.text? sessionId
      let text ← Json.required Json.text? text
      let history ← Json.orDefault [] (Json.listOf? DatedMessage.ofJson?) history
      let sessionMode ← Json.possible Json.text? sessionMode
      let attached ← Json.orDefault [] (Json.listOf? ResolvedReference.ofJson?) attached
      some { userId, sessionId, text, history := history.map (·.message), sessionMode, attached }
  | _ => none

end TurnRequest

namespace TurnResult

/-- The JSON form of a result. -/
def toJson (result : TurnResult) : Json :=
  .ofMembers [("reply", .str result.reply),
    ("citations", .list (result.citations.map Citation.toJson)),
    ("mode", result.mode.toJson), ("stickyMode", .optional .str result.stickyMode),
    ("resolvedReferences", .list (result.references.map ResolvedReference.toJson)),
    ("action", .optional (fun kind => .str kind.name) result.action),
    ("strategy", .optional (fun strategy => .str strategy.name) result.strategy)]

end TurnResult

end NoteDialogue
