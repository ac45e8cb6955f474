import NoteDialogue.Encoding.Name
import NoteDialogue.Message

/-!
# Messages in JSON

A message that is handed over may carry the time at which it was said.  Nothing depends on that time,
which is only passed on.
-/

set_option autoImplicit false

namespace NoteDialogue

/-- A message and when it was said. -/
structure DatedMessage where
  message : Message
  timestamp : Option Timestamp := none
  deriving DecidableEq, Repr, Inhabited

namespace DatedMessage

/-- A message from its JSON form. -/
def ofJson? (json : Json) : Option DatedMessage :=
  match Json.record? [.plain "role", .plain "content", .withDefault "timestamp"] json with
  | some [role, content, timestamp] => do
      let role ← Json.required Role.ofJson? role
      let content ← Json.required Json.text? content
      let timestamp ← Json.possible Timestamp.ofJson? timestamp
      some { message := { role, content }, timestamp }
  | _ => none

/-- The JSON form of a message. -/
def toJson (dated : DatedMessage) : Json :=
  .ofMembers [("role", .str dated.message.role.name), ("content", .str dated.message.content),
    ("timestamp", .optional Timestamp.toJson dated.timestamp)]

end DatedMessage

end NoteDialogue
