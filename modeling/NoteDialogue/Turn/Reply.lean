import NoteDialogue.History
import NoteDialogue.Plan
import NoteDialogue.Query
import NoteDialogue.Turn.Selection

/-!
# Replies

The reply of a turn with its bookkeeping, and the one call of a model that writes it.  An answer from
notes opens with an instruction, followed by the style, the earlier messages, the notes and the
question; what is said past the notes has neither the instruction nor the notes.
-/

set_option autoImplicit false

namespace NoteDialogue

/-- What a way of answering gives. -/
structure TurnReply where
  text : String
  /-- The notes that ground the reply. -/
  citations : List Citation := []
  /-- What was done about the notes. -/
  action : Option ActionKind := none
  /-- How notes were searched. -/
  strategy : Option SearchStrategy := none
  deriving Inhabited

/-- What a turn runs with: its configuration, its selection and the earlier messages that a model is
shown. -/
structure TurnSetting where
  config : TurnConfig
  selected : StyledSelection
  history : List Message
  deriving Inhabited

namespace TurnSetting

/-- Have a reply written. -/
def generate (setting : TurnSetting) (messages : List Message) : Interaction String := do
  let options : GenerationOptions := { model := setting.selected.model? }
  match ← Interaction.request
      (.generate .answering messages options setting.config.generationTimeout) with
  | .inTime answer => Interaction.ofExcept answer
  | .late => .failed (.timeout "Generation")

/-- The messages for an answer from notes. -/
def groundedMessages (setting : TurnSetting) (documents : List Document) (question : String) :
    List Message :=
  [Message.system systemSeed] ++ setting.selected.instruction ++ setting.history ++
    [Message.system (contextBlock documents), Message.user question]

/-- Answer from notes. -/
def answer (setting : TurnSetting) (documents : List Document) (question : String) :
    Interaction TurnReply := do
  let text ← setting.generate (setting.groundedMessages documents question)
  pure { text, citations := documents.map Document.citation }

/-- The messages for a reply past the notes; `shared` are those that the user refers to. -/
def directMessages (setting : TurnSetting) (shared : List Message) (question : String) :
    List Message :=
  setting.selected.instruction ++ setting.history ++ shared ++ [Message.user question]

/-- Reply past the notes. -/
def replyDirectly (setting : TurnSetting) (shared : List Message) (question : String) :
    Interaction TurnReply := do
  let text ← setting.generate (setting.directMessages shared question)
  pure { text }

end TurnSetting

/-- The reply that asks which note is meant. -/
def TurnReply.clarify (session : Session) : TurnReply :=
  { text := clarifyReply session.candidates, action := some .clarify }

end NoteDialogue
