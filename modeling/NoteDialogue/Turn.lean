import NoteDialogue.Reference.Mentions
import NoteDialogue.Reference.Resolution
import NoteDialogue.Turn.Dialogue
import NoteDialogue.Turn.Request

/-!
# Turns

One turn of a conversation, as an interaction that takes the session as it was and gives the result and
the session as it is to be kept.  The mode is settled first and the references are looked up; then the
turn is answered in one of four ways: from the notes that it refers to, with a fixed reply when there is
nothing to answer, past the notes, or from the notes that the conversation is about.
-/

set_option autoImplicit false

namespace NoteDialogue

/-- What the caller gets for a turn. -/
structure TurnResult where
  reply : String
  /-- The notes that ground the reply. -/
  citations : List Citation := []
  mode : ModeSelection
  /-- The mode that stays in force, in written form. -/
  stickyMode : Option String := none
  references : List ResolvedReference := []
  action : Option ActionKind := none
  strategy : Option SearchStrategy := none
  deriving Inhabited

namespace TurnResult

/-- The result with a reply and nothing else. -/
def plain (reply : String) (mode : ModeSelection) : TurnResult :=
  { reply, mode }

/-- The result of a turn with a selection and references, which leaves a session. -/
def ofReply (reply : TurnReply) (mode : ModeSelection) (references : List ResolvedReference)
    (session : Session) : TurnResult :=
  { reply := reply.text, citations := reply.citations, mode,
    stickyMode := session.stickyMode.map ModeSelection.render, references,
    action := reply.action, strategy := reply.strategy }

end TurnResult

namespace ResolvedReference

/-- The note of a reference that was found. -/
def document? (reference : ResolvedReference) : Option Document :=
  if reference.found then
    reference.noteId.map (fun id =>
      { id, title := reference.title, plainContent := reference.plainContent })
  else none

end ResolvedReference

namespace Turn

/-- The failure of a message with too many references. -/
def tooManyReferences (limit count : Nat) : Failure :=
  .validation ("A message can reference at most " ++ toString limit ++ " notes, found " ++
    toString count)

/-- Go on unless there are too many references. -/
def checkCount (config : TurnConfig) (count : Nat) : Except Failure Unit :=
  if config.maxReferences < count then .error (tooManyReferences config.maxReferences count)
  else .ok ()

/-- The references of a turn: those that the caller attached or else those in the text. -/
def references (config : TurnConfig) (request : TurnRequest) (mentions : List Mention) :
    Interaction (List ResolvedReference) := do
  if request.attached.isEmpty then
    Interaction.ofExcept (checkCount config mentions.length)
    Mention.resolveAll request.userId mentions
  else
    Interaction.ofExcept (checkCount config request.attached.length)
    pure (ResolvedReference.dedupe request.attached)

/-- The window of earlier messages; a window of no turns ends the program. -/
def history (config : TurnConfig) (mode : ChatMode) (messages : List Message) :
    Interaction (List Message) :=
  match historyWindow? config.historyTurns mode messages with
  | some window => .done window
  | none => .crashed

/-- Answer from the notes that the turn refers to. -/
def replyFromReferences (setting : TurnSetting) (references : List ResolvedReference)
    (question : String) : Interaction TurnReply :=
  let documents := references.filterMap ResolvedReference.document?
  let question := if question.isEmpty then attachedNotesQuestion else question
  if setting.selected.selection.mode.isBypass then
    setting.replyDirectly [Message.system (sharedNotes documents)] question
  else setting.answer documents question

/-- The fixed reply to a turn without a question. -/
def replyWithoutQuestion (selection : ModeSelection) (references : List ResolvedReference) :
    TurnReply :=
  if references.isEmpty then { text := usageHint selection }
  else { text := referencesNotFoundReply references }

/-- Answer a turn in the way that it calls for. -/
def routeWith (refusal : Refusal) (config : Config) (request : TurnRequest)
    (selected : StyledSelection) (session : Session) (references : List ResolvedReference)
    (question : String) : Interaction Outcome := do
  if references.any (·.found) then
    let history ← history config.turn selected.selection.mode request.history
    let reply ← replyFromReferences ⟨config.turn, selected, history⟩ references question
    pure (reply, session)
  else if question.isEmpty then
    pure (replyWithoutQuestion selected.selection references, session)
  else
    let history ← history config.turn selected.selection.mode request.history
    let setting : TurnSetting := ⟨config.turn, selected, history⟩
    if selected.selection.mode.isBypass then
      let reply ← setting.replyDirectly [] question
      pure (reply, session)
    else Dialogue.replyWith refusal setting config.retrieval request.userId session question

/-- Run one turn of a session: the result, and the session to keep. -/
def runWith (refusal : Refusal) (config : Config) (request : TurnRequest) (session : Session) :
    Interaction (TurnResult × Session) := do
  let directive := Directive.ofUtterance request.text
  let requested := requestedMode directive request.sessionMode session.stickyMode
  let selected ← StyledSelection.resolve requested.selection
  let session := session.keepMode config.turn selected.selection requested.byTurn
  let reading := MentionReading.ofText directive.cleanText
  let references ← references config.turn request reading.mentions
  let (reply, session) ←
    routeWith refusal config request selected session references reading.cleanText
  pure (TurnResult.ofReply reply selected.selection references session, session)

/-- Answer a turn, and ask back after a refusal. -/
def route : Config → TurnRequest → StyledSelection → Session → List ResolvedReference → String →
    Interaction Outcome :=
  routeWith .askBack

/-- Run one turn, and ask back after a refusal. -/
def run : Config → TurnRequest → Session → Interaction (TurnResult × Session) :=
  runWith .askBack

end Turn

end NoteDialogue
