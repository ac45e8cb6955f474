import NoteDialogue.Message
import NoteDialogue.Mode
import NoteDialogue.Prompt

/-!
# The window of earlier messages

A model is given the last turns of a conversation.  A turn starts with a message of the user and runs
to the next one; what stands before the first belongs to the oldest turn.  Blank messages are left
out, and in the bypass modes also the messages that only prime a model with notes; both are left out
before the turns are counted, so that they use up no place in the window.

A window of no turns can only be taken of a history without messages of the user: beyond that its start
would lie past the end of the list of turns.
-/

set_option autoImplicit false

namespace NoteDialogue

/-- A message that counts in the mode. -/
def isKeptMessage (mode : ChatMode) (message : Message) : Bool :=
  !Text.isBlankText message.content && !(mode.isBypass && isPriming message.content)

/-- The messages of a history that count in the mode. -/
def keptHistory (mode : ChatMode) (history : List Message) : List Message :=
  history.filter (isKeptMessage mode)

/-- The turns that a list of messages holds. -/
def turnCount (messages : List Message) : Nat :=
  messages.countP (fun message => message.role == .user)

/-- The messages without their first turns: everything from the message of the user that opens the
turn after them. -/
def dropTurns (turns : Nat) : List Message → List Message
  | [] => []
  | message :: rest =>
      if message.role == .user then
        match turns with
        | 0 => message :: rest
        | left + 1 => dropTurns left rest
      else dropTurns turns rest

/-- The window of the last turns; none when no turn may be kept but the history has one. -/
def historyWindow? (turns : Nat) (mode : ChatMode) (history : List Message) :
    Option (List Message) :=
  let kept := keptHistory mode history
  let count := turnCount kept
  if count ≤ turns then some kept
  else if turns = 0 then none
  else some (dropTurns (count - turns) kept)

end NoteDialogue
