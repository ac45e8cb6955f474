import NoteDialogue.Message
import NoteDialogue.Prompt
import NoteDialogue.Reference

/-!
# Requests for a turn

What the caller hands in for one turn: who asks in which conversation, the text, the earlier messages,
and possibly a mode that it has kept for the conversation and notes that it has looked up already.

A request is checked before anything else happens.  Everything that is wrong with it is reported at
once, a line for each field in the order of the names.
-/

set_option autoImplicit false

namespace NoteDialogue

/-- What one turn is asked with. -/
structure TurnRequest where
  userId : String
  sessionId : String
  text : String
  history : List Message := []
  /-- The mode that the caller has kept for the conversation, in written form. -/
  sessionMode : Option String := none
  /-- References that the caller has looked up, such as notes attached to the message. -/
  attached : List ResolvedReference := []
  deriving DecidableEq, Repr, Inhabited

/-- What can be wrong with a request. -/
inductive RequestProblem
  | manyAttached
  | emptySession
  | longText
  | emptyUser
  deriving DecidableEq, Repr

namespace RequestProblem

/-- The line that reports a problem. -/
def line : RequestProblem → String
  | .manyAttached => "attached_references: at most 5 notes can be attached"
  | .emptySession => "session_id: session id cannot be empty"
  | .longText => "text: message is too long"
  | .emptyUser => "user_id: user id cannot be empty"

/-- The message about some problems. -/
def message (problems : List RequestProblem) : String :=
  joinLines (problems.map line)

end RequestProblem

namespace TurnRequest

/-- The notes that may be attached. -/
def maxAttached : Nat := 5

/-- The characters that a text may have. -/
def maxTextLength : Nat := 16000

/-- Whether a request has a problem. -/
def has (request : TurnRequest) : RequestProblem → Bool
  | .manyAttached => maxAttached < request.attached.length
  | .emptySession => request.sessionId.isEmpty
  | .longText => maxTextLength < request.text.length
  | .emptyUser => request.userId.isEmpty

/-- The problems of a request. -/
def problems (request : TurnRequest) : List RequestProblem :=
  [RequestProblem.manyAttached, .emptySession, .longText, .emptyUser].filter request.has

end TurnRequest

end NoteDialogue
