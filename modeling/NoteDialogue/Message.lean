/-!
# Messages

One message of a conversation with a model: who speaks, and the text.  Nothing depends on the time at
which it was said, so that only its written form has one.
-/

set_option autoImplicit false

namespace NoteDialogue

/-- Who speaks. -/
inductive Role
  | system
  | assistant
  | user
  deriving DecidableEq, Repr, Inhabited

/-- The written form. -/
def Role.name : Role → String
  | .system => "system"
  | .assistant => "assistant"
  | .user => "user"

/-- The role with this written form. -/
def Role.ofName? (written : String) : Option Role :=
  if written = "system" then some .system
  else if written = "assistant" then some .assistant
  else if written = "user" then some .user
  else none

/-- What a role says. -/
structure Message where
  role : Role
  content : String
  deriving DecidableEq, Repr, Inhabited

namespace Message

/-- An instruction to the model. -/
def system (content : String) : Message := ⟨.system, content⟩

/-- Words of the model. -/
def assistant (content : String) : Message := ⟨.assistant, content⟩

/-- Words of the user. -/
def user (content : String) : Message := ⟨.user, content⟩

end Message

end NoteDialogue
