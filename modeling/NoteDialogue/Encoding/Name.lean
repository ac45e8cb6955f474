import NoteDialogue.Ambiguity
import NoteDialogue.Json.Record
import NoteDialogue.Message
import NoteDialogue.Mode
import NoteDialogue.Plan
import NoteDialogue.Query
import NoteDialogue.Reference
import NoteDialogue.Session
import NoteDialogue.Time.Timestamp

/-!
# Names and times in JSON

Values without data are kept under their names, and points in time in their written form.
-/

set_option autoImplicit false

namespace NoteDialogue

/-- The kind of reference with a written form. -/
def ReferenceKind.ofName? (written : String) : Option ReferenceKind :=
  [ReferenceKind.exactId, .quotedTitle, .freeText].find? (fun kind => kind.name == written)

/-- A role from its JSON form. -/
def Role.ofJson? (json : Json) : Option Role :=
  json.nameOf? Role.ofName?

/-- A mode from its JSON form. -/
def ChatMode.ofJson? (json : Json) : Option ChatMode :=
  json.nameOf? ChatMode.ofName?

/-- A kind of action from its JSON form. -/
def ActionKind.ofJson? (json : Json) : Option ActionKind :=
  json.nameOf? ActionKind.ofName?

/-- A kind of reference from its JSON form. -/
def ReferenceKind.ofJson? (json : Json) : Option ReferenceKind :=
  json.nameOf? ReferenceKind.ofName?

/-- A strategy from its JSON form. -/
def SearchStrategy.ofJson? (json : Json) : Option SearchStrategy :=
  json.nameOf? SearchStrategy.ofName?

/-- A reason of ambiguity from its JSON form. -/
def AmbiguityReason.ofJson? (json : Json) : Option AmbiguityReason :=
  json.nameOf? AmbiguityReason.ofName?

/-- A state of a session from its JSON form. -/
def SessionState.ofJson? (json : Json) : Option SessionState :=
  json.nameOf? SessionState.ofName?

/-- A point in time from its JSON form. -/
def Timestamp.ofJson? (json : Json) : Option Timestamp :=
  (json.text?).bind Timestamp.ofText?

/-- The JSON form of a point in time. -/
def Timestamp.toJson (time : Timestamp) : Json :=
  .str time.render

end NoteDialogue
