import NoteDialogue.Config
import NoteDialogue.Interaction
import NoteDialogue.Mode.Directive
import NoteDialogue.Session

/-!
# The mode of a turn

A directive in the text decides the mode; without one the mode that the caller has kept, if it can be
read; without either the mode that stays in force in the session, which is answering from the notes at
first.  A style that cannot be found is left out.

A mode that is configured to stay in force does so from the turn that asks for it.  One that is not
ends the mode in force if the turn asked for it itself.
-/

set_option autoImplicit false

namespace NoteDialogue

/-- The selection that a turn asks for. -/
structure RequestedMode where
  selection : ModeSelection
  /-- Asked for by the turn itself, not by the mode in force. -/
  byTurn : Bool
  deriving DecidableEq, Repr

/-- The selection that the caller has kept, if it can be read. -/
def keptSelection? (sessionMode : Option String) : Option ModeSelection :=
  match sessionMode with
  | some written =>
      if Text.isBlankText written then none else (ModeSelection.ofText written).toOption
  | none => none

/-- The selection that a turn asks for, given the mode in force. -/
def requestedMode (directive : Directive) (sessionMode : Option String)
    (inForce : Option ModeSelection) : RequestedMode :=
  if directive.explicit then ⟨directive.selection, true⟩
  else
    match keptSelection? sessionMode with
    | some selection => ⟨selection, true⟩
    | none => ⟨inForce.getD .plain, false⟩

/-- A selection whose style, if it has one, has been found. -/
structure StyledSelection where
  selection : ModeSelection
  style : Option Style
  deriving Inhabited

namespace StyledSelection

/-- The selection with the style that a lookup gave; without a style it is the unstyled one. -/
def ofLookup (selection : ModeSelection) : Except Failure (Option Style) → StyledSelection
  | .ok (some style) => ⟨selection, some style⟩
  | .ok none | .error _ => ⟨selection.unstyled, none⟩

/-- Find the style of a selection. -/
def resolve (selection : ModeSelection) : Interaction StyledSelection :=
  match selection.styleKey with
  | none => .done ⟨selection, none⟩
  | some key => do
      let found ← Interaction.lookUp (.style key)
      pure (ofLookup selection found)

/-- The instruction of the style, which a model is given as a message. -/
def instruction (selected : StyledSelection) : List Message :=
  selected.style.toList.map (fun style => Message.system style.systemPrompt)

/-- The model that the style asks for. -/
def model? (selected : StyledSelection) : Option String :=
  selected.style.bind (·.modelOverride)

end StyledSelection

/-- The mode in force after a turn with this selection. -/
def modeInForce (config : TurnConfig) (selection : ModeSelection) (byTurn : Bool)
    (inForce : Option ModeSelection) : Option ModeSelection :=
  if config.isSticky selection.mode then some selection
  else if byTurn then none
  else inForce

namespace Session

/-- The session with the mode in force after a turn with this selection. -/
def keepMode (session : Session) (config : TurnConfig) (selection : ModeSelection)
    (byTurn : Bool) : Session :=
  { session with stickyMode := modeInForce config selection byTurn session.stickyMode }

end Session

end NoteDialogue
