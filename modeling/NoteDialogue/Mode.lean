import NoteDialogue.Text.Blank
import NoteDialogue.Text.LetterCase
import NoteDialogue.Text.Passage

/-!
# Modes of a turn

A turn is answered from the notes or past them, and in either way with or without a style.  A
selection is a mode together with the key of its style; its written form, such as `bypass` or
`rag_style:tutor`, is what a caller keeps between turns.

`ModeSelection.of` is the constructor that keeps the two parts in step: a selection is styled exactly
when it has a key that is not blank.
-/

set_option autoImplicit false

namespace NoteDialogue

/-- How a single turn is answered. -/
inductive ChatMode
  /-- From the notes. -/
  | rag
  /-- Past the notes. -/
  | bypass
  /-- Past the notes, in a named style. -/
  | bypassStyle
  /-- From the notes, in a named style. -/
  | ragStyle
  deriving DecidableEq, Repr, Inhabited

/-- Why a text names no mode. -/
inductive ModeError
  /-- The text, trimmed and in lower case, is no mode. -/
  | unknown (text : String)
  /-- The mode applies a style but the text has no key. -/
  | missingStyleKey (mode : ChatMode)
  deriving DecidableEq, Repr

namespace ChatMode

/-- Answered past the notes. -/
def isBypass : ChatMode → Bool
  | .bypass | .bypassStyle => true
  | .rag | .ragStyle => false

/-- Answered in a named style. -/
def isStyled : ChatMode → Bool
  | .bypassStyle | .ragStyle => true
  | .rag | .bypass => false

/-- The mode without a style that a styled one falls back to. -/
def base : ChatMode → ChatMode
  | .rag | .ragStyle => .rag
  | .bypass | .bypassStyle => .bypass

/-- The written form. -/
def name : ChatMode → String
  | .rag => "rag"
  | .bypass => "bypass"
  | .bypassStyle => "bypass_style"
  | .ragStyle => "rag_style"

/-- The mode with this written form, exactly. -/
def ofName? (written : String) : Option ChatMode :=
  if written = "rag" then some .rag
  else if written = "bypass" then some .bypass
  else if written = "bypass_style" then some .bypassStyle
  else if written = "rag_style" then some .ragStyle
  else none

/-- The mode a text names, blanks around it and the case of its letters apart. -/
def ofText (text : String) : Except ModeError ChatMode :=
  let written := Text.lowercase (Text.trim text)
  match ofName? written with
  | some mode => .ok mode
  | none => .error (.unknown written)

end ChatMode

/-- The message of a text that names no mode. -/
def ModeError.message : ModeError → String
  | .unknown text => "Invalid mode '" ++ text ++ "'. Valid modes: rag, bypass, bypass_style, rag_style"
  | .missingStyleKey mode => "Mode '" ++ mode.name ++ "' requires a style key"

/-- A mode and the key of the style it applies. -/
structure ModeSelection where
  mode : ChatMode := .rag
  styleKey : Option String := none
  deriving DecidableEq, Repr, Inhabited

namespace ModeSelection

/-- The selection for a mode and a key that may be missing.  A mode without a style drops the key; a
blank key drops the style. -/
def of (mode : ChatMode) (styleKey : Option String) : ModeSelection :=
  match styleKey with
  | some key =>
      if mode.isStyled && !Text.isBlankText key then ⟨mode, some key⟩ else ⟨mode.base, none⟩
  | none => ⟨mode.base, none⟩

/-- Answering from the notes without a style, the selection of a new conversation. -/
def plain : ModeSelection := {}

/-- The same selection without its style. -/
def unstyled (selection : ModeSelection) : ModeSelection :=
  of selection.mode.base none

/-- The written form. -/
def render (selection : ModeSelection) : String :=
  match selection.styleKey with
  | some key => selection.mode.name ++ ":" ++ key
  | none => selection.mode.name

/-- The mode and the key in a written selection, cut at the first colon. -/
def parts (text : String) : String × Option String :=
  match Text.splitAtChar? ':' (Text.trimChars text.toList) with
  | some (mode, key) => (String.ofList mode, some (String.ofList (Text.trimChars key)))
  | none => (text, none)

/-- The selection a text writes. -/
def ofText (text : String) : Except ModeError ModeSelection :=
  let (written, key) := parts text
  match ChatMode.ofText written with
  | .error error => .error error
  | .ok mode =>
      if mode.isStyled && (key.getD "").isEmpty then .error (.missingStyleKey mode)
      else .ok (of mode key)

end ModeSelection

end NoteDialogue
