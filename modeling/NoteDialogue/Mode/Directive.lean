import NoteDialogue.Mode

/-!
# Directives

An utterance may open with a directive that sets its mode: `/bypass:<style>`, `/bypass`,
`/style:<style>` or `/rag`, in any case of ASCII letters.  The openings are tried in this order, so
that one with a style is never read as the plain word in front of a colon.  An opening that names a
style is followed by its key, which runs to the next blank; the other two must be whole words.

Reading a directive always succeeds: a text that opens with none of them is a question for the notes.
-/

set_option autoImplicit false

namespace NoteDialogue

/-- An opening that sets the mode. -/
structure Opening where
  text : String
  mode : ChatMode
  deriving Repr, DecidableEq

/-- The openings in the order in which they are tried. -/
def openings : List Opening :=
  [⟨"/bypass:", .bypassStyle⟩, ⟨"/bypass", .bypass⟩, ⟨"/style:", .ragStyle⟩, ⟨"/rag", .rag⟩]

/-- An utterance with its directive read off. -/
structure Directive where
  mode : ChatMode
  /-- The key of the style, for the styled modes alone. -/
  styleKey : Option String
  /-- The utterance without the directive. -/
  cleanText : String
  /-- Whether the utterance opened with a directive. -/
  explicit : Bool
  deriving Repr, DecidableEq

/-- Nothing, or a blank first. -/
def endsWord : List Char → Bool
  | [] => true
  | c :: _ => Text.isBlank c

/-- The directive of a text that continues an opening; a plain opening must end a word.  Without a
key, an opening that names a style falls back to the mode without one. -/
def Opening.complete? (opening : Opening) (rest : List Char) : Option Directive :=
  if opening.mode.isStyled then
    let key := rest.takeWhile (fun c => !Text.isBlank c)
    let clean := String.ofList (Text.trimChars (rest.drop key.length))
    if key.isEmpty then some ⟨opening.mode.base, none, clean, true⟩
    else some ⟨opening.mode, some (String.ofList key), clean, true⟩
  else if endsWord rest then
    some ⟨opening.mode, none, String.ofList (Text.trimChars rest), true⟩
  else none

/-- The directive of a text that starts with the opening. -/
def Opening.directive? (opening : Opening) (text : List Char) : Option Directive :=
  match Text.afterOpening? opening.text.toList text with
  | some rest => opening.complete? rest
  | none => none

namespace Directive

/-- The directive of an utterance that has been trimmed. -/
def ofTrimmed (text : List Char) : Directive :=
  match openings.findSome? (fun opening => opening.directive? text) with
  | some directive => directive
  | none => ⟨.rag, none, String.ofList text, false⟩

/-- The directive of an utterance. -/
def ofUtterance (utterance : String) : Directive :=
  ofTrimmed (Text.trimChars utterance.toList)

/-- The mode and style that the directive selects. -/
def selection (directive : Directive) : ModeSelection :=
  ModeSelection.of directive.mode directive.styleKey

end Directive

end NoteDialogue
