import NoteDialogue.Reference
import NoteDialogue.Text.Blank
import NoteDialogue.Text.LetterCase
import NoteDialogue.UniqueId

/-!
# Mentions in an utterance

Three ways of writing a mention are read, one after the other: the tag `@note:` with a title in double
quotes, the tag with a bare token, and a title in double square brackets.  Each pass walks over the
text from the left, cuts out every mention at the place where it stands and leaves a space, and hands
the remaining text to the next pass, so that a bare token is never read inside a quoted title.

A pass is given by a recogniser, which says of a text whether a mention stands at its start, how long
it is and what it names.
-/

set_option autoImplicit false

namespace NoteDialogue

/-- A mention at the start of a text: its length and what it names. -/
structure Recognised where
  length : Nat
  value : List Char
  deriving Repr, DecidableEq

/-- A way of writing mentions. -/
abbrev Recogniser := List Char → Option Recognised

/-- The tag that opens a mention. -/
def referenceTag : List Char :=
  "@note:".toList

/-! ## The three ways -/

/-- The text between the start and a closing mark, as long as it holds no character of the class. -/
def upTo (excluded : Char → Bool) (closing text : List Char) : Option (List Char) :=
  let body := text.takeWhile (fun c => !excluded c)
  if !body.isEmpty && closing.isPrefixOf (text.drop body.length) then some body else none

/-- A mention with the given opening and closing around a title that is not blank. -/
def enclosed (opening closing : List Char) (excluded : Char → Bool) : Recogniser := fun text =>
  match Text.afterOpening? opening text with
  | none => none
  | some rest =>
      match upTo excluded closing rest with
      | none => none
      | some body =>
          let value := Text.trimChars body
          if value.isEmpty then none
          else some ⟨opening.length + body.length + closing.length, value⟩

/-- A tag with a title in double quotes. -/
def quotedTag : Recogniser :=
  enclosed (referenceTag ++ ['"']) ['"'] (· = '"')

/-- A square bracket. -/
def isBracket (c : Char) : Bool :=
  c = '[' || c = ']'

/-- A title in double square brackets. -/
def wikiLink : Recogniser :=
  enclosed ['[', '['] [']', ']'] isBracket

/-- The characters of a bare token. -/
def isTokenChar (c : Char) : Bool :=
  !Text.isBlank c && c ≠ '"' && !isBracket c

/-- The punctuation that ends a clause rather than a token. -/
def isClauseMark (c : Char) : Bool :=
  c = '.' || c = ',' || c = ';' || c = ':' || c = '!' || c = '?' || c = ')'

/-- A tag with a bare token, less the punctuation at its end. -/
def bareTag : Recogniser := fun text =>
  match Text.afterOpening? referenceTag text with
  | none => none
  | some rest =>
      let value := Text.dropTrailing isClauseMark (rest.takeWhile isTokenChar)
      if value.isEmpty then none else some ⟨referenceTag.length + value.length, value⟩

/-! ## One pass -/

/-- A mention that was cut out: its text and what it names. -/
structure Cut where
  span : List Char
  value : List Char
  deriving Repr, DecidableEq

/-- The text with every mention replaced by a space, and the mentions in order; `skip` characters of
the last mention are still to be passed. -/
def cutFrom (recognise : Recogniser) (skip : Nat) : List Char → List Char × List Cut
  | [] => ([], [])
  | c :: rest =>
      match skip with
      | left + 1 => cutFrom recognise left rest
      | 0 =>
          match recognise (c :: rest) with
          | some mention =>
              let (text, cuts) := cutFrom recognise (mention.length - 1) rest
              (' ' :: text, ⟨(c :: rest).take mention.length, mention.value⟩ :: cuts)
          | none =>
              let (text, cuts) := cutFrom recognise 0 rest
              (c :: text, cuts)

/-- The text with every mention replaced by a space, and the mentions in order. -/
def cut (recognise : Recogniser) (text : List Char) : List Char × List Cut :=
  cutFrom recognise 0 text

/-! ## All passes -/

/-- An utterance with its mentions read off. -/
structure MentionReading where
  mentions : List Mention
  /-- The utterance without the mentions, its blanks collapsed. -/
  cleanText : String
  deriving Repr, DecidableEq

namespace Mention

/-- A mention by title. -/
def ofTitleCut (found : Cut) : Mention :=
  ⟨.quotedTitle, String.ofList found.value, String.ofList found.span⟩

/-- A mention by a bare token, which is an identifier or free text. -/
def ofTokenCut (found : Cut) : Mention :=
  ⟨if UniqueId.isWritten found.value then .exactId else .freeText, String.ofList found.value,
    String.ofList found.span⟩

end Mention

/-- The mentions of an utterance, those of each way of writing together, and the rest of it. -/
def MentionReading.ofChars (text : List Char) : MentionReading :=
  let (afterQuoted, quoted) := cut quotedTag text
  let (afterBare, bare) := cut bareTag afterQuoted
  let (afterLinks, links) := cut wikiLink afterBare
  { mentions :=
      quoted.map Mention.ofTitleCut ++ bare.map Mention.ofTokenCut ++ links.map Mention.ofTitleCut
    cleanText := String.intercalate " " ((Text.wordsOfChars afterLinks).map String.ofList) }

/-- The mentions of an utterance and the rest of it. -/
def MentionReading.ofText (text : String) : MentionReading :=
  MentionReading.ofChars text.toList

end NoteDialogue
