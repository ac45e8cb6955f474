/-!
# Passages of a text

Finding one text inside another: where it first occurs, how often it occurs without overlap, and the
text with every such occurrence replaced.
-/

set_option autoImplicit false

namespace NoteDialogue.Text

/-- Whether the passage occurs in the text. -/
def containsChars (passage : List Char) : List Char → Bool
  | [] => passage.isEmpty
  | c :: rest => passage.isPrefixOf (c :: rest) || containsChars passage rest

/-- Whether the passage occurs in the text. -/
def contains (text passage : String) : Bool :=
  containsChars passage.toList text.toList

/-- Occurrences counted from the left without overlap; `skip` characters of the last one found are
still to be passed. -/
def occurrencesFrom (passage : List Char) (skip : Nat) : List Char → Nat
  | [] => 0
  | c :: rest =>
      match skip with
      | left + 1 => occurrencesFrom passage left rest
      | 0 =>
          if passage.isPrefixOf (c :: rest) then
            1 + occurrencesFrom passage (passage.length - 1) rest
          else occurrencesFrom passage 0 rest

/-- How often the passage occurs, counted from the left without overlap.  The empty passage occurs
before every character and at the end. -/
def occurrences (text passage : String) : Nat :=
  if passage.isEmpty then text.length + 1
  else occurrencesFrom passage.toList 0 text.toList

/-- The text before the first occurrence of a passage and the text after it. -/
def splitOnce? (passage : List Char) : List Char → Option (List Char × List Char)
  | [] => if passage.isEmpty then some ([], []) else none
  | c :: rest =>
      if passage.isPrefixOf (c :: rest) then
        some ([], (c :: rest).drop passage.length)
      else
        (splitOnce? passage rest).map (fun (before, after) => (c :: before, after))

/-- Cut at the first occurrence of one character. -/
def splitAtChar? (mark : Char) (cs : List Char) : Option (List Char × List Char) :=
  splitOnce? [mark] cs

/-- The text with every occurrence of a passage, counted from the left without overlap, replaced. -/
def replaceFrom (passage replacement : List Char) (skip : Nat) : List Char → List Char
  | [] => []
  | c :: rest =>
      match skip with
      | left + 1 => replaceFrom passage replacement left rest
      | 0 =>
          if !passage.isEmpty && passage.isPrefixOf (c :: rest) then
            replacement ++ replaceFrom passage replacement (passage.length - 1) rest
          else c :: replaceFrom passage replacement 0 rest

/-- The text with every occurrence of a passage, counted from the left without overlap, replaced. -/
def replace (text passage replacement : String) : String :=
  String.ofList (replaceFrom passage.toList replacement.toList 0 text.toList)

end NoteDialogue.Text
