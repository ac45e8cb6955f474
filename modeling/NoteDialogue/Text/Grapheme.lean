import NoteDialogue.Text.Grapheme.Table

/-!
# Characters as a reader counts them

The extended grapheme clusters of the Unicode standard (UAX #29).  Only their number is needed, so
the rules are a walk over the text that decides before each character whether a cluster starts
there.

The walk remembers the class of the character before, how many regional indicators stand in a row,
how far a sequence of pictographs has come, and how far a conjunct of consonants has come.
-/

set_option autoImplicit false

namespace NoteDialogue.Text

namespace Grapheme

/-- The classes of characters that the rules distinguish. -/
inductive CharClass
  | carriageReturn
  | lineFeed
  | control
  | extending
  | joiner
  | regional
  | prepended
  | spacingMark
  | hangulLead
  | hangulVowel
  | hangulTail
  | hangulOpen
  | hangulClosed
  | pictograph
  | other
  deriving DecidableEq, Repr

/-- The class of a character.  A precomposed Hangul syllable is open, without a final consonant, at
every twenty-eighth place of its block. -/
def classOf (c : Char) : CharClass :=
  let code := c.toNat
  if code < 128 then
    if c = '\r' then .carriageReturn
    else if c = '\n' then .lineFeed
    else if code < 32 || code == 127 then .control
    else .other
  else if 0x1100 ≤ code && code ≤ 0x115F || 0xA960 ≤ code && code ≤ 0xA97C then .hangulLead
  else if 0x1160 ≤ code && code ≤ 0x11A7 || 0xD7B0 ≤ code && code ≤ 0xD7C6 then .hangulVowel
  else if 0x11A8 ≤ code && code ≤ 0x11FF || 0xD7CB ≤ code && code ≤ 0xD7FB then .hangulTail
  else if 0xAC00 ≤ code && code ≤ 0xD7A3 then
    if (code - 0xAC00) % 28 == 0 then .hangulOpen else .hangulClosed
  else if code == 0x200D then .joiner
  else if 0x1F1E6 ≤ code && code ≤ 0x1F1FF then .regional
  else if controlTable.contains c then .control
  else if extendTable.contains c then .extending
  else if spacingMarkTable.contains c then .spacingMark
  else if prependTable.contains c then .prepended
  else if pictographTable.contains c then .pictograph
  else .other

/-- Part of a conjunct: a consonant, then marks of which one at least is a virama. -/
inductive Conjunct
  | absent
  | consonant
  | linked
  deriving DecidableEq, Repr

/-- What the walk remembers of the text before a position. -/
structure Walk where
  /-- The class of the character before, if there is one. -/
  previous : Option CharClass := none
  /-- An odd number of regional indicators stands before. -/
  oddRegional : Bool := false
  /-- A pictograph and the marks after it stand before. -/
  pictured : Bool := false
  /-- A pictograph, marks and a joiner stand before. -/
  joined : Bool := false
  /-- The part of a conjunct that stands before. -/
  conjunct : Conjunct := .absent
  deriving Repr

namespace Walk

/-- The memory after one more character. -/
def step (walk : Walk) (c : Char) : Walk :=
  let charClass := classOf c
  { previous := some charClass
    oddRegional := charClass == .regional && !walk.oddRegional
    pictured := charClass == .pictograph || (charClass == .extending && walk.pictured)
    joined := charClass == .joiner && walk.pictured
    conjunct :=
      if consonantTable.contains c then .consonant
      else if walk.conjunct == .absent then .absent
      else if linkerTable.contains c then .linked
      else if charClass == .joiner || (charClass == .extending && c.toNat != 0x200C) then
        walk.conjunct
      else .absent }

/-- Whether a cluster starts before the character. -/
def startsBefore (walk : Walk) (c : Char) : Bool :=
  let charClass := classOf c
  match walk.previous with
  | none => true
  | some previous =>
      match previous, charClass with
      | .carriageReturn, .lineFeed => false
      | .carriageReturn, _ | .lineFeed, _ | .control, _ => true
      | _, .carriageReturn | _, .lineFeed | _, .control => true
      | .hangulLead, .hangulLead | .hangulLead, .hangulVowel | .hangulLead, .hangulOpen
      | .hangulLead, .hangulClosed => false
      | .hangulOpen, .hangulVowel | .hangulOpen, .hangulTail | .hangulVowel, .hangulVowel
      | .hangulVowel, .hangulTail => false
      | .hangulClosed, .hangulTail | .hangulTail, .hangulTail => false
      | _, .extending | _, .joiner | _, .spacingMark => false
      | .prepended, _ => false
      | _, _ =>
          !(walk.conjunct == .linked && consonantTable.contains c) &&
            !(walk.joined && charClass == .pictograph) &&
            !(walk.oddRegional && charClass == .regional)

end Walk

/-- The number of clusters that start in a text, given what stands before it. -/
def countFrom (walk : Walk) : List Char → Nat
  | [] => 0
  | c :: rest => (if walk.startsBefore c then 1 else 0) + countFrom (walk.step c) rest

end Grapheme

/-- The number of characters as a reader counts them. -/
def graphemeCount (text : String) : Nat :=
  Grapheme.countFrom {} text.toList

end NoteDialogue.Text
