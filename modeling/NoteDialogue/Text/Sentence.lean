import NoteDialogue.Text.Alphabetic
import NoteDialogue.Text.Sentence.Table

/-!
# Sentence boundaries

The default segmentation of the Unicode standard (UAX #29).  The decision whether a sentence ends
before a character depends on the class of that character, on what comes after it only through the
question whether the next letter is in lower case, and on a short memory of what came before: the
`Tail`.  A tail knows whether the text ends in a line end, in a terminator followed by closing marks
and blanks, or in anything else.

Marks and invisible formatting characters are absorbed: they end nothing and leave the tail alone.
-/

set_option autoImplicit false

namespace NoteDialogue.Text.Sentence

/-- The classes of characters that the rules distinguish. -/
inductive CharClass
  | carriageReturn
  | lineFeed
  | separator
  | extending
  | format
  | blank
  | lower
  | upper
  | letter
  | digit
  | fullStop
  | terminator
  | closing
  | continuing
  | other
  deriving DecidableEq, Repr

/-- The class of an ASCII character. -/
def asciiClass (c : Char) : CharClass :=
  if 'a' ≤ c && c ≤ 'z' then .lower
  else if 'A' ≤ c && c ≤ 'Z' then .upper
  else if '0' ≤ c && c ≤ '9' then .digit
  else if c = '\n' then .lineFeed
  else if c = '\r' then .carriageReturn
  else if c = ' ' || c = '\t' || c.toNat == 0x0B || c.toNat == 0x0C then .blank
  else if c = '.' then .fullStop
  else if c = '!' || c = '?' then .terminator
  else if c = ',' || c = '-' || c = ':' || c = ';' then .continuing
  else if c = '"' || c = '\'' || c = '(' || c = ')' || c = '[' || c = ']' ||
      c.toNat == 0x7B || c.toNat == 0x7D then .closing
  else .other

/-- The signs outside ASCII after which a sentence may go on. -/
def continuingCodes : List Nat :=
  [0x37E, 0x55D, 0x60C, 0x60D, 0x7F8, 0x1802, 0x1808, 0x2013, 0x2014, 0x3001, 0xFE10, 0xFE11,
    0xFE13, 0xFE14, 0xFE31, 0xFE32, 0xFE50, 0xFE51, 0xFE54, 0xFE55, 0xFE58, 0xFE63, 0xFF0C, 0xFF0D,
    0xFF1A, 0xFF1B, 0xFF64]

/-- The blanks outside ASCII that end no line. -/
def isWideBlank (code : Nat) : Bool :=
  code == 0xA0 || code == 0x1680 || (0x2000 ≤ code && code ≤ 0x200A) || code == 0x202F ||
    code == 0x205F || code == 0x3000

/-- The class of a character. -/
def classOf (c : Char) : CharClass :=
  let code := c.toNat
  if code < 128 then asciiClass c
  else if code == 0x85 || code == 0x2028 || code == 0x2029 then .separator
  else if isWideBlank code then .blank
  else if code == 0x2024 || code == 0xFE52 || code == 0xFF0E then .fullStop
  else if extendTable.contains c then .extending
  else if formatTable.contains c then .format
  else if lowerLetterTable.contains c then .lower
  else if upperLetterTable.contains c then .upper
  else if otherLetterTable.contains c then .letter
  else if digitTable.contains c then .digit
  else if terminatorTable.contains c then .terminator
  else if continuingCodes.contains code then .continuing
  else if closingTable.contains c then .closing
  else .other

/-! ## What came before -/

/-- What has followed a terminator so far: nothing, closing marks, or blanks after those. -/
inductive Stage
  | bare
  | closed
  | spaced
  deriving DecidableEq, Repr

/-- What the rules remember of the text before a position. -/
inductive Tail
  /-- Nothing yet. -/
  | start
  /-- A line end, which is a carriage return or another one. -/
  | lineEnd (isReturn : Bool)
  /-- A terminator and what followed it; a full stop may stand right after a cased letter. -/
  | ended (isFullStop : Bool) (afterCased : Bool) (stage : Stage)
  /-- Anything else, and whether it ends in a cased letter. -/
  | within (cased : Bool)
  deriving DecidableEq, Repr

namespace Tail

/-- The tail after one more character. -/
def advance (tail : Tail) : CharClass → Tail
  | .carriageReturn => .lineEnd true
  | .lineFeed | .separator => .lineEnd false
  | .fullStop => .ended true (tail == .within true) .bare
  | .terminator => .ended false false .bare
  | .lower | .upper => .within true
  | .closing =>
      match tail with
      | .ended isFullStop afterCased .bare => .ended isFullStop afterCased .closed
      | .ended isFullStop afterCased .closed => .ended isFullStop afterCased .closed
      | _ => .within false
  | .blank =>
      match tail with
      | .ended isFullStop afterCased _ => .ended isFullStop afterCased .spaced
      | _ => .within false
  | _ => .within false

/-- Marks and formatting characters are absorbed, except at the start of a line. -/
def absorbs : Tail → CharClass → Bool
  | .ended _ _ _, .extending | .ended _ _ _, .format => true
  | .within _, .extending | .within _, .format => true
  | _, _ => false

/-- The tail after one more character, absorbed characters included. -/
def step (tail : Tail) (charClass : CharClass) : Tail :=
  if tail.absorbs charClass then tail else tail.advance charClass

end Tail

/-- Whether the next letter, before any line end or terminator, is in lower case. -/
def lowerCaseAhead : List Char → Bool
  | [] => false
  | c :: rest =>
      match classOf c with
      | .lower => true
      | .letter | .upper | .separator | .carriageReturn | .lineFeed | .terminator | .fullStop =>
          false
      | _ => lowerCaseAhead rest

/-- Whether a sentence ends after the tail, before a character of the class; `ahead` is the text
from that character on. -/
def endsBefore (tail : Tail) (charClass : CharClass) (ahead : List Char) : Bool :=
  match tail with
  | .start => false
  | .lineEnd isReturn => !(isReturn && charClass == .lineFeed)
  | .within _ => false
  | .ended isFullStop afterCased stage =>
      if tail.absorbs charClass then false
      else if isFullStop && stage == .bare && charClass == .digit then false
      else if isFullStop && afterCased && stage == .bare && charClass == .upper then false
      else if isFullStop && lowerCaseAhead ahead then false
      else
        match charClass with
        | .continuing | .terminator | .fullStop => false
        | .closing => stage == .spaced
        | .blank | .separator | .carriageReturn | .lineFeed => false
        | _ => true

/-- The sentences of a text, given its tail and the part of the current sentence already read, which
is kept in reverse. -/
def sentencesFrom (tail : Tail) (current : List Char) : List Char → List (List Char)
  | [] => if current.isEmpty then [] else [current.reverse]
  | c :: rest =>
      let charClass := classOf c
      if endsBefore tail charClass (c :: rest) then
        current.reverse :: sentencesFrom (tail.step charClass) [c] rest
      else
        sentencesFrom (tail.step charClass) (c :: current) rest

end Sentence

/-- The stretches between sentence boundaries; together they are the text. -/
def sentenceStretches (cs : List Char) : List (List Char) :=
  Sentence.sentencesFrom .start [] cs

/-- The sentences of a text: the stretches between boundaries that hold a letter or a numeral. -/
def sentences (text : String) : List String :=
  ((sentenceStretches text.toList).filter (·.any isAlphanumeric)).map String.ofList

end NoteDialogue.Text
