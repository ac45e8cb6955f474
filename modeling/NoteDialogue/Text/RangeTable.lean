/-!
# Tables of code points

A Unicode property is written down as stretches of code points in increasing order.  A stretch has
a first and a last code point and a step, because in many alphabets every second letter is a
capital.  In the written form a stretch is `first-last/step` in hexadecimal digits; the step is left
out when it is one, and the last code point when it is the first.

A case mapping is written the same way, each stretch followed by `>` and the image of its first
code point; the other code points of the stretch move by the same distance.

Membership is a binary search, so the stretches of a table must not overlap.
-/

set_option autoImplicit false

namespace NoteDialogue.Text

/-- The code points `first`, `first + step`, … up to `last`. -/
structure Stretch where
  first : Nat
  last : Nat
  step : Nat
  deriving Repr, Inhabited, DecidableEq

namespace Stretch

/-- Whether the code point is one of the stretch. -/
def contains (stretch : Stretch) (code : Nat) : Bool :=
  stretch.first ≤ code && code ≤ stretch.last && (code - stretch.first) % stretch.step == 0

end Stretch

/-! ## Reading the written form -/

/-- The value of a hexadecimal digit in lower case; anything else counts as zero. -/
def hexDigitValue (c : Char) : Nat :=
  if '0' ≤ c && c ≤ '9' then c.toNat - '0'.toNat
  else if 'a' ≤ c && c ≤ 'f' then c.toNat - 'a'.toNat + 10
  else 0

/-- The number that hexadecimal digits write. -/
def hexValue (digits : List Char) : Nat :=
  digits.foldl (fun value digit => value * 16 + hexDigitValue digit) 0

/-- The part before the first occurrence of a mark, and the part after it if there is one. -/
def cutAt (mark : Char) : List Char → List Char × Option (List Char)
  | [] => ([], none)
  | c :: rest =>
      if c = mark then ([], some rest)
      else
        let (before, after) := cutAt mark rest
        (c :: before, after)

/-- A stretch from its written form. -/
def Stretch.ofChars (written : List Char) : Stretch :=
  let (range, step) := cutAt '/' written
  let (first, last) := cutAt '-' range
  { first := hexValue first
    last := hexValue (last.getD first)
    step := (step.map hexValue).getD 1 }

/-- Whether the character stands between two entries of a written table. -/
def isGap (c : Char) : Bool := c == ' ' || c == '\n'

/-- The entries of a written table, which stand between spaces and line breaks. -/
def entriesOf (written : String) : List (List Char) :=
  (written.toList.splitBy (fun a b => !isGap a && !isGap b)).filter (!·.any isGap)

/-! ## Looking up -/

/-- The last position below `high` and not below `low` whose key does not exceed the code point. -/
def searchPosition (key : Nat → Nat) (code : Nat) (low high : Nat) : Nat :=
  if high ≤ low + 1 then low
  else
    let middle := (low + high) / 2
    if key middle ≤ code then searchPosition key code middle high
    else searchPosition key code low middle
termination_by high - low

/-- A set of code points, as stretches in increasing order. -/
structure RangeTable where
  stretches : Array Stretch
  deriving Inhabited

namespace RangeTable

/-- A set of code points from its written form. -/
def ofText (written : String) : RangeTable :=
  { stretches := ((entriesOf written).map Stretch.ofChars).toArray }

/-- Whether the table lists the character. -/
def contains (table : RangeTable) (c : Char) : Bool :=
  let position := searchPosition
    (fun index => ((table.stretches[index]?).map Stretch.first).getD 0) c.toNat 0 table.stretches.size
  ((table.stretches[position]?).map (·.contains c.toNat)).getD false

end RangeTable

/-- A map from code points to code points that moves each stretch by one distance. -/
structure MappingTable where
  moves : Array (Stretch × Nat)
  deriving Inhabited

namespace MappingTable

/-- A mapping from its written form. -/
def ofText (written : String) : MappingTable :=
  { moves := ((entriesOf written).map (fun entry =>
      let (stretch, image) := cutAt '>' entry
      (Stretch.ofChars stretch, hexValue (image.getD [])))).toArray }

/-- The image of a character that the table moves. -/
def image? (table : MappingTable) (c : Char) : Option Char :=
  let position := searchPosition
    (fun index => ((table.moves[index]?).map (·.1.first)).getD 0) c.toNat 0 table.moves.size
  match table.moves[position]? with
  | some (stretch, image) =>
      if stretch.contains c.toNat then some (Char.ofNat (c.toNat - stretch.first + image)) else none
  | none => none

end MappingTable

end NoteDialogue.Text
