import NoteDialogue.Text.LetterCase.Table

/-!
# Upper and lower case

The full case mappings of the Unicode standard, without those of single languages.  An image may
have several characters: a dotted capital I becomes an `i` with a combining dot, and a sharp s
becomes two capitals.

The lower case of a capital sigma is the one rule that looks around: it is the final form at the end
of a word, that is, when the nearest character to its left that is not case-ignorable is cased and
the nearest such character to its right is not.  The walk over the text therefore carries whether
the left side ends in a cased character.
-/

set_option autoImplicit false

namespace NoteDialogue.Text

/-! ## ASCII -/

/-- Lower case within ASCII; every other character stays. -/
def asciiLower (c : Char) : Char :=
  if 'A' ≤ c && c ≤ 'Z' then Char.ofNat (c.toNat + 32) else c

/-- Upper case within ASCII; every other character stays. -/
def asciiUpper (c : Char) : Char :=
  if 'a' ≤ c && c ≤ 'z' then Char.ofNat (c.toNat - 32) else c

/-- Equality of texts up to the case of ASCII letters. -/
def sameIgnoringAsciiCase (left right : List Char) : Bool :=
  left.map asciiLower == right.map asciiLower

/-- The rest of a text after an opening, which is compared without regard to ASCII case. -/
def afterOpening? : List Char → List Char → Option (List Char)
  | [], text => some text
  | _ :: _, [] => none
  | expected :: opening, c :: text =>
      if asciiLower expected = asciiLower c then afterOpening? opening text else none

/-! ## Context of a sigma -/

/-- The property `Cased`. -/
def isCased (c : Char) : Bool :=
  if c.toNat < 128 then ('a' ≤ c && c ≤ 'z') || ('A' ≤ c && c ≤ 'Z') else casedTable.contains c

/-- The property `Case_Ignorable`. -/
def isCaseIgnorable (c : Char) : Bool :=
  if c.toNat < 128 then c == '\'' || c == '.' || c == ':' || c == '^' || c.toNat == 0x60
  else caseIgnorableTable.contains c

/-- Whether the first character that is not case-ignorable is cased. -/
def startsCased (cs : List Char) : Bool :=
  match cs.dropWhile isCaseIgnorable with
  | [] => false
  | c :: _ => isCased c

/-! ## Mappings -/

/-- The lower case of one character without regard to its neighbours. -/
def lowerOf (c : Char) : List Char :=
  if c.toNat < 128 then [asciiLower c]
  else if c.toNat = 0x130 then ['i', Char.ofNat 0x307]
  else [(lowerTable.image? c).getD c]

/-- The upper case of one character. -/
def upperOf (c : Char) : List Char :=
  if c.toNat < 128 then [asciiUpper c]
  else
    match upperExpansions.find? (fun entry => entry.1 == c.toNat) with
    | some (_, image) => image
    | none => [(upperTable.image? c).getD c]

/-- Lower case of the rest of a text, given whether the part before it ends in a cased character,
case-ignorable characters apart. -/
def lowerFrom (casedBefore : Bool) : List Char → List Char
  | [] => []
  | c :: rest =>
      let image :=
        if c.toNat = 0x3A3 then
          [Char.ofNat (if casedBefore && !startsCased rest then 0x3C2 else 0x3C3)]
        else lowerOf c
      image ++ lowerFrom (if isCaseIgnorable c then casedBefore else isCased c) rest

/-- The text in lower case. -/
def lowerChars (cs : List Char) : List Char :=
  lowerFrom false cs

/-- The text in lower case. -/
def lowercase (text : String) : String :=
  String.ofList (lowerChars text.toList)

/-- The text in upper case. -/
def upperChars (cs : List Char) : List Char :=
  cs.flatMap upperOf

end NoteDialogue.Text
