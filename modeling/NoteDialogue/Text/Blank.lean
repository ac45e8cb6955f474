/-!
# Blank characters, trimming and words

A character is blank when it carries the Unicode property `White_Space`; there are twenty-five of
them.  Trimming and cutting into words are stated on lists of characters, where each is one
recursion on the data, and lifted to strings at the end.

The cut into `pieces` keeps the empty ones, so that the pieces of a text number one more than its
blanks; the words are the pieces that hold a character.
-/

set_option autoImplicit false

namespace NoteDialogue.Text

/-- The Unicode property `White_Space`. -/
def isBlank (c : Char) : Bool :=
  let code := c.toNat
  (9 ≤ code && code ≤ 13) || code == 0x20 || code == 0x85 || code == 0xA0 || code == 0x1680 ||
    (0x2000 ≤ code && code ≤ 0x200A) || code == 0x2028 || code == 0x2029 || code == 0x202F ||
    code == 0x205F || code == 0x3000

/-! ## Trimming -/

/-- The text from its first character that is not blank. -/
def trimLeftChars (cs : List Char) : List Char :=
  cs.dropWhile isBlank

/-- The text up to its last character outside the given class. -/
def dropTrailing (inClass : Char → Bool) (cs : List Char) : List Char :=
  (cs.reverse.dropWhile inClass).reverse

/-- The text without the blanks at both of its ends. -/
def trimChars (cs : List Char) : List Char :=
  dropTrailing isBlank (trimLeftChars cs)

/-- The text without the blanks at both of its ends. -/
def trim (text : String) : String :=
  String.ofList (trimChars text.toList)

/-- Nothing but blanks. -/
def isBlankText (text : String) : Bool :=
  text.toList.all isBlank

/-! ## Words -/

/-- The stretches between the characters of a class, the empty ones included. -/
def pieces (separates : Char → Bool) : List Char → List (List Char)
  | [] => [[]]
  | c :: rest =>
      if separates c then
        [] :: pieces separates rest
      else
        match pieces separates rest with
        | [] => [[c]]
        | first :: others => (c :: first) :: others

/-- The longest stretches without a character of the class. -/
def stretchesWithout (separates : Char → Bool) (cs : List Char) : List (List Char) :=
  (pieces separates cs).filter (fun piece => !piece.isEmpty)

/-- The longest stretches without a blank. -/
def wordsOfChars (cs : List Char) : List (List Char) :=
  stretchesWithout isBlank cs

/-- The longest stretches without a blank. -/
def words (text : String) : List String :=
  (wordsOfChars text.toList).map String.ofList

/-- The words joined by single spaces. -/
def collapseBlanks (text : String) : String :=
  String.intercalate " " (words text)

end NoteDialogue.Text
