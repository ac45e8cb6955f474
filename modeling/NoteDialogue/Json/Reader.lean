import NoteDialogue.Json

/-!
# Reading JSON

A reader for JSON texts as the standard has them: no comments, no trailing commas, no leading zeros,
no raw control characters in strings, four kinds of blank between tokens.

Every reading function takes the rest of the text and returns what is left of it.  Values nest, so
the reader of values descends on a count of steps; every step passes at least one character, and the
length of the text is therefore enough.
-/

set_option autoImplicit false

namespace NoteDialogue.Json

open Numeral (isDigit)

/-- The blanks between tokens. -/
def isTokenBlank (c : Char) : Bool :=
  c = ' ' || c = '\n' || c = '\t' || c = '\r'

/-- The rest of the text from its next token. -/
def skipBlanks (cs : List Char) : List Char :=
  cs.dropWhile isTokenBlank

/-! ## Strings -/

/-- The value of a hexadecimal digit. -/
def hexDigit? (c : Char) : Option Nat :=
  if '0' ≤ c && c ≤ '9' then some (c.toNat - '0'.toNat)
  else if 'a' ≤ c && c ≤ 'f' then some (c.toNat - 'a'.toNat + 10)
  else if 'A' ≤ c && c ≤ 'F' then some (c.toNat - 'A'.toNat + 10)
  else none

/-- One unit of a string: a character, or a sixteen-bit unit that an escape wrote. -/
inductive Unit16
  | char (c : Char)
  | escaped (code : Nat)
  deriving Repr, DecidableEq

/-- The character of a one-letter escape. -/
def simpleEscape? (c : Char) : Option Char :=
  match c with
  | '"' => some '"'
  | '\\' => some '\\'
  | '/' => some '/'
  | 'b' => some (Char.ofNat 8)
  | 'f' => some (Char.ofNat 12)
  | 'n' => some '\n'
  | 'r' => some '\r'
  | 't' => some '\t'
  | _ => none

/-- The units of a string after its opening quote, in reverse, and the text after its closing
quote. -/
def readUnits (units : List Unit16) : List Char → Option (List Unit16 × List Char)
  | [] => none
  | '"' :: rest => some (units, rest)
  | '\\' :: 'u' :: a :: b :: c :: d :: rest =>
      match hexDigit? a, hexDigit? b, hexDigit? c, hexDigit? d with
      | some a, some b, some c, some d =>
          readUnits (.escaped (((a * 16 + b) * 16 + c) * 16 + d) :: units) rest
      | _, _, _, _ => none
  | '\\' :: c :: rest =>
      match simpleEscape? c with
      | some plain => readUnits (.char plain :: units) rest
      | none => none
  | c :: rest => if c.toNat < 32 || c = '\\' then none else readUnits (.char c :: units) rest

/-- The first unit of a surrogate pair. -/
def isHighSurrogate (code : Nat) : Bool :=
  0xD800 ≤ code && code ≤ 0xDBFF

/-- The second unit of a surrogate pair. -/
def isLowSurrogate (code : Nat) : Bool :=
  0xDC00 ≤ code && code ≤ 0xDFFF

/-- The text of the units; none when a surrogate stands alone. -/
def textOfUnits : List Unit16 → Option (List Char)
  | [] => some []
  | .char c :: rest => (textOfUnits rest).map (c :: ·)
  | .escaped high :: .escaped low :: rest =>
      if isHighSurrogate high then
        if isLowSurrogate low then
          (textOfUnits rest).map
            (Char.ofNat (0x10000 + (high - 0xD800) * 0x400 + (low - 0xDC00)) :: ·)
        else none
      else if isLowSurrogate high then none
      else (textOfUnits (.escaped low :: rest)).map (Char.ofNat high :: ·)
  | .escaped code :: rest =>
      if isHighSurrogate code || isLowSurrogate code then none
      else (textOfUnits rest).map (Char.ofNat code :: ·)

/-- A string after its opening quote. -/
def readText? (cs : List Char) : Option (JsonText × List Char) :=
  (readUnits [] cs).map (fun (units, rest) =>
    match textOfUnits units.reverse with
    | some chars => (.plain (String.ofList chars), rest)
    | none => (.unpaired, rest))

/-! ## Numbers -/

/-- The fraction after the whole part, if a point follows. -/
def readFraction? (cs : List Char) : Option (List Char × List Char) :=
  match cs with
  | '.' :: rest =>
      let digits := rest.takeWhile isDigit
      if digits.isEmpty then none else some (digits, rest.dropWhile isDigit)
  | _ => some ([], cs)

/-- The exponent after the fraction, if its mark follows. -/
def readExponent? (cs : List Char) : Option (Option (Bool × List Char) × List Char) :=
  match cs with
  | mark :: rest =>
      if mark = 'e' || mark = 'E' then
        let (negative, afterSign) := match rest with
          | '-' :: more => (true, more)
          | '+' :: more => (false, more)
          | all => (false, all)
        let digits := afterSign.takeWhile isDigit
        if digits.isEmpty then none
        else some (some (negative, digits), afterSign.dropWhile isDigit)
      else some (none, cs)
  | [] => some (none, [])

/-- A number; a zero is not followed by another digit. -/
def readNumber? (cs : List Char) : Option (NumberLiteral × List Char) :=
  let (negative, unsigned) := match cs with
    | '-' :: rest => (true, rest)
    | all => (false, all)
  let whole := unsigned.takeWhile isDigit
  let afterWhole := unsigned.dropWhile isDigit
  match whole with
  | [] => none
  | '0' :: _ :: _ => none
  | _ =>
      match readFraction? afterWhole with
      | none => none
      | some (fraction, afterFraction) =>
          (readExponent? afterFraction).map (fun (exponent, rest) =>
            ({ negative, whole, fraction, exponent }, rest))

/-! ## Values -/

/-- The rest of the text after a fixed word. -/
def afterWord? (word : String) (cs : List Char) : Option (List Char) :=
  if word.toList.isPrefixOf cs then some (cs.drop word.length) else none

mutual

/-- A value at the start of the text. -/
def readValue? : Nat → List Char → Option (Json × List Char)
  | 0, _ => none
  | steps + 1, cs =>
      match cs with
      | 'n' :: _ => (afterWord? "null" cs).map (fun rest => (.null, rest))
      | 't' :: _ => (afterWord? "true" cs).map (fun rest => (.bool true, rest))
      | 'f' :: _ => (afterWord? "false" cs).map (fun rest => (.bool false, rest))
      | '"' :: rest => (readText? rest).map (fun (content, rest) => (.text content, rest))
      | '[' :: rest =>
          match skipBlanks rest with
          | ']' :: after => some (.list [], after)
          | items => (readItems? steps items).map (fun (values, rest) => (.list values, rest))
      | '{' :: rest =>
          match skipBlanks rest with
          | '}' :: after => some (.object [], after)
          | members =>
              (readMembers? steps members).map (fun (values, rest) => (.object values, rest))
      | _ => (readNumber? cs).map (fun (literal, rest) => (.number literal, rest))

/-- The items of a list up to its closing bracket. -/
def readItems? : Nat → List Char → Option (List Json × List Char)
  | 0, _ => none
  | steps + 1, cs =>
      match readValue? steps cs with
      | none => none
      | some (value, rest) =>
          match skipBlanks rest with
          | ']' :: after => some ([value], after)
          | ',' :: more =>
              (readItems? steps (skipBlanks more)).map (fun (values, after) =>
                (value :: values, after))
          | _ => none

/-- The members of an object up to its closing brace. -/
def readMembers? : Nat → List Char → Option (List (JsonText × Json) × List Char)
  | 0, _ => none
  | steps + 1, cs =>
      match cs with
      | '"' :: opened =>
          match readText? opened with
          | none => none
          | some (name, afterName) =>
              match skipBlanks afterName with
              | ':' :: beforeValue =>
                  match readValue? steps (skipBlanks beforeValue) with
                  | none => none
                  | some (value, rest) =>
                      match skipBlanks rest with
                      | '}' :: after => some ([(name, value)], after)
                      | ',' :: more =>
                          (readMembers? steps (skipBlanks more)).map (fun (members, after) =>
                            ((name, value) :: members, after))
                      | _ => none
              | _ => none
      | _ => none

end

/-- The value that a text holds, with nothing but blanks around it. -/
def ofChars? (cs : List Char) : Option Json :=
  match readValue? (2 * cs.length + 2) (skipBlanks cs) with
  | some (value, rest) => if (skipBlanks rest).isEmpty then some value else none
  | none => none

/-- The value that a text holds, with nothing but blanks around it. -/
def ofText? (text : String) : Option Json :=
  ofChars? text.toList

end NoteDialogue.Json
