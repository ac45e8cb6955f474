/-!
# Unique identifiers

An identifier of 128 bits, written as thirty-two hexadecimal digits in groups.  Six of the bits say that
it was drawn at random.  Where that is too long, an identifier is written with twenty-one of sixty-four
symbols.
-/

set_option autoImplicit false

namespace NoteDialogue.UniqueId

/-- A hexadecimal digit in either case. -/
def isHexDigit (c : Char) : Bool :=
  ('0' ≤ c && c ≤ '9') || ('a' ≤ c && c ≤ 'f') || ('A' ≤ c && c ≤ 'F')

/-- Thirty-two digits in groups of 8, 4, 4, 4 and 12, with hyphens between the groups. -/
def isGrouped (text : List Char) : Bool :=
  text.length == 36 &&
    text.zipIdx.all (fun (c, index) =>
      if index == 8 || index == 13 || index == 18 || index == 23 then c == '-' else isHexDigit c)

/-- A universally unique identifier: bare digits, grouped digits, or grouped digits in braces or
after `urn:uuid:`. -/
def isWritten (text : List Char) : Bool :=
  (text.length == 32 && text.all isHexDigit) || isGrouped text ||
    (text.length == 38 && text.head? == some (Char.ofNat 0x7B) &&
      text.getLast? == some (Char.ofNat 0x7D) && isGrouped (text.drop 1).dropLast) ||
    (text.length == 45 && "urn:uuid:".toList.isPrefixOf text && isGrouped (text.drop 9))

/-- The lowest digits of a number in base sixteen, the highest first. -/
def hexDigits : Nat → Nat → List Char
  | 0, _ => []
  | count + 1, number => hexDigits count (number / 16) ++ [Nat.digitChar (number % 16)]

/-- The identifier made from a number of 122 bits. -/
def ofNumber (number : Nat) : String :=
  let first := number % Nat.pow 2 48
  let second := number / Nat.pow 2 48 % Nat.pow 2 12
  let third := number / Nat.pow 2 60 % Nat.pow 2 62
  String.ofList
    (hexDigits 8 (first / Nat.pow 2 16) ++ ['-'] ++ hexDigits 4 (first % Nat.pow 2 16) ++ ['-', '4'] ++
      hexDigits 3 second ++ ['-'] ++ hexDigits 4 (Nat.pow 2 15 + third / Nat.pow 2 48) ++ ['-'] ++
      hexDigits 12 (third % Nat.pow 2 48))

/-! ## Short identifiers -/

/-- The sixty-four symbols. -/
def symbols : List Char :=
  "0123456789abcdefghijklmnopqrstuvwxyzABCDEFGHIJKLMNOPQRSTUVWXYZ_-".toList

/-- The lowest digits of a number in base sixty-four, the lowest first. -/
def symbolsOf : Nat → Nat → List Char
  | 0, _ => []
  | count + 1, number => symbols.getD (number % 64) '_' :: symbolsOf count (number / 64)

/-- The short identifier made from a number of 126 bits. -/
def shortOfNumber (number : Nat) : String :=
  String.ofList (symbolsOf 21 number)

end NoteDialogue.UniqueId
