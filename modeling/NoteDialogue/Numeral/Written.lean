import NoteDialogue.Numeral.Binary
import NoteDialogue.Text.LetterCase

/-!
# Written numbers

The numbers that settings and headers carry.  A whole number is a run of digits, which a plus sign
may open and which must fit a limit.  A decimal number has a sign, digits around an optional point
and an optional exponent; the words for infinity and for an undefined value are read in any case of
letters.  No blanks are skipped: the caller trims where blanks are allowed.
-/

set_option autoImplicit false

namespace NoteDialogue.Numeral

open Text (asciiLower)

/-- A decimal digit of ASCII. -/
def isDigit (c : Char) : Bool :=
  '0' ≤ c && c ≤ '9'

/-- The number that decimal digits write. -/
def digitsValue (digits : List Char) : Nat :=
  digits.foldl (fun value digit => value * 10 + (digit.toNat - '0'.toNat)) 0

/-- The largest whole number of sixty-four bits. -/
def maxWord : Nat := Nat.pow 2 64 - 1

/-- The largest whole number of thirty-two bits. -/
def maxHalfWord : Nat := Nat.pow 2 32 - 1

/-- A whole number up to the limit. -/
def natural? (limit : Nat) (text : String) : Option Nat :=
  let digits := match text.toList with
    | '+' :: rest => rest
    | all => all
  if digits.isEmpty || !digits.all isDigit then none
  else
    let value := digitsValue digits
    if value ≤ limit then some value else none

/-- A decimal number as it is written. -/
inductive WrittenDecimal
  | finite (negative : Bool) (digits : Nat) (exponent : Int)
  | infinite (negative : Bool)
  | notANumber
  deriving Repr, DecidableEq

/-- The exponent part, which may be missing. -/
def exponentPart? : List Char → Option Int
  | [] => some 0
  | mark :: rest =>
      if mark = 'e' || mark = 'E' then
        let (negative, digits) := match rest with
          | '-' :: more => (true, more)
          | '+' :: more => (false, more)
          | all => (false, all)
        if digits.isEmpty || !digits.all isDigit then none
        else
          let size : Int := digitsValue digits
          some (if negative then -size else size)
      else none

/-- A decimal number without its sign. -/
def unsignedDecimal? (negative : Bool) (text : List Char) : Option WrittenDecimal :=
  let word := String.ofList (text.map asciiLower)
  if word = "inf" || word = "infinity" then some (.infinite negative)
  else if word = "nan" then some .notANumber
  else
    let whole := text.takeWhile isDigit
    let afterWhole := text.dropWhile isDigit
    let (fraction, tail) := match afterWhole with
      | '.' :: rest => (rest.takeWhile isDigit, rest.dropWhile isDigit)
      | all => ([], all)
    if whole.isEmpty && fraction.isEmpty then none
    else
      (exponentPart? tail).map (fun exponent =>
        .finite negative (digitsValue (whole ++ fraction)) (exponent - fraction.length))

/-- A decimal number. -/
def decimal? (text : String) : Option WrittenDecimal :=
  match text.toList with
  | '-' :: rest => unsignedDecimal? true rest
  | '+' :: rest => unsignedDecimal? false rest
  | all => unsignedDecimal? false all

/-- The single value that a decimal number writes. -/
def single? (text : String) : Option Float32 :=
  (decimal? text).map (fun written =>
    match written with
    | .finite negative digits exponent => singleOfDecimal negative digits exponent
    | .infinite negative =>
        Float32.ofBits (UInt32.ofNat (single.withSign negative single.infinityPattern))
    | .notANumber => Float32.ofBits 0x7FC00000)

end NoteDialogue.Numeral
