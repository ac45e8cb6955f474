import NoteDialogue.Numeral.Binary
import NoteDialogue.Numeral.Shortest
import NoteDialogue.Numeral.Written

/-!
# JSON values

A JSON text as a tree.  A number keeps the digits it was written with, because whether it is a whole
number, and whether it is in range, is asked only by the reader of a field.  For the same reason a
string that holds half of a surrogate pair is kept as `unpaired`: it is well-formed JSON, and only a
reader that wants a text from it fails.  An object keeps its members in order, repeated names
included.
-/

set_option autoImplicit false

namespace NoteDialogue

/-- A number as it is written. -/
structure NumberLiteral where
  negative : Bool := false
  whole : List Char
  fraction : List Char := []
  /-- Whether the exponent is negative, and its digits. -/
  exponent : Option (Bool × List Char) := none
  deriving Repr, DecidableEq, Inhabited

/-- The content of a string. -/
inductive JsonText
  | plain (text : String)
  | unpaired
  deriving Repr, DecidableEq, Inhabited

/-- A JSON value. -/
inductive Json
  | null
  | bool (value : Bool)
  | number (literal : NumberLiteral)
  | text (content : JsonText)
  | list (items : List Json)
  | object (members : List (JsonText × Json))
  deriving Repr, Inhabited

namespace NumberLiteral

/-- The written form of a natural number. -/
def ofNat (value : Nat) : NumberLiteral :=
  { whole := Nat.toDigits 10 value }

/-- The written form of an integer. -/
def ofInt (value : Int) : NumberLiteral :=
  { negative := value < 0, whole := Nat.toDigits 10 value.natAbs }

/-- The most zeros that are written to avoid an exponent. -/
def maxPadding : Nat := 40

/-- The written form of a decimal, positional where few zeros are needed; a whole value is written with
a zero after the point. -/
def ofScaled (negative : Bool) (number : Numeral.ScaledDigits) : NumberLiteral :=
  let digits := Nat.toDigits 10 number.digits
  match number.exponent with
  | .ofNat up =>
      if up ≤ maxPadding then { negative, whole := digits ++ List.replicate up '0', fraction := ['0'] }
      else { negative, whole := digits, exponent := some (false, Nat.toDigits 10 up) }
  | .negSucc down =>
      let places := down + 1
      if places ≤ maxPadding then
        let padded := List.replicate (places + 1 - digits.length) '0' ++ digits
        { negative, whole := padded.take (padded.length - places),
          fraction := padded.drop (padded.length - places) }
      else { negative, whole := digits, exponent := some (true, Nat.toDigits 10 places) }

/-- The shortest written form of a finite single value; zero has no sign. -/
def ofSingle? (value : Float32) : Option NumberLiteral :=
  match Numeral.single.decode value.toBits.toNat with
  | .finite negative mantissa exponent =>
      some (ofScaled (negative && mantissa != 0) (Numeral.single.shortest mantissa exponent))
  | .infinite _ | .notANumber => none

/-- The shortest written form of a finite double value; zero has no sign. -/
def ofDouble? (value : Float) : Option NumberLiteral :=
  match Numeral.double.decode value.toBits.toNat with
  | .finite negative mantissa exponent =>
      some (ofScaled (negative && mantissa != 0) (Numeral.double.shortest mantissa exponent))
  | .infinite _ | .notANumber => none

/-- Neither fraction nor exponent. -/
def isWhole (literal : NumberLiteral) : Bool :=
  literal.fraction.isEmpty && literal.exponent.isNone

/-- The value of a whole number of sixty-four bits without a sign. -/
def word? (literal : NumberLiteral) : Option Nat :=
  if literal.isWhole && !literal.negative then
    let value := Numeral.digitsValue literal.whole
    if value ≤ Numeral.maxWord then some value else none
  else none

/-- The value of a negative whole number that fits sixty-four bits with a sign; a negative zero
counts as a decimal number. -/
def negativeWord? (literal : NumberLiteral) : Option Nat :=
  if literal.isWhole && literal.negative then
    let value := Numeral.digitsValue literal.whole
    if 0 < value && value ≤ Nat.pow 2 63 then some value else none
  else none

/-! ### Value in double precision

A literal is read as a significand of sixty-four bits and a power of ten.  Digits that no longer fit
are dropped; those of the whole part then count as tens.  The significand is rounded to a double and
multiplied or divided by the power, which is one more rounding. -/

/-- The significand so far, the power of ten, and whether digits are being dropped. -/
structure Significand where
  value : Nat := 0
  exponent : Int := 0
  full : Bool := false

namespace Significand

/-- One more digit before the point. -/
def pushWhole (state : Significand) (digit : Char) : Significand :=
  let next := state.value * 10 + (digit.toNat - '0'.toNat)
  if state.full || Numeral.maxWord < next then
    { state with exponent := state.exponent + 1, full := true }
  else { state with value := next }

/-- One more digit after the point. -/
def pushFraction (state : Significand) (digit : Char) : Significand :=
  let next := state.value * 10 + (digit.toNat - '0'.toNat)
  if state.full || Numeral.maxWord < next then { state with full := true }
  else { state with value := next, exponent := state.exponent - 1 }

end Significand

/-- Divide or multiply by a power of ten in double precision; a result beyond the range is refused.
Powers below the range are divided off in steps. -/
def scaleByTens (significand : Float) (exponent : Int) : Option Float :=
  match exponent with
  | .ofNat up =>
      if up ≤ 308 then
        let scaled := significand * Numeral.doubleOfDecimal false 1 up
        if scaled == Float.ofBits 0x7FF0000000000000 then none else some scaled
      else if significand == 0 then some significand
      else none
  | .negSucc down =>
      let size := down + 1
      if size ≤ 308 then some (significand / Numeral.doubleOfDecimal false 1 size)
      else if size ≤ 616 then
        some (significand / Numeral.doubleOfDecimal false 1 308
          / Numeral.doubleOfDecimal false 1 (size - 308 : Nat))
      else some 0

/-- The largest exponent that is read as a number; a longer one is beyond the range either way. -/
def maxExponent : Nat := Nat.pow 2 31 - 1

/-- The value in double precision, if it is in range. -/
def double? (literal : NumberLiteral) : Option Float :=
  let whole := literal.whole.foldl Significand.pushWhole {}
  let state := literal.fraction.foldl Significand.pushFraction { whole with full := false }
  let signed (value : Float) : Float := if literal.negative then -value else value
  match literal.exponent with
  | none => (scaleByTens (UInt64.ofNat state.value).toFloat state.exponent).map signed
  | some (isNegative, digits) =>
      let size := Numeral.digitsValue digits
      if maxExponent < size then
        if state.value ≠ 0 && !isNegative then none else some (signed 0)
      else
        let exponent := if isNegative then state.exponent - size else state.exponent + size
        (scaleByTens (UInt64.ofNat state.value).toFloat exponent).map signed

/-- The value in single precision: whole numbers are rounded once, others through double
precision. -/
def single? (literal : NumberLiteral) : Option Float32 :=
  match literal.word?, literal.negativeWord? with
  | some value, _ => some (Numeral.singleOfNat value)
  | none, some value => some (-Numeral.singleOfNat value)
  | none, none => literal.double?.map Numeral.narrow

/-- Whether the number has a value at all: a whole number that fits sixty-four bits has one, any other has
one in double precision. -/
def inRange (literal : NumberLiteral) : Bool :=
  literal.word?.isSome || literal.negativeWord?.isSome || literal.double?.isSome

/-- The written form. -/
def render (literal : NumberLiteral) : String :=
  let sign := if literal.negative then ['-'] else []
  let fraction := if literal.fraction.isEmpty then [] else '.' :: literal.fraction
  let exponent := match literal.exponent with
    | none => []
    | some (isNegative, digits) => 'e' :: ((if isNegative then ['-'] else []) ++ digits)
  String.ofList (sign ++ literal.whole ++ fraction ++ exponent)

end NumberLiteral

namespace Json

/-- A string value. -/
def str (text : String) : Json :=
  .text (.plain text)

/-- A natural number. -/
def nat (value : Nat) : Json :=
  .number (.ofNat value)

/-- A single value; one that is not finite is `null`. -/
def single (value : Float32) : Json :=
  match NumberLiteral.ofSingle? value with
  | some literal => .number literal
  | none => .null

/-- An optional value, `null` when absent. -/
def optional {α : Type} (encode : α → Json) : Option α → Json
  | none => .null
  | some value => encode value

/-- An object with plain names. -/
def ofMembers (members : List (String × Json)) : Json :=
  .object (members.map (fun (name, value) => (.plain name, value)))

end Json

end NoteDialogue
