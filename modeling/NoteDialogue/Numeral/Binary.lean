/-!
# Binary numbers of fixed precision

A binary format has a number of significant bits and a number of exponent bits.  Its finite values
are `m · 2 ^ q` where `m` has at most that many bits and `q` is not below a least exponent; the
pattern of a value without its sign is `(q - least) · 2 ^ (precision - 1) + m`, which is increasing
in the value, so that a rounding that carries into the next exponent needs no special case.

`BinaryFormat.round` takes a ratio of natural numbers to the pattern of the nearest value, a tie to
the value with an even pattern, and too large a ratio to the pattern of infinity.
-/

set_option autoImplicit false

namespace NoteDialogue.Numeral

/-- The shape of a binary format. -/
structure BinaryFormat where
  /-- Significant bits, the leading one included. -/
  precision : Nat
  /-- Bits of the exponent field. -/
  exponentBits : Nat

/-- Thirty-two bits. -/
def single : BinaryFormat := ⟨24, 8⟩

/-- Sixty-four bits. -/
def double : BinaryFormat := ⟨53, 11⟩

/-- The quotient nearest to a ratio; a tie goes to the even one. -/
def nearestQuotient (numerator denominator : Nat) : Nat :=
  let quotient := numerator / denominator
  let twice := 2 * (numerator % denominator)
  if twice < denominator then quotient
  else if denominator < twice then quotient + 1
  else if quotient % 2 = 0 then quotient
  else quotient + 1

/-- A value read from its pattern. -/
inductive BinaryValue
  | finite (negative : Bool) (mantissa : Nat) (exponent : Int)
  | infinite (negative : Bool)
  | notANumber
  deriving DecidableEq, Repr

namespace BinaryFormat

variable (format : BinaryFormat)

/-- The exponent of the smallest step between values. -/
def leastExponent : Int :=
  3 - Int.pow 2 (format.exponentBits - 1) - format.precision

/-- The weight of the exponent field. -/
def fieldWeight : Nat :=
  Nat.pow 2 (format.precision - 1)

/-- The pattern of infinity without its sign. -/
def infinityPattern : Nat :=
  (Nat.pow 2 format.exponentBits - 1) * format.fieldWeight

/-- The weight of the sign. -/
def signWeight : Nat :=
  Nat.pow 2 format.exponentBits * format.fieldWeight

/-- The ratio scaled by a power of two. -/
def scaledRatio (numerator denominator : Nat) (exponent : Int) : Nat × Nat :=
  match exponent with
  | .ofNat up => (numerator, denominator * Nat.pow 2 up)
  | .negSucc down => (numerator * Nat.pow 2 (down + 1), denominator)

/-- The exponent `e` with `2 ^ e ≤ ratio < 2 ^ (e + 1)`. -/
def magnitude (numerator denominator : Nat) : Int :=
  let guess : Int := (numerator.log2 : Int) - (denominator.log2 : Int)
  let (top, bottom) := scaledRatio numerator denominator guess
  if top < bottom then guess - 1 else guess

/-- The pattern, without sign, of the value nearest to a ratio. -/
def round (numerator denominator : Nat) : Nat :=
  if numerator = 0 then 0
  else
    let wanted := magnitude numerator denominator - (format.precision - 1 : Nat)
    let exponent := max wanted format.leastExponent
    let (top, bottom) := scaledRatio numerator denominator exponent
    let pattern :=
      (exponent - format.leastExponent).toNat * format.fieldWeight + nearestQuotient top bottom
    min pattern format.infinityPattern

/-- The pattern with its sign. -/
def withSign (negative : Bool) (pattern : Nat) : Nat :=
  if negative then pattern + format.signWeight else pattern

/-- The pattern of the value nearest to `± mantissa · 2 ^ exponent`. -/
def roundDyadic (negative : Bool) (mantissa : Nat) (exponent : Int) : Nat :=
  match exponent with
  | .ofNat up => format.withSign negative (format.round (mantissa * Nat.pow 2 up) 1)
  | .negSucc down => format.withSign negative (format.round mantissa (Nat.pow 2 (down + 1)))

/-- The pattern of the value nearest to `± digits · 10 ^ exponent`.  Powers that no finite value can
reach are cut off before they are computed. -/
def roundDecimal (negative : Bool) (digits : Nat) (exponent : Int) : Nat :=
  let pattern :=
    if digits = 0 then 0
    else if exponent > 400 then format.infinityPattern
    else if exponent + ((digits.log2 + 1 : Nat) : Int) < -1200 then 0
    else
      match exponent with
      | .ofNat up => format.round (digits * Nat.pow 10 up) 1
      | .negSucc down => format.round digits (Nat.pow 10 (down + 1))
  format.withSign negative pattern

/-- The value of a pattern. -/
def decode (pattern : Nat) : BinaryValue :=
  let negative := pattern / format.signWeight % 2 == 1
  let unsigned := pattern % format.signWeight
  let field := unsigned / format.fieldWeight
  let fraction := unsigned % format.fieldWeight
  if unsigned = format.infinityPattern then .infinite negative
  else if format.infinityPattern < unsigned then .notANumber
  else if field = 0 then .finite negative fraction format.leastExponent
  else .finite negative (format.fieldWeight + fraction) (format.leastExponent + (field - 1 : Nat))

end BinaryFormat

/-! ## Between the two formats -/

/-- The single value nearest to a ratio of decimals. -/
def singleOfDecimal (negative : Bool) (digits : Nat) (exponent : Int) : Float32 :=
  Float32.ofBits (UInt32.ofNat (single.roundDecimal negative digits exponent))

/-- The double value nearest to a decimal. -/
def doubleOfDecimal (negative : Bool) (digits : Nat) (exponent : Int) : Float :=
  Float.ofBits (UInt64.ofNat (double.roundDecimal negative digits exponent))

/-- The single value nearest to a natural number. -/
def singleOfNat (value : Nat) : Float32 :=
  Float32.ofBits (UInt32.ofNat (single.round value 1))

/-- The single value nearest to a double one. -/
def narrow (value : Float) : Float32 :=
  match double.decode value.toBits.toNat with
  | .finite negative mantissa exponent =>
      Float32.ofBits (UInt32.ofNat (single.roundDyadic negative mantissa exponent))
  | .infinite negative =>
      Float32.ofBits (UInt32.ofNat (single.withSign negative single.infinityPattern))
  | .notANumber => Float32.ofBits 0x7FC00000

end NoteDialogue.Numeral
