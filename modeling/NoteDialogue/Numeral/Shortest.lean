import NoteDialogue.Numeral.Binary

/-!
# The shortest decimal of a binary number

A finite binary value stands for the interval of reals that round to it; the ends belong to the
interval when the mantissa is even.  Its decimal is the one with the fewest digits in that interval,
and among those the nearest to the value.

For each number of digits, starting with one, the two neighbours of the value on the decimal grid
with that many digits are tried in exact arithmetic.  If any point of a grid lies in the interval
then one of the two neighbours does.
-/

set_option autoImplicit false

namespace NoteDialogue.Numeral

/-- A natural number times a power of ten. -/
structure ScaledDigits where
  digits : Nat
  exponent : Int
  deriving Repr, DecidableEq

/-- The interval of reals that round to a value, in quarters of the value's last place, over a
common denominator. -/
structure RoundingInterval where
  low : Nat
  value : Nat
  high : Nat
  denominator : Nat
  closed : Bool

/-- The rounding interval of `mantissa · 2 ^ exponent`. -/
def BinaryFormat.interval (format : BinaryFormat) (mantissa : Nat) (exponent : Int) :
    RoundingInterval :=
  let below :=
    if mantissa = format.fieldWeight && format.leastExponent < exponent then 1 else 2
  let quarter := exponent - 2
  let scale := match quarter with
    | .ofNat up => (Nat.pow 2 up, 1)
    | .negSucc down => (1, Nat.pow 2 (down + 1))
  { low := (4 * mantissa - below) * scale.1
    value := 4 * mantissa * scale.1
    high := (4 * mantissa + 2) * scale.1
    denominator := scale.2
    closed := mantissa % 2 == 0 }

namespace RoundingInterval

variable (interval : RoundingInterval)

/-- Whether `point / weight` lies in the interval. -/
def holds (point weight : Nat) : Bool :=
  let scaled := point * interval.denominator
  if interval.closed then interval.low * weight ≤ scaled && scaled ≤ interval.high * weight
  else interval.low * weight < scaled && scaled < interval.high * weight

/-- The neighbour of the value on the grid of multiples of `10 ^ exponent` that lies in the
interval; of two such neighbours the nearer, and of two equally near the even one. -/
def onGrid? (exponent : Int) : Option ScaledDigits :=
  let (up, weight) := match exponent with
    | .ofNat e => (Nat.pow 10 e, 1)
    | .negSucc e => (1, Nat.pow 10 (e + 1))
  let step := up * interval.denominator
  let target := interval.value * weight
  let floor := target / step
  let remainder := target % step
  let lowFits := floor ≠ 0 && interval.holds (floor * up) weight
  let highFits := interval.holds ((floor + 1) * up) weight
  if lowFits && highFits then
    let lowNearer := 2 * remainder < step || (2 * remainder = step && floor % 2 = 0)
    some ⟨if lowNearer then floor else floor + 1, exponent⟩
  else if lowFits then some ⟨floor, exponent⟩
  else if highFits then some ⟨floor + 1, exponent⟩
  else none

/-- Finer and finer grids until one has a point in the interval. -/
def refine (exponent : Int) : Nat → ScaledDigits
  | 0 => ⟨0, 0⟩
  | attempts + 1 =>
      match interval.onGrid? exponent with
      | some found => found
      | none => refine (exponent - 1) attempts

end RoundingInterval

/-- The number of decimal digits. -/
def digitCount (value : Nat) : Nat :=
  (Nat.toDigits 10 value).length

/-- The shortest decimal of `mantissa · 2 ^ exponent`. -/
def BinaryFormat.shortest (format : BinaryFormat) (mantissa : Nat) (exponent : Int) :
    ScaledDigits :=
  if mantissa = 0 then ⟨0, 0⟩
  else
    let interval := format.interval mantissa exponent
    let start : Int :=
      if interval.denominator ≤ interval.value then
        digitCount (interval.value / interval.denominator)
      else
        1 - (digitCount (interval.denominator / interval.value) : Int)
    interval.refine (start + 1) 24

/-! ## Written form -/

/-- Where a written number changes from positional notation to an exponent. -/
structure NumberStyle where
  /-- The least exponent of the first digit that is written positionally. -/
  leastPositional : Int
  /-- The exponent of the first digit from which on an exponent is written. -/
  firstExponential : Int

/-- Numbers are written positionally from a hundred-thousandth up to sixteen digits. -/
def plainStyle : NumberStyle := ⟨-5, 16⟩

/-- The written form of a decimal, which always shows a fraction or an exponent. -/
def ScaledDigits.render (style : NumberStyle) (number : ScaledDigits) : String :=
  let digits := Nat.toDigits 10 number.digits
  let leading := number.exponent + (digits.length : Int) - 1
  let text :=
    if number.digits = 0 then ['0', '.', '0']
    else if style.leastPositional ≤ leading && leading < style.firstExponential then
      if 0 ≤ number.exponent then
        digits ++ List.replicate number.exponent.toNat '0' ++ ['.', '0']
      else if 0 ≤ leading then
        digits.take (leading.toNat + 1) ++ ['.'] ++ digits.drop (leading.toNat + 1)
      else
        ['0', '.'] ++ List.replicate (-leading - 1).toNat '0' ++ digits
    else
      let fraction := if digits.length ≤ 1 then [] else '.' :: digits.drop 1
      digits.take 1 ++ fraction ++ ['e'] ++ (toString leading).toList
  String.ofList text

/-- The written form of a binary value. -/
def BinaryFormat.renderValue (format : BinaryFormat) (style : NumberStyle) :
    BinaryValue → String
  | .finite negative mantissa exponent =>
      let magnitude := (format.shortest mantissa exponent).render style
      if negative && mantissa ≠ 0 then "-" ++ magnitude else magnitude
  | .infinite negative => if negative then "-inf" else "inf"
  | .notANumber => "NaN"

/-- The written form of a single value. -/
def renderSingle (value : Float32) : String :=
  single.renderValue plainStyle (single.decode value.toBits.toNat)

/-- Neither infinite nor undefined. -/
def isFiniteSingle (value : Float32) : Bool :=
  match single.decode value.toBits.toNat with
  | .finite _ _ _ => true
  | _ => false

end NoteDialogue.Numeral
