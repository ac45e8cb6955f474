import NoteDialogue.Text.Blank
import NoteDialogue.Text.LetterCase
import NoteDialogue.Numeral.Written

/-!
# Points in time

A point in time is a second of universal time and a number of nanoseconds in it.  A leap second is
written as second sixty; it is kept as the second before it, with a thousand million nanoseconds or
more, so that points in time stay ordered by the pair.

Reading takes a date, a `T` or a space, a time and an offset from universal time.  It is more generous
than the standard form: fields may have fewer digits, blanks may stand before the fields and their
separators, and the offset may be written `Z` or `UTC`.  Writing gives the standard form in universal
time, with as many groups of three fraction digits as are needed.
-/

set_option autoImplicit false

namespace NoteDialogue

/-- A point in time. -/
structure Timestamp where
  /-- Seconds since the start of 1970 in universal time. -/
  seconds : Int
  /-- Nanoseconds within the second; a leap second has a thousand million or more. -/
  nanoseconds : Nat := 0
  deriving DecidableEq, Repr, Inhabited

namespace Timestamp

/-- Earlier than. -/
def isBefore (left right : Timestamp) : Bool :=
  left.seconds < right.seconds ||
    (left.seconds == right.seconds && left.nanoseconds < right.nanoseconds)

/-- The whole second. -/
def ofSeconds (seconds : Int) : Timestamp := { seconds }

/-! ## The calendar -/

/-- A day of the Gregorian calendar. -/
structure Day where
  year : Int
  month : Nat
  day : Nat
  deriving DecidableEq, Repr

/-- A year with a twenty-ninth of February. -/
def isLeapYear (year : Int) : Bool :=
  Int.emod year 4 == 0 && (Int.emod year 100 != 0 || Int.emod year 400 == 0)

/-- The days of a month. -/
def daysInMonth (year : Int) (month : Nat) : Nat :=
  match month with
  | 2 => if isLeapYear year then 29 else 28
  | 4 | 6 | 9 | 11 => 30
  | _ => 31

/-- Days from the start of 1970 to a day.  Years are counted from March, so that the leap day is the
last of its year, in cycles of four hundred years. -/
def dayNumber (day : Day) : Int :=
  let year := if day.month ≤ 2 then day.year - 1 else day.year
  let cycle := Int.fdiv year 400
  let yearOfCycle := year - cycle * 400
  let monthFromMarch : Int := if 2 < day.month then day.month - 3 else day.month + 9
  let dayOfYear := Int.fdiv (153 * monthFromMarch + 2) 5 + day.day - 1
  let dayOfCycle := yearOfCycle * 365 + Int.fdiv yearOfCycle 4 - Int.fdiv yearOfCycle 100 + dayOfYear
  cycle * 146097 + dayOfCycle - 719468

/-- The day with a number. -/
def dayOfNumber (number : Int) : Day :=
  let shifted := number + 719468
  let cycle := Int.fdiv shifted 146097
  let dayOfCycle := shifted - cycle * 146097
  let yearOfCycle := Int.fdiv (dayOfCycle - Int.fdiv dayOfCycle 1460 + Int.fdiv dayOfCycle 36524
    - Int.fdiv dayOfCycle 146096) 365
  let dayOfYear := dayOfCycle - (365 * yearOfCycle + Int.fdiv yearOfCycle 4
    - Int.fdiv yearOfCycle 100)
  let monthFromMarch := Int.fdiv (5 * dayOfYear + 2) 153
  let day := dayOfYear - Int.fdiv (153 * monthFromMarch + 2) 5 + 1
  let month := if monthFromMarch < 10 then monthFromMarch + 3 else monthFromMarch - 9
  let year := yearOfCycle + cycle * 400
  { year := if month ≤ 2 then year + 1 else year, month := month.toNat, day := day.toNat }

/-- The years that can be kept. -/
def isKeptYear (year : Int) : Bool :=
  -262143 ≤ year && year ≤ 262142

/-! ## Reading -/

open Numeral (isDigit digitsValue)

/-- At least one digit and no more than `width`, after blanks. -/
def readNumber? (width : Nat) (cs : List Char) : Option (Nat × List Char) :=
  let start := Text.trimLeftChars cs
  let digits := (start.takeWhile isDigit).take width
  if digits.isEmpty then none else some (digitsValue digits, start.drop digits.length)

/-- A year: four digits at most, or any number of digits after a sign. -/
def readYear? (cs : List Char) : Option (Int × List Char) :=
  let start := Text.trimLeftChars cs
  let signed? (negative : Bool) (rest : List Char) : Option (Int × List Char) :=
    let digits := rest.takeWhile isDigit
    if digits.isEmpty then none
    else
      let size : Int := digitsValue digits
      some (if negative then -size else size, rest.drop digits.length)
  match start with
  | '-' :: rest => signed? true rest
  | '+' :: rest => signed? false rest
  | _ => (readNumber? 4 start).map (fun (value, rest) => ((value : Int), rest))

/-- The text after a separator, which blanks may precede. -/
def afterMark? (mark : Char) (cs : List Char) : Option (List Char) :=
  match Text.trimLeftChars cs with
  | c :: rest => if c = mark then some rest else none
  | [] => none

/-- The date, and the text after it. -/
def readDay? (cs : List Char) : Option (Day × List Char) := do
  let (year, rest) ← readYear? cs
  let rest ← afterMark? '-' rest
  let (month, rest) ← readNumber? 2 rest
  let rest ← afterMark? '-' rest
  let (day, rest) ← readNumber? 2 rest
  if isKeptYear year && 1 ≤ month && month ≤ 12 && 1 ≤ day && day ≤ daysInMonth year month then
    some ({ year, month, day }, rest)
  else none

/-- The nanoseconds of a fraction, of which nine digits count. -/
def readFraction? (cs : List Char) : Option (Nat × List Char) :=
  match cs with
  | '.' :: rest =>
      let digits := rest.takeWhile isDigit
      if digits.isEmpty then none
      else
        let counted := digits.take 9
        some (digitsValue counted * Nat.pow 10 (9 - counted.length), rest.drop digits.length)
  | _ => some (0, cs)

/-- The second of the day and its nanoseconds, and the text after them. -/
def readClock? (cs : List Char) : Option (Nat × Nat × List Char) := do
  let (hour, rest) ← readNumber? 2 cs
  let rest ← afterMark? ':' rest
  let (minute, rest) ← readNumber? 2 rest
  let rest ← afterMark? ':' rest
  let (second, rest) ← readNumber? 2 rest
  let (nanoseconds, rest) ← readFraction? rest
  if 23 < hour || 59 < minute || 60 < second then none
  else if second = 60 then
    some (hour * 3600 + minute * 60 + 59, 1000000000 + nanoseconds, rest)
  else some (hour * 3600 + minute * 60 + second, nanoseconds, rest)

/-- Two digits at the start of a text. -/
def twoDigits? : List Char → Option (Nat × List Char)
  | a :: b :: rest => if isDigit a && isDigit b then some (digitsValue [a, b], rest) else none
  | _ => none

/-- Hours and minutes of an offset in seconds, with colons or blanks between them. -/
def readOffsetSize? (cs : List Char) : Option (Int × List Char) := do
  let (hours, rest) ← twoDigits? cs
  let (minutes, rest) ← twoDigits? (rest.dropWhile (fun c => c = ':' || Text.isBlank c))
  if minutes < 60 && hours < 24 then
    some (((hours * 3600 + minutes * 60 : Nat) : Int), rest)
  else none

/-- The offset from universal time in seconds, and the text after it. -/
def readOffset? (cs : List Char) : Option (Int × List Char) :=
  let start := Text.trimLeftChars cs
  match Text.afterOpening? "utc".toList start with
  | some rest => some (0, rest)
  | none =>
      match start with
      | [] => none
      | sign :: rest =>
          if sign = 'Z' || sign = 'z' then some (0, rest)
          else if sign = '+' then readOffsetSize? rest
          else if sign = '-' || sign.toNat = 0x2212 then
            (readOffsetSize? rest).map (fun (size, after) => (-size, after))
          else none

/-- The mark between the date and the time. -/
def afterDateMark? : List Char → Option (List Char)
  | c :: rest => if c = 'T' || c = 't' || c = ' ' then some rest else none
  | [] => none

/-- The point in time that a text writes. -/
def ofText? (text : String) : Option Timestamp := do
  let (day, rest) ← readDay? text.toList
  let rest ← afterDateMark? rest
  let (second, nanoseconds, rest) ← readClock? rest
  let (offset, rest) ← readOffset? rest
  let seconds := dayNumber day * 86400 + second - offset
  if rest.all Text.isBlank && isKeptYear (dayOfNumber (Int.fdiv seconds 86400)).year then
    some { seconds, nanoseconds }
  else none

/-! ## Writing -/

/-- A number with leading zeros up to a width. -/
def padded (width value : Nat) : String :=
  let digits := Nat.toDigits 10 value
  String.ofList (List.replicate (width - digits.length) '0' ++ digits)

/-- A year; one outside four digits has a sign. -/
def renderYear (year : Int) : String :=
  if 0 ≤ year && year ≤ 9999 then padded 4 year.toNat
  else (if year < 0 then "-" else "+") ++ padded 4 year.natAbs

/-- A fraction of a second in groups of three digits. -/
def renderFraction (nanoseconds : Nat) : String :=
  if nanoseconds = 0 then ""
  else if nanoseconds % 1000000 = 0 then "." ++ padded 3 (nanoseconds / 1000000)
  else if nanoseconds % 1000 = 0 then "." ++ padded 6 (nanoseconds / 1000)
  else "." ++ padded 9 nanoseconds

/-- The written form in universal time. -/
def render (time : Timestamp) : String :=
  let dayIndex := Int.fdiv time.seconds 86400
  let second := (time.seconds - dayIndex * 86400).toNat
  let day := dayOfNumber dayIndex
  let leap := time.nanoseconds / 1000000000
  renderYear day.year ++ "-" ++ padded 2 day.month ++ "-" ++ padded 2 day.day ++ "T" ++
    padded 2 (second / 3600) ++ ":" ++ padded 2 (second / 60 % 60) ++ ":" ++
    padded 2 (second % 60 + leap) ++ renderFraction (time.nanoseconds % 1000000000) ++ "Z"

end Timestamp

end NoteDialogue
