import Columnar.Text.Blank
import Columnar.Text.Digits
import Columnar.Time.Calendar
/-!
# Date-times and how they are stored

A date-time is a day, a second of that day and a number of nanoseconds; a leap second is the second
before it with a thousand million nanoseconds or more. A timestamp cell keeps the milliseconds since
the beginning of 1970 and the nanoseconds beside them. Text is read as UTC, with `T` and `Z` for
separators.
-/

set_option autoImplicit false

namespace Columnar.Time

open Columnar.Text (trim trimStart digitsValue decimalDigits paddedDigits)

/-- A day counted from 1 January 1970, a second of it, and nanoseconds. -/
structure DateTime where
  day : Int
  second : Nat
  nanos : Nat
deriving DecidableEq

/-- What a timestamp cell keeps of a date-time. -/
structure Instant where
  millis : Int
  nanos : Nat
deriving DecidableEq, Inhabited

/-- Seconds since the beginning of 1970. -/
def DateTime.epochSecond (time : DateTime) : Int :=
  time.day * 86400 + time.second

/-- The cell of a date-time. -/
def DateTime.toInstant (time : DateTime) : Instant :=
  ⟨time.epochSecond * 1000 + time.nanos / 1000000, time.nanos⟩

/-- The date-time of a cell. Leap seconds end a minute, no second has two thousand million
nanoseconds, and the day must be one that has a name. -/
def Instant.toDateTime? (cell : Instant) : Option DateTime :=
  let seconds := cell.millis / 1000
  let day := seconds / 86400
  let second := (seconds % 86400).toNat
  if 2000000000 ≤ cell.nanos || (1000000000 ≤ cell.nanos && second % 60 != 59) then none
  else if day < (Date.mk firstYear 1 1).dayNumber || (Date.mk lastYear 12 31).dayNumber < day then
    none
  else some ⟨day, second, cell.nanos⟩

/-- Digits in front of a text, at most so many and at least one, once the blanks before them are
skipped: their number and the rest. -/
def scanNumber (most : Nat) (text : List Char) : Option (Nat × List Char) :=
  let text := trimStart text
  let digits := (text.take most).takeWhile Char.isDigit
  if digits.isEmpty then none else some (digitsValue digits, text.drop digits.length)

/-- Digits in front of a text, as many as there are, but at least one. -/
def scanLongNumber (text : List Char) : Option (Nat × List Char) :=
  let digits := text.takeWhile Char.isDigit
  if digits.isEmpty then none else some (digitsValue digits, text.dropWhile Char.isDigit)

/-- A year: any number of digits behind a sign, else at most four. -/
def scanYear (text : List Char) : Option (Int × List Char) :=
  match trimStart text with
  | '-' :: rest => (scanLongNumber rest).map fun (n, rest) => (-(n : Int), rest)
  | '+' :: rest => (scanLongNumber rest).map fun (n, rest) => ((n : Int), rest)
  | text => (scanNumber 4 text).map fun (n, rest) => ((n : Int), rest)

/-- The text behind one given character. -/
def scanChar (expected : Char) : List Char → Option (List Char)
  | c :: rest => if c = expected then some rest else none
  | [] => none

/-- Nanoseconds: a point and at least one digit, of which the first nine count, or nothing. -/
def scanFraction : List Char → Option (Nat × List Char)
  | '.' :: rest =>
    let digits := rest.takeWhile Char.isDigit
    if digits.isEmpty then none
    else
      let counted := digits.take 9
      some (digitsValue counted * Nat.pow 10 (9 - counted.length), rest.dropWhile Char.isDigit)
  | text => some (0, text)

/-- The date-time of fields read one by one; second 60 is a leap second. -/
def DateTime.ofFields? (date : Date) (hour minute second nanos : Nat) : Option DateTime :=
  if date.isValid && firstYear ≤ date.year && date.year ≤ lastYear &&
      hour ≤ 23 && minute ≤ 59 && second ≤ 60 then
    let clock := hour * 3600 + minute * 60
    if second = 60 then some ⟨date.dayNumber, clock + 59, nanos + 1000000000⟩
    else some ⟨date.dayNumber, clock + second, nanos⟩
  else none

/-- Reads `year-month-day hour:minute:second` and an optional fraction. Blanks are skipped before
each number, and nothing may follow. -/
def DateTime.scan? (text : List Char) : Option DateTime := do
  let (year, text) ← scanYear text
  let text ← scanChar '-' text
  let (month, text) ← scanNumber 2 text
  let text ← scanChar '-' text
  let (day, text) ← scanNumber 2 text
  let (hour, text) ← scanNumber 2 text
  let text ← scanChar ':' text
  let (minute, text) ← scanNumber 2 text
  let text ← scanChar ':' text
  let (second, text) ← scanNumber 2 text
  let (nanos, text) ← scanFraction text
  if text.isEmpty then DateTime.ofFields? ⟨year, month, day⟩ hour minute second nanos else none

/-- Separators become blanks before a text is read. -/
def spaceSeparator (c : Char) : Char :=
  if c = 'T' || c = 'Z' then ' ' else c

/-- The date-time that a text writes. -/
def DateTime.parse? (text : String) : Option DateTime :=
  DateTime.scan? (trim (text.toList.map spaceSeparator))

/-- A year of at least four digits, with a sign when it is outside 0 to 9999. -/
def formatYear (year : Int) : List Char :=
  let digits := paddedDigits 4 year.natAbs
  if year < 0 then '-' :: digits else if 9999 < year then '+' :: digits else digits

/-- Nanoseconds with three, six or nine digits, as few as hold them; none of zero. -/
def formatFraction (nanos : Nat) : List Char :=
  if nanos = 0 then []
  else if nanos % 1000000 = 0 then '.' :: paddedDigits 3 (nanos / 1000000)
  else if nanos % 1000 = 0 then '.' :: paddedDigits 6 (nanos / 1000)
  else '.' :: paddedDigits 9 nanos

/-- The text of a date-time. -/
def DateTime.format (time : DateTime) : String :=
  let date := Date.ofDayNumber time.day
  let second := time.second % 60 + time.nanos / 1000000000
  String.ofList <|
    formatYear date.year ++ '-' :: paddedDigits 2 date.month ++ '-' :: paddedDigits 2 date.day ++
      ' ' :: paddedDigits 2 (time.second / 3600) ++
      ':' :: paddedDigits 2 (time.second / 60 % 60) ++ ':' :: paddedDigits 2 second ++
      formatFraction (time.nanos % 1000000000)

end Columnar.Time
