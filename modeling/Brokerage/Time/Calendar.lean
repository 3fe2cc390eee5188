import Brokerage.Decimal.Binary
import Brokerage.Time.Instant

namespace Brokerage

/-!
Calendar dates and the texts of instants and spans.

Dates follow the Gregorian calendar in both directions.  For the arithmetic a
year is taken to start in March, so that the leap day is its last day.
-/

/-- A date of the Gregorian calendar. -/
structure Date where
  year : Int
  month : Nat
  day : Nat
  deriving DecidableEq, Repr

namespace Date

def isLeapYear (year : Int) : Bool :=
  year % 4 = 0 && (year % 100 != 0 || year % 400 = 0)

def daysInMonth (year : Int) (month : Nat) : Nat :=
  if month = 2 then if isLeapYear year then 29 else 28
  else if month = 4 || month = 6 || month = 9 || month = 11 then 30
  else 31

/-- Whether the date exists; years have up to four digits and start with the first. -/
def isValid (date : Date) : Bool :=
  1 ≤ date.year && date.year ≤ 9999 && 1 ≤ date.month && date.month ≤ 12 &&
    1 ≤ date.day && date.day ≤ daysInMonth date.year date.month

/-- The number of the day; day zero is 1970-01-01. -/
def dayNumber (date : Date) : Int :=
  let year := if date.month ≤ 2 then date.year - 1 else date.year
  let era := year / 400
  let yearOfEra := year % 400
  let dayOfYear : Int := ((153 * ((date.month + 9) % 12) + 2) / 5 + date.day : Nat) - 1
  let dayOfEra := yearOfEra * 365 + yearOfEra / 4 - yearOfEra / 100 + dayOfYear
  era * 146097 + dayOfEra - 719468

/-- The date of a day number. -/
def ofDayNumber (number : Int) : Date :=
  let shifted := number + 719468
  let era := shifted / 146097
  let dayOfEra := (shifted % 146097).toNat
  let yearOfEra := (dayOfEra - dayOfEra / 1460 + dayOfEra / 36524 - dayOfEra / 146096) / 365
  let dayOfYear := dayOfEra - (365 * yearOfEra + yearOfEra / 4 - yearOfEra / 100)
  let shiftedMonth := (5 * dayOfYear + 2) / 153
  let day := dayOfYear - (153 * shiftedMonth + 2) / 5 + 1
  let month := if shiftedMonth < 10 then shiftedMonth + 3 else shiftedMonth - 9
  let year : Int := yearOfEra + era * 400
  { year := if month ≤ 2 then year + 1 else year, month, day }

end Date

open Decimal (paddedDigits)

/-- The fraction of a second: nothing, six digits, or nine when six are not enough. -/
def fractionText (nanoseconds : Nat) : List Char :=
  if nanoseconds = 0 then []
  else if nanoseconds % 1000 = 0 then '.' :: paddedDigits 6 (nanoseconds / 1000)
  else '.' :: paddedDigits 9 nanoseconds

/-- Hours, minutes and seconds with two digits each, and the fraction. -/
def clockText (nanoseconds : Nat) : List Char :=
  let seconds := nanoseconds / 1000000000
  paddedDigits 2 (seconds / 3600) ++ ':' :: paddedDigits 2 (seconds / 60 % 60) ++
    ':' :: paddedDigits 2 (seconds % 60) ++ fractionText (nanoseconds % 1000000000)

/-- Year, month and day with dashes in between. -/
def Date.text (date : Date) : List Char :=
  paddedDigits 4 date.year.toNat ++ '-' :: paddedDigits 2 date.month ++
    '-' :: paddedDigits 2 date.day

/-- Date and time of day, without the zone. -/
def Instant.plainText (instant : Instant) : String :=
  String.ofList ((Date.ofDayNumber instant.day).text ++ ' ' :: clockText instant.timeOfDay)

/-- The word for an instant that is missing. -/
def Instant.missingText : String := "NaT"

/-- Date and time of day in universal time. -/
def Instant.text (instant : Instant) : String :=
  match instant.known? with
  | some instant => instant.plainText ++ "+00:00"
  | none => missingText

/-- Whole days, which may be negative, and the time that is left over. -/
def Duration.text (span : Duration) : String :=
  let instant : Instant := ⟨span.nanoseconds⟩
  toString instant.day ++ " days " ++ (if instant.day < 0 then "+" else "") ++
    String.ofList (clockText instant.timeOfDay)

end Brokerage
