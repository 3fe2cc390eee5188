import Brokerage.Time.Calendar

namespace Brokerage

/-!
Reading instants.

A date `YYYY-MM-DD` may be followed by a blank or the letter `T` and a time of
day, which has minutes and may have seconds and up to nine decimals, and by a
zone, which is `Z` or a signed offset `HH:MM`.  Without a time the day starts,
without a zone the time is universal time.  No other text is an instant.
-/

namespace InstantReader

/-- Exactly `count` decimal digits; their value and the rest. -/
def fixedDigits? (count : Nat) (text : List Char) : Option (Nat × List Char) :=
  let taken := text.take count
  if taken.length = count && taken.all Char.isDigit then
    some (taken.foldl (fun total c => 10 * total + (c.toNat - 48)) 0, text.drop count)
  else none

/-- The given character; the rest. -/
def skip? (expected : Char) : List Char -> Option (List Char)
  | c :: rest => if c = expected then some rest else none
  | [] => none

/-- A date that exists; its day number and the rest. -/
def date? (text : List Char) : Option (Int × List Char) := do
  let (year, rest) <- fixedDigits? 4 text
  let rest <- skip? '-' rest
  let (month, rest) <- fixedDigits? 2 rest
  let rest <- skip? '-' rest
  let (day, rest) <- fixedDigits? 2 rest
  let date : Date := { year := year, month, day }
  if date.isValid then some (date.dayNumber, rest) else none

/-- Up to nine decimals as nanoseconds; the rest. -/
def decimals? (text : List Char) : Option (Nat × List Char) :=
  let taken := text.takeWhile Char.isDigit
  if taken.isEmpty || 9 < taken.length then none
  else do
    let (value, rest) <- fixedDigits? taken.length text
    some (value * Nat.pow 10 (9 - taken.length), rest)

/-- Hours and minutes below their bounds, in seconds; the rest. -/
def hoursAndMinutes? (text : List Char) : Option (Nat × List Char) := do
  let (hours, rest) <- fixedDigits? 2 text
  let rest <- skip? ':' rest
  let (minutes, rest) <- fixedDigits? 2 rest
  if hours < 24 && minutes < 60 then some (3600 * hours + 60 * minutes, rest) else none

/-- Optional seconds with optional decimals, in nanoseconds; the rest. -/
def seconds? : List Char -> Option (Nat × List Char)
  | ':' :: text => do
      let (seconds, rest) <- fixedDigits? 2 text
      if 60 ≤ seconds then none
      else
        match rest with
        | '.' :: fraction => do
            let (nanoseconds, rest) <- decimals? fraction
            some (seconds * 1000000000 + nanoseconds, rest)
        | _ => some (seconds * 1000000000, rest)
  | text => some (0, text)

/-- An optional time of day in nanoseconds; the rest. -/
def time? : List Char -> Option (Nat × List Char)
  | c :: text =>
      if c = ' ' || c = 'T' then do
        let (minutes, rest) <- hoursAndMinutes? text
        let (nanoseconds, rest) <- seconds? rest
        some (minutes * 1000000000 + nanoseconds, rest)
      else some (0, c :: text)
  | [] => some (0, [])

/-- An optional zone that ends the text: seconds ahead of universal time. -/
def zone? : List Char -> Option Int
  | [] => some 0
  | ['Z'] => some 0
  | '+' :: text =>
      match hoursAndMinutes? text with
      | some (offset, []) => some offset
      | _ => none
  | '-' :: text =>
      match hoursAndMinutes? text with
      | some (offset, []) => some (-offset)
      | _ => none
  | _ => none

end InstantReader

/-- Read an instant; none when the text is not one. -/
def Instant.ofText? (text : String) : Option Instant := do
  let (day, rest) <- InstantReader.date? text.toList
  let (nanoseconds, rest) <- InstantReader.time? rest
  let offset <- InstantReader.zone? rest
  some ⟨day * 86400000000000 + nanoseconds - offset * 1000000000⟩

end Brokerage
