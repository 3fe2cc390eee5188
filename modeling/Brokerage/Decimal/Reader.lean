import Brokerage.Text.Blank

namespace Brokerage
namespace Decimal

/-!
Reading decimal numbers.

A reader collects the digits into one whole number and keeps the power of ten
apart; the two are turned into the nearest double-precision number at the end.
-/

/-- The value `± digits * 10 ^ power`, digits first collected as a whole number. -/
structure Scientific where
  negative : Bool
  digits : Nat
  power : Int
  deriving DecidableEq, Repr

/--
The nearest double-precision number.  Powers far beyond the range of the
numbers are settled by their sign, so that no huge power is ever computed.
-/
def Scientific.toFloat (number : Scientific) : Float :=
  let size : Int := (Nat.log2 number.digits : Int) / 3 + number.power
  let magnitude :=
    if number.digits = 0 || size < -400 then 0.0
    else if 400 < number.power then 1.0 / 0.0
    else Float.ofScientific number.digits (decide (number.power < 0)) number.power.natAbs
  if number.negative then -magnitude else magnitude

/-- What follows a digit, without an underscore that joins it to the next digit. -/
def afterDigit : List Char -> List Char
  | '_' :: next :: rest =>
      if (Text.digitValue? next).isSome then next :: rest else '_' :: next :: rest
  | rest => rest

theorem length_afterDigit_le (rest : List Char) : (afterDigit rest).length ≤ rest.length := by
  unfold afterDigit
  split
  · split <;> simp
  · exact Nat.le_refl _

/-- A run of digits, single underscores between two digits left out; its digits and the rest. -/
def digitRun : List Char -> List Nat × List Char
  | [] => ([], [])
  | first :: rest =>
      match Text.digitValue? first with
      | none => ([], first :: rest)
      | some value =>
          let more := digitRun (afterDigit rest)
          (value :: more.1, more.2)
termination_by text => text.length
decreasing_by exact Nat.lt_succ_of_le (length_afterDigit_le rest)

/-- The whole number that a list of digits writes, the most significant one first. -/
def wholeNumber (digits : List Nat) : Nat :=
  digits.foldl (fun total digit => 10 * total + digit) 0

/-- An optional sign; whether it was a minus, and the rest. -/
def signOf : List Char -> Bool × List Char
  | '-' :: rest => (true, rest)
  | '+' :: rest => (false, rest)
  | text => (false, text)

/-- An optional exponent, which has to end the text. -/
def exponent? : List Char -> Option Int
  | [] => some 0
  | mark :: rest =>
      if mark = 'e' || mark = 'E' then
        let sign := signOf rest
        match digitRun sign.2 with
        | ([], _) => none
        | (digits, []) => some (if sign.1 then -(wholeNumber digits : Int) else wholeNumber digits)
        | _ => none
      else none

/-- Digits, an optional fraction and an optional exponent; one digit is needed. -/
def unsigned? (negative : Bool) (text : List Char) : Option Scientific :=
  let whole := digitRun text
  let fraction :=
    match whole.2 with
    | '.' :: rest => digitRun rest
    | rest => ([], rest)
  if whole.1.isEmpty && fraction.1.isEmpty then none
  else
    (exponent? fraction.2).map fun power =>
      { negative
        digits := wholeNumber (whole.1 ++ fraction.1)
        power := power - fraction.1.length }

/--
Read a number as a person would type it: blanks around it, a sign, an
underscore between two digits, digits of any script, and the words for the
infinite and the undefined number in any case are allowed.
-/
def number? (text : String) : Option Float :=
  let sign := signOf (Text.trim text.toList)
  let word := String.ofList (sign.2.map Char.toLower)
  if word = "inf" || word = "infinity" then some (if sign.1 then -1.0 / 0.0 else 1.0 / 0.0)
  else if word = "nan" then some (0.0 / 0.0)
  else (unsigned? sign.1 sign.2).map Scientific.toFloat

end Decimal
end Brokerage
