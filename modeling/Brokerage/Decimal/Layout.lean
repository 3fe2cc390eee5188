import Brokerage.Decimal.Binary

namespace Brokerage
namespace Decimal

/-!
How significant digits are laid out as text.

Small and large numbers are written with an exponent, numbers in between
positionally.  The two formats of the library differ in where positional
notation ends and in whether a whole number keeps a fraction.
-/

/-- A positive decimal number `0.d₁d₂… * 10 ^ point`, its last digit not zero. -/
structure Significant where
  digits : List Char
  point : Int
  deriving DecidableEq, Repr

/-- The decisions of one way to write a number. -/
structure Layout where
  /-- The exponents below this one, and from minus four on, are written positionally. -/
  positionalBelow : Int
  /-- A whole number in positional notation is followed by `.0`. -/
  keepsFraction : Bool

namespace Layout

/-- Exponents carry a sign and at least two digits. -/
def exponent (power : Int) : List Char :=
  'e' :: (if power < 0 then '-' else '+') :: paddedDigits 2 power.natAbs

/-- Write a positive number. -/
def write (layout : Layout) (number : Significant) : List Char :=
  let power := number.point - 1
  if -4 ≤ power && power < layout.positionalBelow then
    if number.point ≤ 0 then
      '0' :: '.' :: List.replicate (-number.point).toNat '0' ++ number.digits
    else
      let place := number.point.toNat
      let whole := number.digits.take place
      let rest := number.digits.drop place
      let whole := whole ++ List.replicate (place - whole.length) '0'
      if rest.isEmpty then whole ++ (if layout.keepsFraction then ['.', '0'] else [])
      else whole ++ '.' :: rest
  else
    match number.digits with
    | [] => exponent power
    | [only] => only :: exponent power
    | first :: rest => first :: '.' :: rest ++ exponent power

/-- Write a zero. -/
def zero (layout : Layout) : List Char :=
  '0' :: (if layout.keepsFraction then ['.', '0'] else [])

end Layout

/-- Zeros at the end of the digits say nothing about the value. -/
def stripZeros (digits : List Char) : List Char :=
  (digits.reverse.dropWhile (· == '0')).reverse

/-- Put the sign in front; the undefined number has none. -/
def signed (negative : Bool) (text : List Char) : String :=
  String.ofList (if negative then '-' :: text else text)

end Decimal
end Brokerage
