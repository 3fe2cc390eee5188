namespace Brokerage
namespace Decimal

/-!
The exact value of a double-precision number.

A finite number is `± mantissa * 2 ^ exponent`, read off its sixty-four bits.
All decimal texts of the library are computed from this value in whole-number
arithmetic, so that no rounding is left to chance.
-/

/-- The magnitude `mantissa * 2 ^ exponent` of a finite number. -/
structure Binary where
  mantissa : Nat
  exponent : Int
  deriving DecidableEq, Repr

/-- What the bits of a number say. -/
inductive Reading where
  | finite (negative : Bool) (magnitude : Binary)
  | infinite (negative : Bool)
  | undefined
  deriving DecidableEq, Repr

/-- Read sign, exponent field and fraction field of a number. -/
def read (x : Float) : Reading :=
  let bits : Nat := x.toBits.toNat
  let negative := bits / Nat.pow 2 63 % 2 == 1
  let field : Nat := bits / Nat.pow 2 52 % Nat.pow 2 11
  let fraction : Nat := bits % Nat.pow 2 52
  if field = Nat.pow 2 11 - 1 then
    if fraction = 0 then .infinite negative else .undefined
  else if field = 0 then .finite negative ⟨fraction, -1074⟩
  else .finite negative ⟨fraction + Nat.pow 2 52, (field : Int) - 1075⟩

namespace Binary

/-- The magnitude as a fraction, numerator first. -/
def fraction (value : Binary) : Nat × Nat :=
  match value.exponent with
  | .ofNat power => (value.mantissa * Nat.pow 2 power, 1)
  | .negSucc power => (value.mantissa, Nat.pow 2 (power + 1))

/--
The two ends of the interval of reals that round to this number, over the
denominator of four times the unit of its last place, so that both are whole:
half a unit above, and half a unit below, or a quarter where the number is the
smallest of its binade.
-/
def neighbourhood (value : Binary) : Binary × Binary :=
  let below := if value.mantissa = Nat.pow 2 52 && value.exponent != -1074 then 1 else 2
  (⟨4 * value.mantissa - below, value.exponent - 2⟩, ⟨4 * value.mantissa + 2, value.exponent - 2⟩)

end Binary

/-- The number of decimal digits of a whole number; zero has none. -/
def digitCount (n : Nat) : Nat :=
  if n = 0 then 0 else digitCount (n / 10) + 1
termination_by n
decreasing_by omega

/--
The position `k` of the decimal point of a positive fraction: its value lies
from `10 ^ (k - 1)` up to, and not including, `10 ^ k`.
-/
def pointPosition (numerator denominator : Nat) : Int :=
  let guess : Int := (digitCount numerator : Int) - digitCount denominator
  let reached :=
    match guess with
    | .ofNat power => decide (denominator * Nat.pow 10 power ≤ numerator)
    | .negSucc power => decide (denominator ≤ numerator * Nat.pow 10 (power + 1))
  if reached then guess + 1 else guess

/--
Divide and round to the nearest whole number; a quotient half way between two
goes to the even one.
-/
def roundDiv (numerator denominator : Nat) : Nat :=
  let quotient := numerator / denominator
  let twice := 2 * (numerator % denominator)
  if twice < denominator then quotient
  else if denominator < twice then quotient + 1
  else quotient + quotient % 2

/-- Multiply a fraction by a power of ten, which may be negative. -/
def scaleByTen (value : Nat × Nat) (power : Int) : Nat × Nat :=
  match power with
  | .ofNat up => (value.1 * Nat.pow 10 up, value.2)
  | .negSucc down => (value.1, value.2 * Nat.pow 10 (down + 1))

/-- A whole number in decimal digits. -/
def digits (n : Nat) : List Char :=
  Nat.toDigits 10 n

/-- At least `width` digits, filled up with zeros from the left. -/
def paddedDigits (width n : Nat) : List Char :=
  let written := digits n
  List.replicate (width - written.length) '0' ++ written

end Decimal
end Brokerage
