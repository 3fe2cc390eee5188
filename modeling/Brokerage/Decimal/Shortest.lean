import Brokerage.Decimal.Layout

namespace Brokerage
namespace Decimal

/-!
The shortest decimal text that reads back as the same number.

For one, two, … seventeen digits the two neighbours of the number on the
decimal grid of that many digits are tested against the interval of reals that
round to it.  The first grid with a hit wins, and of two hits the nearer one.
-/

/-- The order of two fractions, decided without division. -/
def fractionLe (left right : Nat × Nat) : Bool :=
  decide (left.1 * right.2 ≤ right.1 * left.2)

def fractionLt (left right : Nat × Nat) : Bool :=
  decide (left.1 * right.2 < right.1 * left.2)

/--
Whether a fraction reads back as the number: it lies in the number's
neighbourhood, whose ends count when the mantissa is even.
-/
def readsBack (value : Binary) (candidate : Nat × Nat) : Bool :=
  let ends := value.neighbourhood
  if value.mantissa % 2 = 0 then
    fractionLe ends.1.fraction candidate && fractionLe candidate ends.2.fraction
  else
    fractionLt ends.1.fraction candidate && fractionLt candidate ends.2.fraction

/--
The multiple of `10 ^ power` that reads back as the number and is nearest to
it, counted in that unit; none when neither neighbour reads back.
-/
def onGrid? (value : Binary) (power : Int) : Option Nat :=
  let scaled := scaleByTen value.fraction (-power)
  let lower := scaled.1 / scaled.2
  let unit (count : Nat) := scaleByTen (count, 1) power
  let nearest := roundDiv scaled.1 scaled.2
  let other := if nearest = lower then lower + 1 else lower
  if readsBack value (unit nearest) then some nearest
  else if readsBack value (unit other) then some other
  else none

/-- Try grids of growing fineness; seventeen digits always suffice. -/
def search (value : Binary) (point : Int) : (count left : Nat) -> Nat × Int
  | count, 0 =>
      let scaled := scaleByTen value.fraction (count - point)
      (roundDiv scaled.1 scaled.2, point - count)
  | count, left + 1 =>
      match onGrid? value (point - count) with
      | some found => (found, point - count)
      | none => search value point (count + 1) left

/-- The shortest digits of a positive number. -/
def shortest (value : Binary) : Significant :=
  let fraction := value.fraction
  let found := search value (pointPosition fraction.1 fraction.2) 1 16
  let written := digits found.1
  { digits := stripZeros written, point := found.2 + written.length }

/-- Exact numbers: positional below `1e16`, always with a fraction or an exponent. -/
def exactLayout : Layout where
  positionalBelow := 16
  keepsFraction := true

/-- The text of a number in the fewest digits that read back. -/
def text (x : Float) : String :=
  match read x with
  | .undefined => "nan"
  | .infinite negative => signed negative "inf".toList
  | .finite negative value =>
      signed negative
        (if value.mantissa = 0 then exactLayout.zero else exactLayout.write (shortest value))

end Decimal
end Brokerage
