import Brokerage.Performance.Sum

namespace Brokerage
namespace Performance

/-!
What an equity curve tells.

The curve is the list of the equities of an account, one per event.  A value
that is undefined is skipped where the peak and the worst loss are looked for,
and stays undefined in its own place.
-/

variable {α : Type} [Quantity α]

/-- The last equity over the first one; none for a curve of fewer than two points. -/
def growth? (curve : List α) : Option α :=
  match curve with
  | first :: second :: rest => some ((second :: rest).getLastD second / first)
  | _ => none

/-- Return from the first to the last point. -/
def totalReturn (curve : List α) : α :=
  match growth? curve with
  | some growth => growth - 1
  | none => 0

/-- Yearly growth with the same total return; a curve that ends at or below zero has lost all. -/
def yearlyGrowth [Roots α] (curve : List α) (periodsPerYear : Int) : α :=
  match growth? curve with
  | none => 0
  | some growth =>
      if growth ≤ 0 then -1
      else
        let periods : Int := (curve.length : Int) - 1
        Roots.pow growth (Quantity.ofInt periodsPerYear / Quantity.ofInt periods) - 1

/-- The loss of every point against the highest point so far, as a share of that. -/
def drawdownsFrom (peak : Option α) : List α -> List α
  | [] => []
  | value :: rest =>
      if Quantity.isUndefined value then (value / value - 1) :: drawdownsFrom peak rest
      else
        let top :=
          match peak with
          | some peak => Quantity.greatest peak value
          | none => value
        (value / top - 1) :: drawdownsFrom (some top) rest

def drawdowns (curve : List α) : List α :=
  drawdownsFrom none curve

/-- The smallest of the values that are defined. -/
def smallest? (values : List α) : Option α :=
  match values.filter fun value => !Quantity.isUndefined value with
  | [] => none
  | first :: rest => some (rest.foldl Quantity.least first)

/-- The worst loss against an earlier peak; an empty curve has lost nothing. -/
def maxDrawdown? (curve : List α) : Option α :=
  match curve with
  | [] => some 0
  | _ => smallest? (drawdowns curve)

/-- Undefined values are replaced by the last one that is defined. -/
def carriedForward (last : Option α) : List α -> List α
  | [] => []
  | value :: rest =>
      if Quantity.isUndefined value then last.getD value :: carriedForward last rest
      else value :: carriedForward (some value) rest

/-- The returns from each point to the next one that are defined. -/
def returns (curve : List α) : List α :=
  let filled := carriedForward none curve
  ((filled.zip filled.tail).map fun pair => pair.2 / pair.1 - 1).filter fun value =>
    !Quantity.isUndefined value

end Performance
end Brokerage
