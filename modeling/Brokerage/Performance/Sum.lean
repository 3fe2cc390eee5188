import Brokerage.Quantity

namespace Brokerage
namespace Performance

/-!
Sums of many numbers.

Fewer than eight numbers are added from the left.  Up to one hundred and
twenty-eight are dealt out to eight running totals, which are then added in
pairs; what does not fill a round comes last.  More numbers are halved, at a
multiple of eight, and the halves summed by themselves.  In exact arithmetic
all of this is the plain sum.
-/

variable {α : Type} [Quantity α]

/-- Add numbers to a total from the left. -/
def addFrom (total : α) (xs : List α) : α :=
  xs.foldl (fun total x => total + x) total

/-- Eight running totals. -/
structure Lanes (α : Type) where
  first : α
  second : α
  third : α
  fourth : α
  fifth : α
  sixth : α
  seventh : α
  eighth : α

/-- Deal numbers out to the running totals; what is left over after the last full round. -/
def Lanes.deal (lanes : Lanes α) : List α -> Lanes α × List α
  | a :: b :: c :: d :: e :: f :: g :: h :: rest =>
      Lanes.deal
        { first := lanes.first + a
          second := lanes.second + b
          third := lanes.third + c
          fourth := lanes.fourth + d
          fifth := lanes.fifth + e
          sixth := lanes.sixth + f
          seventh := lanes.seventh + g
          eighth := lanes.eighth + h } rest
  | rest => (lanes, rest)

/-- The running totals, added in pairs. -/
def Lanes.total (lanes : Lanes α) : α :=
  ((lanes.first + lanes.second) + (lanes.third + lanes.fourth)) +
    ((lanes.fifth + lanes.sixth) + (lanes.seventh + lanes.eighth))

/-- The sum of a block of numbers. -/
def blockSum : List α -> α
  | a :: b :: c :: d :: e :: f :: g :: h :: rest =>
      let dealt := Lanes.deal ⟨a, b, c, d, e, f, g, h⟩ rest
      addFrom dealt.1.total dealt.2
  | few => addFrom 0 few

/-- The sum of a list of numbers. -/
def sum (xs : List α) : α :=
  if xs.length ≤ 128 then blockSum xs
  else
    let half := xs.length / 2 - xs.length / 2 % 8
    sum (xs.take half) + sum (xs.drop half)
termination_by xs.length
decreasing_by
  all_goals
    simp only [List.length_take, List.length_drop]
    omega

end Performance
end Brokerage
