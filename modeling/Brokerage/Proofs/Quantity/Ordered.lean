import Brokerage.Quantity
import Mathlib.Algebra.Order.Ring.Rat

namespace Brokerage

/-!
Numbers that are ordered as far as they are numbers at all.

The matching of orders compares prices and does little more.  What it promises
rests on a few laws of the comparisons, which the rationals have, and the
double-precision numbers too unless they are undefined.
-/

namespace Quantity

/-- A number type whose defined numbers are ordered by its comparisons. -/
class Ordered (α : Type) [Quantity α] : Prop where
  lt_iff {x y : α} : x < y <-> x ≤ y ∧ ¬ y ≤ x
  le_trans {x y z : α} (first : x ≤ y) (second : y ≤ z) : x ≤ z
  le_total {x y : α} (left : isUndefined x = false) (right : isUndefined y = false) :
    x ≤ y ∨ y ≤ x
  /-- An undefined number is comparable with nothing. -/
  defined {x y : α} (below : x ≤ y) : isUndefined x = false ∧ isUndefined y = false
  zero_defined : isUndefined (0 : α) = false

/-- A number type in which the level that trails a price by a share of it moves with the price. -/
class Trails (α : Type) [Quantity α] : Prop extends Ordered α where
  trail_below {x y distance : α} (positive : 0 < distance) (part : distance < 1) (below : x ≤ y) :
    x * (1 - distance) ≤ y * (1 - distance)
  trail_above {x y distance : α} (positive : 0 < distance) (part : distance < 1) (below : x ≤ y) :
    x * (1 + distance) ≤ y * (1 + distance)

namespace Ordered

variable {α : Type} [Quantity α] [Ordered α] {x y : α}

theorem le_of_lt (below : x < y) : x ≤ y :=
  (lt_iff.mp below).1

theorem le_self (known : isUndefined x = false) : x ≤ x := by
  rcases le_total known known with below | below
  · exact below
  · exact below

theorem le_of_not_lt (left : isUndefined x = false) (right : isUndefined y = false)
    (above : ¬ y < x) : x ≤ y := by
  rcases le_total left right with below | wrong
  · exact below
  · by_cases below : x ≤ y
    · exact below
    · exact absurd (lt_iff.mpr ⟨wrong, below⟩) above

theorem lt_of_not_le (left : isUndefined x = false) (right : isUndefined y = false)
    (above : ¬ y ≤ x) : x < y := by
  apply lt_iff.mpr
  rcases le_total left right with below | wrong
  · exact ⟨below, above⟩
  · exact absurd wrong above

/-- The smaller of two numbers is no more than the first one, whatever the second one is. -/
theorem least_le_left (known : isUndefined x = false) : least x y ≤ x := by
  unfold least
  split
  · rename_i below
    exact le_of_lt below
  · exact le_self known

theorem le_greatest_left (known : isUndefined x = false) : x ≤ greatest x y := by
  unfold greatest
  split
  · rename_i above
    exact le_of_lt above
  · exact le_self known

theorem least_le_right (left : isUndefined x = false) (right : isUndefined y = false) :
    least x y ≤ y := by
  unfold least
  split
  · exact le_self right
  · rename_i above
    exact le_of_not_lt left right above

theorem le_greatest_right (left : isUndefined x = false) (right : isUndefined y = false) :
    y ≤ greatest x y := by
  unfold greatest
  split
  · exact le_self right
  · rename_i below
    exact le_of_not_lt right left below

end Ordered

theorem isUndefined_rat (x : Rat) : isUndefined x = false := by
  unfold isUndefined
  rw [beq_self_eq_true]
  rfl

instance : Trails Rat where
  lt_iff := lt_iff_le_not_ge
  le_trans first second := le_trans first second
  le_total _ _ := le_total _ _
  defined _ := ⟨isUndefined_rat _, isUndefined_rat _⟩
  zero_defined := isUndefined_rat 0
  trail_below _ part below := by
    apply mul_le_mul_of_nonneg_right below
    exact sub_nonneg.mpr (le_of_lt part)
  trail_above positive _ below := by
    apply mul_le_mul_of_nonneg_right below
    exact add_nonneg zero_le_one (le_of_lt positive)

end Quantity
end Brokerage
