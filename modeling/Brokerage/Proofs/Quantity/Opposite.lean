import Brokerage.Broker.Admission
import Brokerage.Proofs.Quantity.Binary64
import Mathlib.Algebra.Order.Ring.Rat

namespace Brokerage

/-!
Numbers that cancel their opposites.

A holding is closed by an order of the opposite size.  That the order is sound,
that it counts as adding nothing, and that it leaves nothing behind are facts of
the arithmetic.  They hold of the rationals, and of the finite
double-precision numbers because a change of the sign is exact there and the
sum of two opposite numbers is zero before anything is rounded.
-/

open Quantity Broker

/-- The distance of an exact number from zero is its absolute value. -/
theorem Quantity.abs_eq (x : Rat) : Quantity.abs x = |x| := by
  change (if x < 0 then -x else x) = |x|
  split
  · rename_i negative
    exact (abs_of_neg negative).symm
  · rename_i least
    exact (abs_of_nonneg (not_lt.mp least)).symm

/-- A number type in which a finite number and its opposite cancel each other. -/
class Opposites (α : Type) [Quantity α] : Prop where
  zero_beq : ((0 : α) == 0) = true
  isFinite_neg {size : α} (finite : isFinite size = true) : isFinite (-size) = true
  neg_beq_zero {size : α} (finite : isFinite size = true) : (-size == 0) = (size == 0)
  add_neg {size : α} (finite : isFinite size = true) : (size + -size == 0) = true
  addedUnits_neg {size : α} (finite : isFinite size = true) :
    (addedUnits size (-size) == 0) = true

instance : Opposites Rat where
  zero_beq := rfl
  isFinite_neg _ := rfl
  neg_beq_zero {size} _ := by
    apply Bool.eq_iff_iff.mpr
    rw [beq_iff_eq, beq_iff_eq]
    exact neg_eq_zero
  add_neg {size} _ := by
    apply beq_iff_eq.mpr
    exact add_neg_cancel size
  addedUnits_neg {size} _ := by
    apply beq_iff_eq.mpr
    unfold addedUnits
    rw [add_neg_cancel]
    have nothing : Quantity.abs (0 : Rat) = 0 := rfl
    have size_nonneg : (0 : Rat) ≤ Quantity.abs size :=
      Quantity.abs_eq size ▸ abs_nonneg size
    rw [nothing, greatest, if_neg]
    rw [zero_sub]
    exact not_lt.mpr (neg_nonpos.mpr size_nonneg)

namespace Binary64

theorem unpack_zero : (0 : Float).toModel.unpack = .zero .positive := rfl

end Binary64

instance : Opposites Float where
  zero_beq := by decide +kernel
  isFinite_neg finite := Binary64.isFinite_neg finite
  neg_beq_zero finite := Binary64.beq_zero_neg finite Binary64.unpack_zero
  add_neg {size} finite := by
    have nothing : (size + -size).toModel.unpack = .zero .positive :=
      Binary64.unpack_add_neg finite
    change (size + -size).toModel.unpack.beq (0 : Float).toModel.unpack = true
    rw [nothing, Binary64.unpack_zero]
    rfl
  addedUnits_neg {size} finite := by
    have nothing : (size + -size).toModel.unpack = .zero .positive :=
      Binary64.unpack_add_neg finite
    have below : ¬ (0 : Float) < Quantity.abs (size + -size) - Quantity.abs size := by
      intro above
      have claimed : Float.Model.lt (0 : Float).toModel
          ((size + -size).toModel.abs.sub size.toModel.abs) = true := of_decide_eq_true above
      rw [Binary64.not_lt_sub_abs finite Binary64.unpack_zero nothing] at claimed
      cases claimed
    have none : addedUnits size (-size) = 0 := if_neg below
    rw [none]
    decide +kernel

end Brokerage
