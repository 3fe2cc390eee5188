import Brokerage.Proofs.Quantity.Binary64
import Brokerage.Proofs.Quantity.Ordered

namespace Brokerage
namespace Binary64

open Float.Model
open Float.Model.UnpackedFloat (Sign unpackExponent)

/-!
The places of the double-precision numbers.

In the memory the defined numbers of one sign stand in a row, from zero to
infinity, and an exponent goes up where a mantissa is exhausted.  The place of
a number in that row, counted below zero for the negative numbers, is an
integer, and two numbers compare as their places do.
-/

/-- A mantissa and an exponent as the memory has them: the mantissa is full unless the exponent is
the least one. -/
structure Written (mantissa : Nat) (exponent : Int) : Prop where
  positive : 0 < mantissa
  small : mantissa < 2 ^ 53
  least : -1074 ≤ exponent
  full : -1074 < exponent -> 2 ^ 52 ≤ mantissa

/-- A number as it is read from the memory. -/
inductive Canonical : UnpackedFloat -> Prop where
  | notANumber : Canonical .notANumber
  | infinity (sign : Sign) : Canonical (.infinity sign)
  | zero (sign : Sign) : Canonical (.zero sign)
  | finite (sign : Sign) {mantissa : Nat} {exponent : Int} (written : Written mantissa exponent)
      (greatest : exponent ≤ 971) : Canonical (.finite sign mantissa exponent written.positive)

theorem canonical_ofFields (sign : Sign) {exponent : BitVec 11} (mantissa : BitVec 52)
    (special : exponent ≠ -1#11) : Canonical (ofFields sign exponent mantissa) := by
  have bits : mantissa.toNat < 2 ^ 52 := mantissa.isLt
  have fields : exponent.toNat < 2047 := by
    have bound : exponent.toNat < 2048 := exponent.isLt
    have other : exponent.toNat ≠ 2047 := by
      intro same
      apply special
      apply BitVec.eq_of_toNat_eq
      exact same
    omega
  unfold ofFields
  split
  · rename_i least
    have none : exponent.toNat = 0 := congrArg BitVec.toNat least
    split
    · exact .zero sign
    · rename_i nonzero
      have positive : 0 < mantissa.toNat := by simpa [BitVec.toNat_pos, BitVec.pos_iff_ne_zero]
      refine Canonical.finite sign ⟨positive, ?_, ?_, ?_⟩ ?_ <;> omega
  · rename_i normal
    have positive : exponent.toNat ≠ 0 := by
      intro none
      apply normal
      apply BitVec.eq_of_toNat_eq
      exact none
    have implicit := toNat_implicit mantissa
    refine Canonical.finite sign ⟨?_, ?_, ?_, ?_⟩ ?_ <;> omega

theorem canonical_unpack (model : Float.Model) : Canonical model.unpack := by
  by_cases special : @unpackExponent Format.binary64 model.toBits.toBitVec = -1#11
  · unfold Float.Model.unpack UnpackedFloat.unpack
    dsimp only
    rw [if_pos special]
    split
    · exact .infinity _
    · exact .notANumber
  · have same : model.unpack = _ := unpack_eq_ofFields special
    rw [same]
    exact canonical_ofFields _ _ special

/-- The place of a positive number with a mantissa and an exponent. -/
def placeOf (mantissa : Nat) (exponent : Int) : Int :=
  (exponent + 1074) * 2 ^ 52 + mantissa

/-- The place behind the last finite number. -/
def endPlace : Int :=
  2047 * 2 ^ 52

/-- The place of a number; nothing is said of what is not a number. -/
def place : UnpackedFloat -> Int
  | .notANumber => 0
  | .infinity sign => sign.apply endPlace
  | .zero _ => 0
  | .finite sign mantissa exponent _ => sign.apply (placeOf mantissa exponent)

namespace Written

variable {mantissa other : Nat} {exponent exponent' : Int}

theorem placeOf_pos (written : Written mantissa exponent) : 0 < placeOf mantissa exponent := by
  have positive := written.positive
  have least := written.least
  unfold placeOf
  omega

theorem placeOf_lt_endPlace (written : Written mantissa exponent) (greatest : exponent ≤ 971) :
    placeOf mantissa exponent < endPlace := by
  have small := written.small
  unfold placeOf endPlace
  omega

/-- The places go up with the exponents. -/
theorem placeOf_lt (left : Written mantissa exponent) (right : Written other exponent')
    (below : exponent < exponent') : placeOf mantissa exponent < placeOf other exponent' := by
  have small := left.small
  have least := left.least
  have full := right.full (by omega)
  unfold placeOf
  omega

/-- The exponents are compared first. -/
theorem compare_placeOf (left : Written mantissa exponent) (right : Written other exponent') :
    (compare exponent exponent').then (compare mantissa other) =
      compare (placeOf mantissa exponent) (placeOf other exponent') := by
  rcases lt_trichotomy exponent exponent' with below | same | above
  · rw [compare_lt_iff_lt.mpr below, compare_lt_iff_lt.mpr (left.placeOf_lt right below)]
    rfl
  · subst same
    rw [compare_eq_iff_eq.mpr rfl, Ordering.eq_then]
    unfold placeOf
    rcases lt_trichotomy mantissa other with below | same | above
    · rw [compare_lt_iff_lt.mpr below]
      symm
      apply compare_lt_iff_lt.mpr
      omega
    · rw [same, compare_eq_iff_eq.mpr rfl]
      symm
      exact compare_eq_iff_eq.mpr rfl
    · rw [compare_gt_iff_gt.mpr above]
      symm
      apply compare_gt_iff_gt.mpr
      omega
  · rw [compare_gt_iff_gt.mpr above, compare_gt_iff_gt.mpr (right.placeOf_lt left above)]
    rfl

end Written

theorem eq_compare_of_lt {left right : Int} (below : left < right) :
    some Ordering.lt = some (compare left right) :=
  congrArg some (compare_lt_iff_lt.mpr below).symm

theorem eq_compare_of_gt {left right : Int} (above : right < left) :
    some Ordering.gt = some (compare left right) :=
  congrArg some (compare_gt_iff_gt.mpr above).symm

theorem swap_compare (left right : Int) :
    (compare left right).swap = compare (-left) (-right) := by
  rcases lt_trichotomy left right with below | same | above
  · rw [compare_lt_iff_lt.mpr below, compare_gt_iff_gt.mpr (Int.neg_lt_neg below)]
    rfl
  · rw [compare_eq_iff_eq.mpr same, compare_eq_iff_eq.mpr (congrArg Neg.neg same)]
    rfl
  · rw [compare_gt_iff_gt.mpr above, compare_lt_iff_lt.mpr (Int.neg_lt_neg above)]
    rfl

/-- A finite number is between the infinite ones. -/
theorem place_finite_bounds {mantissa : Nat} {exponent : Int} (written : Written mantissa exponent)
    (greatest : exponent ≤ 971) (sign : Sign) :
    -endPlace < place (.finite sign mantissa exponent written.positive) ∧
      place (.finite sign mantissa exponent written.positive) < endPlace := by
  have positive := written.placeOf_pos
  have inner := written.placeOf_lt_endPlace greatest
  cases sign <;> simp only [place, Sign.apply] <;> omega

section Compare

variable {right : UnpackedFloat} (second : Canonical right) (known : right.isNaN = false)
include second known

theorem compare_infinity (sign : Sign) : (UnpackedFloat.infinity sign).compare right =
    some (compare (place (.infinity sign)) (place right)) := by
  cases second with
  | notANumber => cases known
  | infinity other => cases sign <;> cases other <;> rfl
  | zero other => cases sign <;> rfl
  | finite other written greatest =>
      rcases place_finite_bounds written greatest other with ⟨above, below⟩
      cases sign with
      | negative => exact eq_compare_of_lt above
      | positive => exact eq_compare_of_gt below

theorem compare_zero (sign : Sign) : (UnpackedFloat.zero sign).compare right =
    some (compare (place (.zero sign)) (place right)) := by
  cases second with
  | notANumber => cases known
  | infinity other => cases other <;> rfl
  | zero other => rfl
  | finite other written _ =>
      have positive := written.placeOf_pos
      cases other with
      | negative => exact eq_compare_of_gt (Int.neg_neg_of_pos positive)
      | positive => exact eq_compare_of_lt positive

theorem compare_finite {mantissa : Nat} {exponent : Int} (sign : Sign)
    (written : Written mantissa exponent) (greatest : exponent ≤ 971) :
    (UnpackedFloat.finite sign mantissa exponent written.positive).compare right =
      some (compare (place (.finite sign mantissa exponent written.positive)) (place right)) := by
  have positive := written.placeOf_pos
  cases second with
  | notANumber => cases known
  | infinity other =>
      have bounds := place_finite_bounds written greatest sign
      cases other with
      | negative => exact eq_compare_of_gt bounds.1
      | positive => exact eq_compare_of_lt bounds.2
  | zero other =>
      cases sign with
      | negative => exact eq_compare_of_lt (Int.neg_neg_of_pos positive)
      | positive => exact eq_compare_of_gt positive
  | finite other written' _ =>
      have positive' := written'.placeOf_pos
      have lexical := written.compare_placeOf written'
      cases sign with
      | negative =>
          cases other with
          | negative =>
              rw [UnpackedFloat.compare, lexical, swap_compare]
              rfl
          | positive =>
              exact eq_compare_of_lt (Int.lt_trans (Int.neg_neg_of_pos positive) positive')
      | positive =>
          cases other with
          | negative =>
              exact eq_compare_of_gt (Int.lt_trans (Int.neg_neg_of_pos positive') positive)
          | positive => exact congrArg some lexical

end Compare

/-- Defined numbers compare as their places do. -/
theorem compare_eq {left right : UnpackedFloat} (first : Canonical left) (second : Canonical right)
    (known : left.isNaN = false) (known' : right.isNaN = false) :
    left.compare right = some (compare (place left) (place right)) := by
  cases first with
  | notANumber => cases known
  | infinity sign => exact compare_infinity second known' sign
  | zero sign => exact compare_zero second known' sign
  | finite sign written greatest => exact compare_finite second known' sign written greatest

theorem compare_of_isNaN {left right : UnpackedFloat}
    (undefined : left.isNaN = true ∨ right.isNaN = true) : left.compare right = none := by
  cases left <;> cases right <;> simp_all [UnpackedFloat.compare, UnpackedFloat.isNaN]

/-- The place of a double-precision number. -/
def placeAt (x : Float) : Int :=
  place x.toModel.unpack

variable {x y : Float}

theorem le_iff : x ≤ y <-> x.toModel.unpack.le y.toModel.unpack = true :=
  decide_eq_true_iff

theorem lt_iff : x < y <-> x.toModel.unpack.lt y.toModel.unpack = true :=
  decide_eq_true_iff

theorem le_of_beq (same : (x == y) = true) : x ≤ y := by
  have equal : x.toModel.unpack.beq y.toModel.unpack = true := same
  unfold UnpackedFloat.beq at equal
  rw [beq_iff_eq] at equal
  rw [le_iff, UnpackedFloat.le, equal]
  rfl

/-- A number that equals itself is defined. -/
theorem isUndefined_eq (x : Float) : Quantity.isUndefined x = x.toModel.unpack.isNaN := by
  have same : (x == x) = x.toModel.unpack.beq x.toModel.unpack := rfl
  unfold Quantity.isUndefined
  rw [same, UnpackedFloat.beq]
  have form := canonical_unpack x.toModel
  cases undefined : x.toModel.unpack.isNaN with
  | true =>
      rw [compare_of_isNaN (Or.inl undefined)]
      rfl
  | false =>
      rw [compare_eq form form undefined undefined, compare_eq_iff_eq.mpr rfl]
      rfl

theorem le_iff_place : x ≤ y <->
    (Quantity.isUndefined x = false ∧ Quantity.isUndefined y = false) ∧ placeAt x ≤ placeAt y := by
  rw [le_iff, UnpackedFloat.le, isUndefined_eq, isUndefined_eq]
  cases left : x.toModel.unpack.isNaN with
  | true => simp [compare_of_isNaN (Or.inl left)]
  | false =>
      cases right : y.toModel.unpack.isNaN with
      | true => simp [compare_of_isNaN (Or.inr right)]
      | false =>
          rw [compare_eq (canonical_unpack _) (canonical_unpack _) left right, Option.any_some]
          simp only [and_self, true_and]
          exact Std.isLE_compare

theorem lt_iff_place : x < y <->
    (Quantity.isUndefined x = false ∧ Quantity.isUndefined y = false) ∧ placeAt x < placeAt y := by
  rw [lt_iff, UnpackedFloat.lt, isUndefined_eq, isUndefined_eq]
  cases left : x.toModel.unpack.isNaN with
  | true => simp [compare_of_isNaN (Or.inl left)]
  | false =>
      cases right : y.toModel.unpack.isNaN with
      | true => simp [compare_of_isNaN (Or.inr right)]
      | false =>
          rw [compare_eq (canonical_unpack _) (canonical_unpack _) left right, beq_iff_eq,
            Option.some.injEq]
          simp only [and_self, true_and]
          exact compare_lt_iff_lt

end Binary64

namespace Quantity

open Binary64

instance : Ordered Float where
  lt_iff := by
    intro x y
    rw [lt_iff_place, le_iff_place, le_iff_place]
    constructor
    · rintro ⟨known, below⟩
      refine ⟨⟨known, le_of_lt below⟩, ?_⟩
      rintro ⟨_, above⟩
      omega
    · rintro ⟨⟨known, _⟩, above⟩
      refine ⟨known, ?_⟩
      apply not_le.mp
      intro wrong
      exact above ⟨known.symm, wrong⟩
  le_trans := by
    intro x y z first second
    rw [le_iff_place] at first second ⊢
    exact ⟨⟨first.1.1, second.1.2⟩, le_trans first.2 second.2⟩
  le_total := by
    intro x y left right
    rw [le_iff_place, le_iff_place]
    rcases le_total (placeAt x) (placeAt y) with below | above
    · exact Or.inl ⟨⟨left, right⟩, below⟩
    · exact Or.inr ⟨⟨right, left⟩, above⟩
  defined := by
    intro x y below
    exact (le_iff_place.mp below).1
  zero_defined := by
    rw [isUndefined_eq]
    rfl

end Quantity
end Brokerage
