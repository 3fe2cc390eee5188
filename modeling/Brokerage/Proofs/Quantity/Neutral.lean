import Brokerage.Proofs.Quantity.Scaling

namespace Brokerage

/-!
Numbers that change nothing.

A product with one, and a quotient by one, has the digits of the other number
and zeros behind them, so rounding takes away nothing but the zeros.  Zero is
neutral too, apart from the two zeros themselves.  The results are the numbers
themselves, and not only numbers that equal them: the undefined number, which
equals nothing, comes back as well.
-/

namespace Quantity

/-- A number type in which zero and one are neutral, and are two numbers. -/
class Neutral (α : Type) [Quantity α] : Prop where
  zero_lt_one : (0 : α) < 1
  mul_one (x : α) : x * 1 = x
  div_one (x : α) : x / 1 = x
  sub_zero (x : α) : x - 0 = x
  /-- Of two zeros the sum may be the other one. -/
  add_zero {x : α} (nonzero : ¬ x ≤ 0) : x + 0 = x
  zero_add {x : α} (nonzero : ¬ x ≤ 0) : 0 + x = x

instance : Neutral Rat where
  zero_lt_one := one_pos
  mul_one := Rat.mul_one
  div_one := div_one
  sub_zero := sub_zero
  add_zero _ := Rat.add_zero _
  zero_add _ := Rat.zero_add _

end Quantity

namespace Binary64

open Float.Model
open Float.Model.UnpackedFloat (Sign Accuracy)

theorem pack_unpack (model : Float.Model) : Float.Model.pack model.unpack = model := by
  rcases model with ⟨bits, valid⟩
  unfold Float.Model.pack Float.Model.unpack
  congr 1
  exact congrArg UInt64.ofBitVec (UnpackedFloat.pack_unpack_of_valid valid)

section Written

variable {mantissa : Nat} {exponent : Int} (written : Written mantissa exponent)
include written

/-- A number is written with its own exponent, whatever zeros stand behind its mantissa. -/
theorem Written.exponentOf_shifted (zeros : Nat) :
    exponentOf (mantissa * 2 ^ zeros) (exponent - zeros) = exponent := by
  have small := (Nat.log2_lt (Nat.ne_of_gt written.positive)).mpr written.small
  have least := written.least
  have full : -1074 < exponent -> 52 ≤ mantissa.log2 := fun normal =>
    (Nat.le_log2 (Nat.ne_of_gt written.positive)).mpr (written.full normal)
  unfold exponentOf
  rw [log2_mul_two_pow written.positive]
  omega

/-- Rounding takes the zeros behind a number away, and nothing else. -/
theorem Written.round_shifted (sign : Sign) (zeros : Nat) :
    UnpackedFloat.roundWithAccuracy Format.binary64 sign (mantissa * 2 ^ zeros) (exponent - zeros)
      .exact = .finite sign mantissa exponent written.positive := by
  have target := written.exponentOf_shifted zeros
  have digits : dropped (mantissa * 2 ^ zeros) (exponent - zeros) = zeros := by
    unfold dropped
    omega
  have kept : rounded (mantissa * 2 ^ zeros) zeros = mantissa := by
    have shifted := rounded_shifted mantissa 0 zeros
    rw [Nat.zero_add] at shifted
    rw [shifted, rounded, pow_zero, Nat.mod_one, Nat.div_one]
    rfl
  have small := written.small
  rw [roundWithAccuracy_eq sign (by omega), dif_neg, if_neg]
  · simp only [digits, kept, target]
  · rw [digits, kept]
    exact Nat.ne_of_lt small
  · rw [digits, kept]
    exact Nat.ne_of_gt written.positive

/-- A quotient by one has the digits of the number, and zeros behind them. -/
theorem Written.exists_divCore_one :
    Exists fun zeros : Nat =>
      UnpackedFloat.divCore Format.binary64 mantissa exponent (2 ^ 52) (-52) =
        (mantissa * 2 ^ zeros, exponent - zeros, .exact) := by
  have small := (Nat.log2_lt (Nat.ne_of_gt written.positive)).mpr written.small
  have least := written.least
  let target := min (exponent + 52) (Format.binary64.targetExponent
    (totalExponent mantissa exponent - totalExponent (2 ^ 52) (-52)))
  have below : target ≤ exponent := by
    have bits : Format.binary64.mantissaBits = 53 := rfl
    have lowest : Format.binary64.minExponent = -1074 := by decide
    unfold target Format.targetExponent totalExponent
    rw [bits, lowest, Nat.log2_two_pow]
    omega
  let zeros := (exponent - target).toNat
  have digits : (exponent - -52 - target).toNat = zeros + 52 := by omega
  have whole : mantissa <<< (zeros + 52) = mantissa * 2 ^ zeros * 2 ^ 52 := by
    rw [Nat.shiftLeft_eq, pow_add, Nat.mul_assoc]
  refine ⟨zeros, ?_⟩
  change (mantissa <<< (exponent - -52 - target).toNat / 2 ^ 52, target,
    UnpackedFloat.accuracyOfFraction (mantissa <<< (exponent - -52 - target).toNat % 2 ^ 52)
      (2 ^ 52)) = _
  rw [digits, whole, Nat.mul_div_cancel _ (Nat.two_pow_pos 52), Nat.mul_mod_left,
    UnpackedFloat.accuracyOfFraction, if_pos rfl, Prod.mk.injEq, Prod.mk.injEq]
  exact ⟨rfl, by omega, rfl⟩

end Written

section Canonical

variable {number : UnpackedFloat} (form : Canonical number)
include form

theorem mul_one_of_canonical :
    UnpackedFloat.mul Format.binary64 number
      (.finite .positive (2 ^ 52) (-52) (Nat.two_pow_pos 52)) = number := by
  cases form with
  | notANumber => rfl
  | infinity sign => rw [UnpackedFloat.mul, sign_mul_positive]
  | zero sign => rw [UnpackedFloat.mul, sign_mul_positive]
  | finite sign written _ =>
      rw [UnpackedFloat.mul, sign_mul_positive]
      exact written.round_shifted sign 52

theorem div_one_of_canonical :
    UnpackedFloat.div Format.binary64 number
      (.finite .positive (2 ^ 52) (-52) (Nat.two_pow_pos 52)) = number := by
  cases form with
  | notANumber => rfl
  | infinity sign => cases sign <;> rfl
  | zero sign => cases sign <;> rfl
  | @finite sign mantissa exponent written _ =>
      have same : sign / .positive = sign := by cases sign <;> rfl
      rcases written.exists_divCore_one with ⟨zeros, quotient⟩
      rw [UnpackedFloat.div, quotient, same]
      exact written.round_shifted sign zeros

theorem sub_zero_of_canonical :
    UnpackedFloat.sub Format.binary64 number (.zero .positive) = number := by
  cases form with
  | notANumber => rfl
  | infinity sign => rfl
  | zero sign => cases sign <;> rfl
  | finite sign written _ => rfl

/-- A sum with nothing is the number, unless it is a zero. -/
theorem add_zero_of_canonical (nonzero : forall sign, number ≠ .zero sign) :
    UnpackedFloat.add Format.binary64 number (.zero .positive) = number ∧
      UnpackedFloat.add Format.binary64 (.zero .positive) number = number := by
  cases form with
  | notANumber => exact ⟨rfl, rfl⟩
  | infinity sign => exact ⟨rfl, rfl⟩
  | zero sign => exact absurd rfl (nonzero sign)
  | finite sign written _ => exact ⟨rfl, rfl⟩

end Canonical

theorem eq_of_unpack {x : Float} {number : UnpackedFloat}
    (same : number = x.toModel.unpack) : Float.ofModel (Float.Model.pack number) = x := by
  rw [same, pack_unpack]

/-- A number that is not known to be zero or negative is no zero. -/
theorem unpack_ne_zero {x : Float} (nonzero : ¬ x ≤ 0) (sign : Sign) :
    x.toModel.unpack ≠ .zero sign := by
  intro zero
  apply nonzero
  rw [le_iff_place, isUndefined_eq, placeAt, zero]
  cases sign <;> exact ⟨⟨rfl, rfl⟩, le_refl _⟩

end Binary64

namespace Quantity

open Binary64

instance : Neutral Float where
  zero_lt_one := by decide +kernel
  mul_one x := eq_of_unpack (mul_one_of_canonical (canonical_unpack x.toModel))
  div_one x := eq_of_unpack (div_one_of_canonical (canonical_unpack x.toModel))
  sub_zero x := eq_of_unpack (sub_zero_of_canonical (canonical_unpack x.toModel))
  add_zero nonzero :=
    eq_of_unpack (add_zero_of_canonical (canonical_unpack _) (unpack_ne_zero nonzero)).1
  zero_add nonzero :=
    eq_of_unpack (add_zero_of_canonical (canonical_unpack _) (unpack_ne_zero nonzero)).2

end Quantity

/-! ## Factors that are not less than one -/

namespace Binary64

open Float.Model
open Float.Model.UnpackedFloat (Sign)

theorem mul_comm (x y : Float) : x * y = y * x := by
  have signs : forall sign sign' : Sign, sign * sign' = sign' * sign := by
    intro sign sign'
    cases sign <;> cases sign' <;> rfl
  have unpacked : forall left right : UnpackedFloat,
      UnpackedFloat.mul Format.binary64 left right =
        UnpackedFloat.mul Format.binary64 right left := by
    intro left right
    cases left <;> cases right <;>
      simp only [UnpackedFloat.mul, signs, Nat.mul_comm, Int.add_comm]
  exact congrArg (fun number => Float.ofModel (Float.Model.pack number))
    (unpacked x.toModel.unpack y.toModel.unpack)

theorem positive_cases {number : UnpackedFloat} (form : Canonical number)
    (above : 0 < place number) :
    number = .infinity .positive ∨
      Exists fun mantissa => Exists fun exponent =>
        Exists fun written : Written mantissa exponent =>
          number = .finite .positive mantissa exponent written.positive := by
  rcases Int.lt_or_le (place number) endPlace with inner | outer
  · exact Or.inr (exists_finite_of_place form above inner)
  · cases form with
    | notANumber => exact absurd above (lt_irrefl 0)
    | zero sign => exact absurd above (lt_irrefl 0)
    | infinity sign =>
        cases sign with
        | negative => exact absurd above (by decide)
        | positive => exact Or.inl rfl
    | finite sign written greatest =>
        exact absurd (place_finite_bounds written greatest sign).2 (not_lt.mpr outer)

/-- A positive number stays positive under a factor that is at least one. -/
theorem pos_mul_of_one_le {x y : Float} (positive : 0 < x) (large : 1 ≤ y) : 0 < x * y := by
  rcases lt_iff_place.mp positive with ⟨⟨zero_known, -⟩, above⟩
  rcases positive_cases (canonical_unpack x.toModel) above with
    infinite | ⟨mantissa, exponent, written, form⟩
  · have one : (0 : Int) < placeAt 1 := by decide +kernel
    have factor : 0 < place y.toModel.unpack := lt_of_lt_of_le one (le_iff_place.mp large).2
    have product : (x * y).toModel.unpack = .infinity .positive := by
      change (Float.Model.pack (UnpackedFloat.mul Format.binary64 x.toModel.unpack
        y.toModel.unpack)).unpack = _
      rcases positive_cases (canonical_unpack y.toModel) factor with same | ⟨_, _, _, same⟩
      · rw [infinite, same, UnpackedFloat.mul]
        rfl
      · rw [infinite, same, UnpackedFloat.mul]
        rfl
    rw [lt_iff_place, isUndefined_eq (x * y), placeAt, placeAt, product]
    exact ⟨⟨zero_known, rfl⟩, by decide⟩
  · have below := mul_le_mul_right written form large
    have whole : x * 1 = x := Quantity.Neutral.mul_one x
    rw [mul_comm 1, mul_comm y, whole] at below
    rcases le_iff_place.mp below with ⟨⟨-, known⟩, places⟩
    exact lt_iff_place.mpr ⟨⟨zero_known, known⟩, lt_of_lt_of_le above places⟩

end Binary64
end Brokerage
