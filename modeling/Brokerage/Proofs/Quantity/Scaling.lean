import Brokerage.Proofs.Quantity.Rounding

namespace Brokerage
namespace Binary64

open Float.Model
open Float.Model.UnpackedFloat (Sign Accuracy ExtendedMantissa)

/-!
Multiplying by a positive number keeps the order of the numbers.

The product has the sign of what is multiplied, and its place is that of a
rounded number.  The level that trails a price at a share of it therefore
follows the price: what is left of a share, and what a share adds, are positive
finite factors.
-/

/-! ## Products -/

section Products

variable {factor : Nat} {power : Int}

variable {mantissa other : Nat} {exponent exponent' : Int}

/-- A product has digits enough, unless it ends below the least exponent. -/
theorem Written.fits_mul (left : Written mantissa exponent) (right : Written factor power) :
    exponent + power ≤ exponentOf (mantissa * factor) (exponent + power) := by
  unfold exponentOf
  rcases lt_or_eq_of_le left.least with normal | least
  · have digits : 52 ≤ (mantissa * factor).log2 := by
      apply (Nat.le_log2 (Nat.ne_of_gt (Nat.mul_pos left.positive right.positive))).mpr
      exact le_trans (left.full normal) (Nat.le_mul_of_pos_right mantissa right.positive)
    omega
  · rcases lt_or_eq_of_le right.least with normal | least'
    · have digits : 52 ≤ (mantissa * factor).log2 := by
        apply (Nat.le_log2 (Nat.ne_of_gt (Nat.mul_pos left.positive right.positive))).mpr
        exact le_trans (right.full normal) (Nat.le_mul_of_pos_left factor left.positive)
      omega
    · omega

/-- A number at an earlier place is smaller, on the scale of its own exponent. -/
theorem Written.le_of_placeOf_le (left : Written mantissa exponent)
    (right : Written other exponent') (below : placeOf mantissa exponent ≤ placeOf other exponent') :
    Exists fun shift : Nat => exponent' = exponent + shift ∧ mantissa ≤ other * 2 ^ shift := by
  have ordered : exponent ≤ exponent' := by
    apply not_lt.mp
    intro above
    exact absurd (right.placeOf_lt left above) (not_lt.mpr below)
  refine ⟨(exponent' - exponent).toNat, by omega, ?_⟩
  rcases lt_or_eq_of_le ordered with apart | same
  · have small := left.small
    have least := left.least
    have full := right.full (by omega)
    calc mantissa ≤ other * 2 ^ 1 := by omega
      _ ≤ other * 2 ^ (exponent' - exponent).toNat :=
        Nat.mul_le_mul_left other (Nat.pow_le_pow_right (by decide) (by omega))
  · subst same
    rw [Int.sub_self, Int.toNat_zero, pow_zero, Nat.mul_one]
    unfold placeOf at below
    omega

theorem Written.roundedPlace_mul_mono (left : Written mantissa exponent)
    (right : Written other exponent') (scale : Written factor power)
    (below : placeOf mantissa exponent ≤ placeOf other exponent') :
    roundedPlace (mantissa * factor) (exponent + power) ≤
      roundedPlace (other * factor) (exponent' + power) := by
  rcases left.le_of_placeOf_le right below with ⟨shift, same, smaller⟩
  subst same
  have exponents : exponent + shift + power = exponent + power + shift := by omega
  have fits := left.fits_mul scale
  have fits' := right.fits_mul scale
  rw [exponents] at fits' ⊢
  apply roundedPlace_mono shift _ (Nat.mul_pos right.positive scale.positive) fits fits'
  calc mantissa * factor ≤ other * 2 ^ shift * factor := Nat.mul_le_mul_right factor smaller
    _ = other * factor * 2 ^ shift := Nat.mul_right_comm _ _ _

/-- The place of a number that is not negative, and the place of its product with a factor. -/
inductive Scaled (factor : Nat) (power : Int) : Int -> Int -> Prop where
  | zero : Scaled factor power 0 0
  | finite {mantissa : Nat} {exponent : Int} (written : Written mantissa exponent)
      (greatest : exponent ≤ 971) :
      Scaled factor power (placeOf mantissa exponent)
        (min (roundedPlace (mantissa * factor) (exponent + power)) endPlace)
  | infinity : Scaled factor power endPlace endPlace

theorem Scaled.bounds {before after : Int} (scaled : Scaled factor power before after) :
    0 ≤ before ∧ 0 ≤ after ∧ after ≤ endPlace := by
  have last : 0 < endPlace := by decide
  cases scaled with
  | zero => omega
  | @finite mantissa exponent written _ =>
      have positive := written.placeOf_pos
      have product := roundedPlace_nonneg (mantissa * factor) (exponent + power)
      omega
  | infinity => omega

/-- Products with a factor are in the order of what is multiplied. -/
theorem Scaled.mono {before after before' after' : Int} (scale : Written factor power)
    (first : Scaled factor power before after) (second : Scaled factor power before' after')
    (below : before ≤ before') : after ≤ after' := by
  cases second with
  | infinity => exact first.bounds.2.2
  | zero =>
      cases first with
      | zero => exact le_refl 0
      | finite written _ => exact absurd below (not_le.mpr written.placeOf_pos)
      | infinity => exact absurd below (by decide)
  | finite written' greatest =>
      cases first with
      | zero =>
          have none : Scaled factor power _ _ := .finite written' greatest
          exact none.bounds.2.1
      | finite written _ =>
          apply min_le_min_right
          exact written.roundedPlace_mul_mono written' scale below
      | infinity => exact absurd below (not_le.mpr (written'.placeOf_lt_endPlace greatest))

/-- The same for numbers of either sign, and for zeros with either sign. -/
theorem Scaled.signed_mono {before after before' after' : Int} {sign sign' : Sign}
    (scale : Written factor power) (first : Scaled factor power before after)
    (second : Scaled factor power before' after')
    (below : sign.apply before ≤ sign'.apply before') : sign.apply after ≤ sign'.apply after' := by
  have bounds := first.bounds
  have bounds' := second.bounds
  cases sign with
  | positive =>
      cases sign' with
      | positive => exact first.mono scale second below
      | negative =>
          simp only [Sign.apply] at below ⊢
          have none := first.mono scale .zero (by omega)
          have none' := second.mono scale .zero (by omega)
          omega
  | negative =>
      cases sign' with
      | positive =>
          simp only [Sign.apply]
          omega
      | negative =>
          simp only [Sign.apply] at below ⊢
          have reversed := second.mono scale first (by omega)
          omega

theorem sign_mul_positive (sign : Sign) : sign * .positive = sign := by
  cases sign <;> rfl

theorem unpack_pack_infinity (sign : Sign) :
    (Float.Model.pack (.infinity sign)).unpack = .infinity sign := by
  cases sign <;> rfl

/-- The product of a number with a positive factor has the sign of the number. -/
theorem exists_scaled {number : UnpackedFloat} (form : Canonical number)
    (known : number.isNaN = false) (scale : Written factor power) :
    let product := (Float.Model.pack (UnpackedFloat.mul Format.binary64 number
      (.finite .positive factor power scale.positive))).unpack
    product.isNaN = false ∧
      Exists fun sign : Sign => Exists fun before => Exists fun after =>
        Scaled factor power before after ∧ place number = sign.apply before ∧
          place product = sign.apply after := by
  cases form with
  | notANumber => cases known
  | infinity sign =>
      rw [UnpackedFloat.mul, sign_mul_positive, unpack_pack_infinity]
      exact ⟨rfl, sign, endPlace, endPlace, .infinity, rfl, rfl⟩
  | zero sign =>
      rw [UnpackedFloat.mul, sign_mul_positive, unpack_pack_zero]
      refine ⟨rfl, sign, 0, 0, .zero, ?_, ?_⟩
      · cases sign <;> rfl
      · cases sign <;> rfl
  | finite sign written greatest =>
      have packed := packedAt_round sign (Nat.mul_pos written.positive scale.positive)
        (written.fits_mul scale)
      rw [UnpackedFloat.mul, sign_mul_positive]
      exact ⟨packed.known, sign, _, _, .finite written greatest, rfl, packed.place_eq⟩

/-- The same for double-precision numbers. -/
theorem exists_product {x scale : Float} (written : Written factor power)
    (form : scale.toModel.unpack = .finite .positive factor power written.positive)
    (known : Quantity.isUndefined x = false) :
    Quantity.isUndefined (x * scale) = false ∧
      Exists fun sign : Sign => Exists fun before => Exists fun after =>
        Scaled factor power before after ∧ placeAt x = sign.apply before ∧
          placeAt (x * scale) = sign.apply after := by
  have product : (x * scale).toModel.unpack = _ :=
    congrArg (fun number => (Float.Model.pack
      (UnpackedFloat.mul Format.binary64 x.toModel.unpack number)).unpack) form
  rw [isUndefined_eq] at known ⊢
  unfold placeAt
  rw [product]
  exact exists_scaled (canonical_unpack x.toModel) known written

end Products

/-- Multiplying by a positive finite number keeps the order. -/
theorem mul_le_mul_right {x y scale : Float} {factor : Nat} {power : Int}
    (written : Written factor power)
    (form : scale.toModel.unpack = .finite .positive factor power written.positive)
    (below : x ≤ y) : x * scale ≤ y * scale := by
  rcases le_iff_place.mp below with ⟨⟨knownX, knownY⟩, places⟩
  rcases exists_product written form knownX with
    ⟨definedX, signX, beforeX, afterX, scaledX, placeX, productX⟩
  rcases exists_product written form knownY with
    ⟨definedY, signY, beforeY, afterY, scaledY, placeY, productY⟩
  rw [placeX, placeY] at places
  apply le_iff_place.mpr
  rw [productX, productY]
  exact ⟨⟨definedX, definedY⟩, Scaled.signed_mono written scaledX scaledY places⟩

/-! ## The level that trails a price -/

/-- A share of a price that is more than nothing and less than the whole. -/
theorem exists_share {share : Float} (positive : 0 < share) (part : share < 1) :
    Exists fun mantissa => Exists fun exponent => Exists fun written : Written mantissa exponent =>
      share.toModel.unpack = .finite .positive mantissa exponent written.positive ∧
        exponent ≤ -53 := by
  have zero : placeAt 0 = 0 := rfl
  have one : placeAt 1 = 1023 * 2 ^ 52 := by decide +kernel
  have above := (lt_iff_place.mp positive).2
  have below := (lt_iff_place.mp part).2
  rw [zero] at above
  rw [one] at below
  have inner : placeAt share < endPlace := by
    unfold endPlace
    omega
  rcases exists_finite_of_place (canonical_unpack share.toModel) above inner with
    ⟨mantissa, exponent, written, form⟩
  refine ⟨mantissa, exponent, written, form, ?_⟩
  have place_eq : placeAt share = placeOf mantissa exponent := congrArg place form
  have least := written.least
  have full := written.full
  rw [place_eq] at below
  unfold placeOf at below
  omega

theorem unpack_one : (1 : Float).toModel.unpack =
    .finite .positive (2 ^ 52) (-52) (Nat.two_pow_pos 52) := by
  rfl

theorem normalize_positive {mantissa : Int} (positive : 0 < mantissa) (exponent : Int) :
    UnpackedFloat.normalize Format.binary64 mantissa exponent .positive =
      UnpackedFloat.round Format.binary64 .positive mantissa.toNat exponent := by
  unfold UnpackedFloat.normalize
  rw [compare_gt_iff_gt.mpr positive]

/-- One, and a number, on the scale of the number. -/
theorem decreaseExponent_one {exponent : Int} (small : exponent ≤ -53) :
    UnpackedFloat.decreaseExponent (2 ^ 52) (-52) exponent = (2 ^ (-exponent).toNat, exponent) := by
  have digits : 52 + (-52 - exponent).toNat = (-exponent).toNat := by omega
  unfold UnpackedFloat.decreaseExponent
  dsimp only
  rw [Nat.shiftLeft_eq, ← pow_add, digits, Prod.mk.injEq]
  exact ⟨rfl, by omega⟩

theorem decreaseExponent_self (mantissa : Nat) (exponent : Int) :
    UnpackedFloat.decreaseExponent mantissa exponent exponent = (mantissa, exponent) := by
  unfold UnpackedFloat.decreaseExponent
  dsimp only
  rw [Int.sub_self, Int.toNat_zero, Nat.shiftLeft_zero, Nat.cast_zero, Int.sub_zero]

section Share

variable {share : Float} {mantissa : Nat} {exponent : Int}

/-- A mantissa short of the double of one makes a number of moderate size. -/
theorem moderate_of_lt {mantissa : Nat} (positive : 0 < mantissa) (small : exponent ≤ -53)
    (bound : mantissa < 2 ^ ((-exponent).toNat + 1)) : exponent + mantissa.log2 ≤ 0 := by
  have digits := (Nat.log2_lt (Nat.ne_of_gt positive)).mpr bound
  omega

/-- What a share leaves of the whole is a positive number. -/
theorem exists_rest (positive : 0 < share) (part : share < 1) :
    Exists fun mantissa => Exists fun exponent => Exists fun written : Written mantissa exponent =>
      (1 - share).toModel.unpack = .finite .positive mantissa exponent written.positive := by
  rcases exists_share positive part with ⟨mantissa, exponent, written, form, small⟩
  have long : 2 ^ 53 ≤ 2 ^ (-exponent).toNat := Nat.pow_le_pow_right (by decide) (by omega)
  have short := written.small
  have some : 0 < ((2 ^ (-exponent).toNat : Nat) : Int) - mantissa := by omega
  have difference : (1 - share).toModel.unpack = (Float.Model.pack
      (UnpackedFloat.round Format.binary64 .positive
        (((2 ^ (-exponent).toNat : Nat) : Int) - mantissa).toNat exponent)).unpack := by
    change (Float.Model.pack (UnpackedFloat.sub Format.binary64 (1 : Float).toModel.unpack
      share.toModel.unpack)).unpack = _
    rw [form, unpack_one, UnpackedFloat.sub]
    dsimp only
    rw [min_eq_right (by omega), decreaseExponent_one small, decreaseExponent_self,
      ← normalize_positive some]
    rfl
  rw [difference]
  apply exists_round (by omega) written.least
  apply moderate_of_lt (by omega) small
  rw [pow_succ]
  omega

/-- The whole and a share on top of it are a positive number. -/
theorem exists_sum (positive : 0 < share) (part : share < 1) :
    Exists fun mantissa => Exists fun exponent => Exists fun written : Written mantissa exponent =>
      (1 + share).toModel.unpack = .finite .positive mantissa exponent written.positive := by
  rcases exists_share positive part with ⟨mantissa, exponent, written, form, small⟩
  have long : 2 ^ 53 ≤ 2 ^ (-exponent).toNat := Nat.pow_le_pow_right (by decide) (by omega)
  have short := written.small
  have some : 0 < ((2 ^ (-exponent).toNat : Nat) : Int) + mantissa := by omega
  have total : (1 + share).toModel.unpack = (Float.Model.pack
      (UnpackedFloat.round Format.binary64 .positive
        (((2 ^ (-exponent).toNat : Nat) : Int) + mantissa).toNat exponent)).unpack := by
    change (Float.Model.pack (UnpackedFloat.add Format.binary64 (1 : Float).toModel.unpack
      share.toModel.unpack)).unpack = _
    rw [form, unpack_one, UnpackedFloat.add]
    dsimp only
    rw [min_eq_right (by omega), decreaseExponent_one small, decreaseExponent_self,
      ← normalize_positive some]
    rfl
  rw [total]
  apply exists_round (by omega) written.least
  apply moderate_of_lt (by omega) small
  rw [pow_succ]
  omega

end Share

end Binary64

namespace Quantity

open Binary64

instance : Trails Float where
  trail_below := by
    intro x y share positive part below
    rcases exists_rest positive part with ⟨_, _, written, form⟩
    exact mul_le_mul_right written form below
  trail_above := by
    intro x y share positive part below
    rcases exists_sum positive part with ⟨_, _, written, form⟩
    exact mul_le_mul_right written form below

end Quantity
end Brokerage
