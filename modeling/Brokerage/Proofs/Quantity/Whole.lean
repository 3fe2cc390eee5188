import Brokerage.Proofs.Quantity.Scaling
import Brokerage.Time.Instant

namespace Brokerage
namespace Binary64

open Float.Model
open Float.Model.UnpackedFloat (Sign unpackSign unpackExponent unpackMantissa)

/-!
The whole parts of the double-precision numbers, and the spans of time that
they make.

The fields of a number are read off its bits here by dividing, and elsewhere by
cutting the bits; both give the same sign, mantissa and exponent.  A whole part
fits into a signed word of sixty-four bits exactly when the number is below two
to the power of sixty-three, so this is when a number of seconds is a span.
-/

/-! ## Reading the bits -/

section Fields

variable (bits : BitVec Format.binary64.numBits)

theorem toNat_unpackMantissa :
    (@unpackMantissa Format.binary64 bits).toNat = bits.toNat % 2 ^ 52 := by
  rw [UnpackedFloat.unpackMantissa_def, BitVec.extractLsb'_toNat, Nat.shiftRight_zero]

theorem toNat_unpackExponent :
    (@unpackExponent Format.binary64 bits).toNat = bits.toNat / 2 ^ 52 % 2 ^ 11 := by
  rw [UnpackedFloat.unpackExponent_def, BitVec.extractLsb'_toNat, Nat.shiftRight_eq_div_pow]

theorem toNat_unpackSign :
    (@unpackSign Format.binary64 bits).toNat = bits.toNat / 2 ^ 63 % 2 := by
  rw [UnpackedFloat.unpackSign_def, BitVec.extractLsb'_toNat, Nat.shiftRight_eq_div_pow]
  rfl

end Fields

/-- What is read of a number. -/
def reading : UnpackedFloat -> Decimal.Reading
  | .notANumber => .undefined
  | .infinity sign => .infinite (sign == .negative)
  | .zero sign => .finite (sign == .negative) ⟨0, -1074⟩
  | .finite sign mantissa exponent _ => .finite (sign == .negative) ⟨mantissa, exponent⟩

theorem ofBitVec_beq_negative (bit : BitVec 1) :
    (Sign.ofBitVec bit == .negative) = (bit.toNat == 1) := by
  decide +revert

theorem reading_ofFields (sign : Sign) (exponent : BitVec 11) (mantissa : BitVec 52) :
    reading (ofFields sign exponent mantissa) =
      if exponent.toNat = 0 then .finite (sign == .negative) ⟨mantissa.toNat, -1074⟩
      else .finite (sign == .negative) ⟨mantissa.toNat + 2 ^ 52, exponent.toNat - 1075⟩ := by
  unfold ofFields
  by_cases least : exponent = 0#11
  · have zero : exponent.toNat = 0 := congrArg BitVec.toNat least
    rw [if_pos least, if_pos zero]
    by_cases nothing : mantissa = 0#52
    · rw [dif_pos nothing, nothing]
      rfl
    · rw [dif_neg nothing, reading, zero]
      rfl
  · have positive : exponent.toNat ≠ 0 := fun zero => least (BitVec.eq_of_toNat_eq zero)
    rw [if_neg least, if_neg positive, reading, toNat_implicit, Nat.add_comm]

/-- The number is read that the bits are unpacked to. -/
theorem read_eq (x : Float) : Decimal.read x = reading x.toModel.unpack := by
  let bits : BitVec Format.binary64.numBits := x.toModel.toBits.toBitVec
  have sign := ofBitVec_beq_negative (unpackSign bits)
  have read : Decimal.read x =
      if (unpackExponent bits).toNat = 2047 then
        if (unpackMantissa bits).toNat = 0 then .infinite ((unpackSign bits).toNat == 1)
        else .undefined
      else if (unpackExponent bits).toNat = 0 then
        .finite ((unpackSign bits).toNat == 1) ⟨(unpackMantissa bits).toNat, -1074⟩
      else
        .finite ((unpackSign bits).toNat == 1)
          ⟨(unpackMantissa bits).toNat + 2 ^ 52, (unpackExponent bits).toNat - 1075⟩ := by
    rw [toNat_unpackMantissa, toNat_unpackExponent, toNat_unpackSign]
    rfl
  rw [read, ← sign]
  by_cases special : unpackExponent bits = -1#11
  · have unpacked : x.toModel.unpack =
        if unpackMantissa bits = 0#52 then .infinity (Sign.ofBitVec (unpackSign bits))
        else .notANumber := if_pos special
    have largest : (unpackExponent bits).toNat = 2047 := congrArg BitVec.toNat special
    rw [unpacked, if_pos largest]
    by_cases nothing : unpackMantissa bits = 0#52
    · have zero : (unpackMantissa bits).toNat = 0 := congrArg BitVec.toNat nothing
      rw [if_pos nothing, if_pos zero]
      rfl
    · have nonzero : (unpackMantissa bits).toNat ≠ 0 := fun zero =>
        nothing (BitVec.eq_of_toNat_eq zero)
      rw [if_neg nothing, if_neg nonzero]
      rfl
  · have unpacked : x.toModel.unpack = _ := unpack_eq_ofFields special
    rw [unpacked, reading_ofFields, if_neg]
    exact fun largest => special (BitVec.eq_of_toNat_eq largest)

/-! ## Whole parts -/

section Whole

variable {mantissa : Nat} {exponent : Int} (written : Written mantissa exponent)
include written

/-- The place of two to the power of sixty-three is where whole parts become too long. -/
theorem Written.placeOf_lt_iff :
    placeOf mantissa exponent < placeOf (2 ^ 52) 11 <-> exponent ≤ 10 := by
  have positive := written.positive
  have small := written.small
  have full := written.full
  unfold placeOf
  omega

theorem Written.whole_lt_iff :
    (⟨mantissa, exponent⟩ : Decimal.Binary).fraction.1 /
      (⟨mantissa, exponent⟩ : Decimal.Binary).fraction.2 < 2 ^ 63 <-> exponent ≤ 10 := by
  have small := written.small
  cases exponent with
  | ofNat power =>
      have least : -1074 < Int.ofNat power := lt_of_lt_of_le (by decide) (Int.natCast_nonneg power)
      change mantissa * 2 ^ power / 1 < 2 ^ 63 <-> (power : Int) ≤ 10
      rw [Nat.div_one]
      rcases Nat.lt_or_ge 10 power with long | short
      · have full := written.full least
        have large : 2 ^ 52 * 2 ^ 11 ≤ mantissa * 2 ^ power :=
          Nat.mul_le_mul full (Nat.pow_le_pow_right (by decide) long)
        omega
      · have moderate : mantissa * 2 ^ power < 2 ^ 53 * 2 ^ 10 :=
          Nat.mul_lt_mul_of_lt_of_le small (Nat.pow_le_pow_right (by decide) short) (by decide)
        omega
  | negSucc power =>
      change mantissa / 2 ^ (power + 1) < 2 ^ 63 <-> _
      have moderate : mantissa / 2 ^ (power + 1) ≤ mantissa := Nat.div_le_self _ _
      omega

end Whole

/-- The whole part of a number that is not negative fits into a word. -/
theorem fits_iff_place {number : UnpackedFloat} (form : Canonical number)
    (known : number.isNaN = false) (nonneg : 0 ≤ place number) {x : Float}
    (read : Decimal.read x = reading number) :
    (Exists fun whole => Decimal.wholePart? x = some whole ∧ whole.natAbs ≤ Duration.largest) <->
      place number < placeOf (2 ^ 52) 11 := by
  unfold Decimal.wholePart?
  rw [read]
  cases form with
  | notANumber => cases known
  | infinity sign =>
      have outer : ¬ place (.infinity sign) < placeOf (2 ^ 52) 11 := by
        cases sign with
        | negative => exact absurd nonneg (by decide)
        | positive => decide
      refine iff_of_false ?_ outer
      rintro ⟨whole, wrong, -⟩
      cases wrong
  | zero sign =>
      have inner : (0 : Int) < placeOf (2 ^ 52) 11 := by decide
      refine iff_of_true ⟨_, rfl, ?_⟩ inner
      cases sign <;> decide +kernel
  | @finite sign mantissa exponent written greatest =>
      have positive := written.placeOf_pos
      cases sign with
      | negative =>
          simp only [place, Sign.apply] at nonneg
          omega
      | positive =>
          change _ <-> placeOf mantissa exponent < placeOf (2 ^ 52) 11
          rw [written.placeOf_lt_iff, ← written.whole_lt_iff]
          have largest : Duration.largest + 1 = 2 ^ 63 := by decide
          let magnitude : Decimal.Binary := ⟨mantissa, exponent⟩
          let whole : Int := magnitude.fraction.1 / magnitude.fraction.2
          have size : whole.natAbs = magnitude.fraction.1 / magnitude.fraction.2 :=
            Int.natAbs_natCast _
          rw [← size, ← largest, Nat.lt_succ_iff]
          constructor
          · rintro ⟨result, same, fits⟩
            have same' : whole = result := Option.some.inj same
            exact same' ▸ fits
          · intro fits
            exact ⟨whole, rfl, fits⟩

/-- The first number that is too large for a word. -/
def wordEnd : Float :=
  ((9223372036854775808 : Nat) : Float)

/-- The nanoseconds of a second. -/
def secondLength : Float :=
  ((1000000000 : Nat) : Float)

theorem placeAt_wordEnd : placeAt wordEnd = placeOf (2 ^ 52) 11 := by
  decide +kernel

theorem unpack_secondLength : Exists fun mantissa => Exists fun exponent =>
    Exists fun written : Written mantissa exponent =>
      secondLength.toModel.unpack = .finite .positive mantissa exponent written.positive := by
  have written : Written 8388608000000000 (-23) := ⟨by decide, by decide, by decide, by decide⟩
  exact ⟨_, _, written, rfl⟩

/-- The whole part of a number that is not negative fits into a word when the number does. -/
theorem wholePart?_fits_iff {x : Float} (nonneg : 0 ≤ x) :
    (Exists fun whole => Decimal.wholePart? x = some whole ∧ whole.natAbs ≤ Duration.largest) <->
      x < wordEnd := by
  rcases le_iff_place.mp nonneg with ⟨⟨-, known⟩, above⟩
  have zero : placeAt 0 = 0 := rfl
  have defined : Quantity.isUndefined wordEnd = false := by decide +kernel
  rw [zero] at above
  rw [fits_iff_place (canonical_unpack x.toModel) ((isUndefined_eq x).symm.trans known) above
    (read_eq x), lt_iff_place, placeAt_wordEnd]
  exact ⟨fun below => ⟨⟨known, defined⟩, below⟩, And.right⟩

/-- What is undefined stays so in a product. -/
theorem isUndefined_mul {x : Float} (undefined : Quantity.isUndefined x = true) (y : Float) :
    Quantity.isUndefined (x * y) = true := by
  have product : (x * y).toModel.unpack = (Float.Model.pack (UnpackedFloat.mul Format.binary64
    x.toModel.unpack y.toModel.unpack)).unpack := rfl
  rw [isUndefined_eq] at undefined ⊢
  rw [product, UnpackedFloat.isNaN_iff.mp undefined, UnpackedFloat.mul]
  rfl

end Binary64

open Binary64 Quantity

/-- A number of seconds that is not known to be too low is a span when its nanoseconds fit. -/
theorem Duration.ofSeconds?_ok_iff {seconds : Float} (positive : ¬ seconds ≤ 0) :
    (Exists fun span => Duration.ofSeconds? seconds = .ok span) <->
      seconds * secondLength < wordEnd := by
  cases known : isUndefined seconds with
  | true =>
      have undefined := isUndefined_mul known secondLength
      refine iff_of_false ?_ fun below => ?_
      · rintro ⟨span, read⟩
        rw [ofSeconds?, known] at read
        cases read
      · rw [(lt_iff_place.mp below).1.1] at undefined
        cases undefined
  | false =>
      rcases unpack_secondLength with ⟨_, _, written, form⟩
      have above : 0 < seconds := Ordered.lt_of_not_le Ordered.zero_defined known positive
      have nonneg := mul_le_mul_right written form (Ordered.le_of_lt above)
      have nothing : (0 : Float) * secondLength = 0 := by decide +kernel
      have cut : Quantity.wholePart? (seconds * ((1000000000 : Nat) : Float)) =
          Decimal.wholePart? (seconds * secondLength) := rfl
      rw [nothing] at nonneg
      rw [← wholePart?_fits_iff nonneg, ofSeconds?, known, if_neg Bool.false_ne_true, cut]
      cases Decimal.wholePart? (seconds * secondLength) with
      | none =>
          refine iff_of_false ?_ ?_
          · rintro ⟨span, wrong⟩
            cases wrong
          · rintro ⟨whole, wrong, -⟩
            cases wrong
      | some whole =>
          dsimp only
          constructor
          · rintro ⟨span, fitted⟩
            split at fitted
            · rename_i fits
              exact ⟨whole, rfl, fits⟩
            · cases fitted
          · rintro ⟨other, same, fits⟩
            cases same
            exact ⟨⟨whole⟩, if_pos fits⟩

end Brokerage
