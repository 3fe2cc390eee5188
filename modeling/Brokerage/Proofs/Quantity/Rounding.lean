import Brokerage.Proofs.Quantity.Places

namespace Brokerage
namespace Binary64

open Float.Model
open Float.Model.UnpackedFloat (Sign Accuracy ExtendedMantissa)

/-!
Rounding keeps the order of the numbers.

A result that is too long for its mantissa loses its last digits and is
rounded to the nearest number that fits.  Its place is then a function of the
exact result that never decreases, and a positive result of moderate size stays
positive and finite.
-/

/-! ## Dropping digits -/

/-- A mantissa without its last digits, rounded to the nearest one, and half way to the even one. -/
def rounded (mantissa digits : Nat) : Nat :=
  let whole := mantissa / 2 ^ digits
  let rest := mantissa % 2 ^ digits
  if 2 * rest < 2 ^ digits then whole
  else if 2 * rest = 2 ^ digits then whole + whole % 2
  else whole + 1

/-- What remains of a mantissa without its last digits, and how these compare to half a unit. -/
def front (mantissa digits : Nat) : ExtendedMantissa where
  mantissa := mantissa / 2 ^ digits
  roundBit := decide (2 ^ digits ≤ 2 * (mantissa % 2 ^ digits))
  stickyBit := decide (mantissa % 2 ^ digits ≠ 0 ∧ 2 * (mantissa % 2 ^ digits) ≠ 2 ^ digits)

theorem front_succ (mantissa digits : Nat) :
    front mantissa (digits + 1) = (front mantissa digits).shiftRightOne := by
  have split : mantissa % 2 ^ (digits + 1) =
      mantissa % 2 ^ digits + 2 ^ digits * (mantissa / 2 ^ digits % 2) := by
    rw [pow_succ, Nat.mod_mul]
  have whole : mantissa / 2 ^ (digits + 1) = mantissa / 2 ^ digits / 2 := by
    rw [pow_succ, Nat.div_div_eq_div_mul]
  have short : mantissa % 2 ^ digits < 2 ^ digits := Nat.mod_lt _ (Nat.two_pow_pos digits)
  unfold front ExtendedMantissa.shiftRightOne
  rw [split, whole, pow_succ]
  generalize mantissa % 2 ^ digits = rest at short
  generalize mantissa / 2 ^ digits = kept
  generalize 2 ^ digits = unit at short
  have last := Nat.mod_two_eq_zero_or_one kept
  generalize kept % 2 = digit at last
  simp only [ExtendedMantissa.mk.injEq, true_and]
  constructor
  · apply Bool.eq_iff_iff.mpr
    rw [decide_eq_true_iff, bne_iff_ne]
    rcases last with zero | one
    · rw [zero]
      omega
    · rw [one]
      omega
  · rw [← Bool.decide_or]
    apply decide_eq_decide.mpr
    rcases last with zero | one
    · rw [zero]
      omega
    · rw [one]
      omega

theorem shiftRight_exact (mantissa digits : Nat) :
    ExtendedMantissa.ofMantissaAndAccuracy mantissa .exact >>> digits = front mantissa digits := by
  induction digits with
  | zero =>
      unfold front
      rw [pow_zero, Nat.div_one, Nat.mod_one]
      rfl
  | succ digits ih =>
      rw [front_succ, ← ih]
      rfl

theorem roundedMantissa_front (mantissa digits : Nat) :
    (front mantissa digits).roundedMantissa = rounded mantissa digits := by
  have positive := Nat.two_pow_pos digits
  unfold front rounded ExtendedMantissa.roundedMantissa
  dsimp only
  generalize mantissa % 2 ^ digits = rest
  generalize mantissa / 2 ^ digits = kept
  generalize 2 ^ digits = unit at positive
  rcases lt_trichotomy (2 * rest) unit with below | half | above
  · have low : ¬ unit ≤ 2 * rest := by omega
    rw [if_pos below, decide_eq_false low]
    cases decide (rest ≠ 0 ∧ 2 * rest ≠ unit) <;> rfl
  · have sharp : ¬ (rest ≠ 0 ∧ 2 * rest ≠ unit) := by omega
    rw [if_neg (by omega), if_pos half, decide_eq_true (le_of_eq half.symm), decide_eq_false sharp]
    rfl
  · have high : rest ≠ 0 ∧ 2 * rest ≠ unit := by omega
    rw [if_neg (by omega), if_neg (by omega), decide_eq_true (le_of_lt above), decide_eq_true high]
    rfl

/-- Rounding drops the last digits or goes up by one unit of the digits that remain. -/
theorem rounded_bounds (mantissa digits : Nat) :
    mantissa / 2 ^ digits ≤ rounded mantissa digits ∧
      rounded mantissa digits ≤ mantissa / 2 ^ digits + 1 := by
  unfold rounded
  dsimp only
  split
  · omega
  · split <;> omega

theorem rounded_mono {mantissa other : Nat} (digits : Nat) (below : mantissa ≤ other) :
    rounded mantissa digits ≤ rounded other digits := by
  have wholes : mantissa / 2 ^ digits ≤ other / 2 ^ digits := Nat.div_le_div_right below
  rcases Nat.lt_or_eq_of_le wholes with apart | same
  · have up := (rounded_bounds mantissa digits).2
    have down := (rounded_bounds other digits).1
    omega
  · have first := Nat.div_add_mod mantissa (2 ^ digits)
    have second := Nat.div_add_mod other (2 ^ digits)
    rw [same] at first
    have rests : mantissa % 2 ^ digits ≤ other % 2 ^ digits := by omega
    unfold rounded
    rw [same]
    dsimp only
    split_ifs <;> omega

/-- Digits that are zero do not count. -/
theorem rounded_shifted (mantissa digits zeros : Nat) :
    rounded (mantissa * 2 ^ zeros) (digits + zeros) = rounded mantissa digits := by
  have positive := Nat.two_pow_pos zeros
  unfold rounded
  rw [pow_add, Nat.mul_div_mul_right _ _ positive, Nat.mul_mod_mul_right]
  simp only [← Nat.mul_assoc, Nat.mul_lt_mul_right positive,
    Nat.mul_left_inj (Nat.ne_of_gt positive)]

/-! ## Rounding a number -/

/-- The exponent with which a number is written: its mantissa is full or the exponent is least. -/
def exponentOf (mantissa : Nat) (exponent : Int) : Int :=
  max (exponent + mantissa.log2 - 52) (-1074)

/-- The digits that are dropped for that. -/
def dropped (mantissa : Nat) (exponent : Int) : Nat :=
  (exponentOf mantissa exponent - exponent).toNat

/-- The place at which a number is rounded, if there is an end to the places. -/
def roundedPlace (mantissa : Nat) (exponent : Int) : Int :=
  placeOf (rounded mantissa (dropped mantissa exponent)) (exponentOf mantissa exponent)

theorem targetExponent_eq (mantissa : Nat) (exponent : Int) :
    Format.binary64.targetExponent (totalExponent mantissa exponent) =
      exponentOf mantissa exponent := by
  have bits : Format.binary64.mantissaBits = 53 := rfl
  have least : Format.binary64.minExponent = -1074 := by decide
  unfold Format.targetExponent totalExponent exponentOf
  rw [bits, least]
  omega

theorem shiftToTargetExponent_eq (mantissa : Nat) (exponent : Int) :
    UnpackedFloat.shiftToTargetExponent Format.binary64 mantissa exponent .exact =
      (front mantissa (dropped mantissa exponent), exponent + dropped mantissa exponent) := by
  unfold UnpackedFloat.shiftToTargetExponent UnpackedFloat.shiftToExponent
  dsimp only
  rw [targetExponent_eq, shiftRight_exact]
  rfl

section Rounded

variable {mantissa : Nat} {exponent : Int}

theorem lt_two_pow_dropped (mantissa : Nat) (exponent : Int) :
    mantissa / 2 ^ dropped mantissa exponent < 2 ^ 53 := by
  have digits : mantissa.log2 + 1 ≤ 53 + dropped mantissa exponent := by
    unfold dropped exponentOf
    omega
  rw [Nat.div_lt_iff_lt_mul (Nat.two_pow_pos _), ← pow_add]
  exact lt_of_lt_of_le Nat.lt_log2_self (Nat.pow_le_pow_right (by decide) digits)

theorem rounded_le (mantissa : Nat) (exponent : Int) :
    rounded mantissa (dropped mantissa exponent) ≤ 2 ^ 53 := by
  have up := (rounded_bounds mantissa (dropped mantissa exponent)).2
  have short := lt_two_pow_dropped mantissa exponent
  omega

/-- A number that does not end at the least exponent keeps a full mantissa. -/
theorem le_rounded (positive : 0 < mantissa) (fits : exponent ≤ exponentOf mantissa exponent)
    (normal : -1074 < exponentOf mantissa exponent) :
    2 ^ 52 ≤ rounded mantissa (dropped mantissa exponent) := by
  have digits : 52 + dropped mantissa exponent ≤ mantissa.log2 := by
    unfold dropped
    unfold exponentOf at fits normal ⊢
    omega
  have long : 2 ^ 52 ≤ mantissa / 2 ^ dropped mantissa exponent := by
    rw [Nat.le_div_iff_mul_le (Nat.two_pow_pos _), ← pow_add]
    exact le_trans (Nat.pow_le_pow_right (by decide) digits)
      (Nat.log2_self_le (Nat.ne_of_gt positive))
  exact le_trans long (rounded_bounds _ _).1

theorem dropped_of_lt (small : mantissa < 2 ^ 53) (least : -1074 ≤ exponent) :
    dropped mantissa exponent = 0 := by
  have digits : mantissa.log2 ≤ 52 := by
    rcases Nat.eq_zero_or_pos mantissa with none | positive
    · rw [none]
      decide
    · have below := (Nat.log2_lt (Nat.ne_of_gt positive)).mpr small
      omega
  unfold dropped exponentOf
  omega

theorem dropped_two_pow (least : -1074 ≤ exponent) : dropped (2 ^ 53) exponent = 1 := by
  unfold dropped exponentOf
  rw [Nat.log2_two_pow]
  omega

/-- A rounded number, before it is packed: a mantissa that became too long by it is shortened. -/
theorem roundWithAccuracy_eq (sign : Sign) (fits : exponent ≤ exponentOf mantissa exponent) :
    UnpackedFloat.roundWithAccuracy Format.binary64 sign mantissa exponent .exact =
      if zero : rounded mantissa (dropped mantissa exponent) = 0 then .zero sign
      else if rounded mantissa (dropped mantissa exponent) = 2 ^ 53 then
        .finite sign (2 ^ 52) (exponentOf mantissa exponent + 1) (Nat.two_pow_pos 52)
      else
        .finite sign (rounded mantissa (dropped mantissa exponent)) (exponentOf mantissa exponent)
          (Nat.pos_of_ne_zero zero) := by
  have target : exponent + dropped mantissa exponent = exponentOf mantissa exponent := by
    unfold dropped
    omega
  have least : -1074 ≤ exponentOf mantissa exponent := by
    unfold exponentOf
    omega
  have bound := rounded_le mantissa exponent
  unfold UnpackedFloat.roundWithAccuracy
  rw [shiftToTargetExponent_eq, target]
  dsimp only
  rw [roundedMantissa_front, shiftToTargetExponent_eq]
  generalize rounded mantissa (dropped mantissa exponent) = result at bound
  generalize exponentOf mantissa exponent = target' at least
  rcases Nat.lt_or_eq_of_le bound with small | full
  · have kept : (front result 0).mantissa = result := by
      unfold front
      rw [pow_zero, Nat.div_one]
    have short : result ≠ 2 ^ 53 := Nat.ne_of_lt small
    rw [dropped_of_lt small least]
    simp only [kept, short, if_false, Nat.cast_zero, add_zero]
  · subst full
    have halved : (front (2 ^ 53) 1).mantissa = 2 ^ 52 := rfl
    rw [dropped_two_pow least]
    simp only [halved]
    rfl

/-- A finite number of the memory is the number of two fields. -/
theorem Written.exists_ofFields (sign : Sign) (written : Written mantissa exponent)
    (greatest : exponent ≤ 971) :
    Exists fun field => Exists fun bits => field ≠ -1#11 ∧
      UnpackedFloat.finite sign mantissa exponent written.positive = ofFields sign field bits := by
  have positive := written.positive
  have small := written.small
  have least := written.least
  have full := written.full
  rcases Nat.lt_or_ge mantissa (2 ^ 52) with subnormal | normal
  · have lowest : exponent = -1074 := by omega
    have bits : (BitVec.ofNat 52 mantissa).toNat = mantissa := by
      rw [BitVec.toNat_ofNat, Nat.mod_eq_of_lt subnormal]
    have nonzero : BitVec.ofNat 52 mantissa ≠ 0#52 := by
      intro zero
      rw [zero] at bits
      exact Nat.ne_of_lt positive bits
    refine ⟨0#11, BitVec.ofNat 52 mantissa, by decide, ?_⟩
    unfold ofFields
    rw [if_pos rfl, dif_neg nonzero, UnpackedFloat.finite.injEq]
    exact ⟨rfl, bits.symm, lowest⟩
  · have field : (BitVec.ofNat 11 (exponent + 1075).toNat).toNat = (exponent + 1075).toNat := by
      rw [BitVec.toNat_ofNat, Nat.mod_eq_of_lt (by omega)]
    have bits : (BitVec.ofNat 52 (mantissa - 2 ^ 52)).toNat = mantissa - 2 ^ 52 := by
      rw [BitVec.toNat_ofNat, Nat.mod_eq_of_lt (by omega)]
    have finite : BitVec.ofNat 11 (exponent + 1075).toNat ≠ -1#11 := by
      intro special
      have value : (exponent + 1075).toNat = 2047 := by
        rw [← field, special]
        rfl
      omega
    have higher : BitVec.ofNat 11 (exponent + 1075).toNat ≠ 0#11 := by
      intro zero
      have value : (exponent + 1075).toNat = 0 := by
        rw [← field, zero]
        rfl
      omega
    refine ⟨_, BitVec.ofNat 52 (mantissa - 2 ^ 52), finite, ?_⟩
    unfold ofFields
    rw [if_neg higher, UnpackedFloat.finite.injEq, toNat_implicit, bits, field]
    exact ⟨rfl, by omega, by omega⟩

/-- A finite number survives being packed, or it is too large and becomes infinite. -/
theorem Written.unpack_pack (sign : Sign) (written : Written mantissa exponent) :
    (Float.Model.pack (.finite sign mantissa exponent written.positive)).unpack =
      if exponent ≤ 971 then .finite sign mantissa exponent written.positive
      else .infinity sign := by
  split
  · rename_i greatest
    rcases written.exists_ofFields sign greatest with ⟨field, bits, finite, same⟩
    rw [same]
    exact Binary64.unpack_pack sign bits finite
  · rename_i beyond
    have bias : Format.binary64.exponentBias = 1023 := by decide
    have large : 2 ^ Format.binary64.exponentBits ≤
        (exponent + Format.binary64.exponentBias +
          Format.binary64.mantissaBitsWithoutImplicit).toNat + 1 := by
      rw [bias]
      change 2 ^ 11 ≤ (exponent + 1023 + 52).toNat + 1
      omega
    unfold Float.Model.pack Float.Model.unpack UnpackedFloat.pack
    dsimp only
    rw [if_pos large]
    cases sign <;> rfl

/-- What a packed number says of itself: it is defined, and at most at the last place. -/
structure PackedAt (number : UnpackedFloat) (sign : Sign) (goal : Int) : Prop where
  known : (Float.Model.pack number).unpack.isNaN = false
  place_eq : place (Float.Model.pack number).unpack = sign.apply (min goal endPlace)

theorem Written.packedAt (sign : Sign) (written : Written mantissa exponent) :
    PackedAt (.finite sign mantissa exponent written.positive) sign (placeOf mantissa exponent) := by
  have packed := written.unpack_pack sign
  split at packed
  · rename_i greatest
    have inner := written.placeOf_lt_endPlace greatest
    constructor
    · rw [packed]
      rfl
    · rw [packed, min_eq_left (le_of_lt inner)]
      rfl
  · rename_i beyond
    have long := written.full (by omega)
    have outer : endPlace ≤ placeOf mantissa exponent := by
      unfold endPlace placeOf
      omega
    constructor
    · rw [packed]
      rfl
    · rw [packed, min_eq_right outer]
      rfl

/-- A mantissa that became too long by rounding has the place of the next exponent. -/
theorem placeOf_carry (exponent : Int) :
    placeOf (2 ^ 53) exponent = placeOf (2 ^ 52) (exponent + 1) := by
  unfold placeOf
  omega

theorem packedAt_round (sign : Sign) (positive : 0 < mantissa)
    (fits : exponent ≤ exponentOf mantissa exponent) :
    PackedAt (UnpackedFloat.roundWithAccuracy Format.binary64 sign mantissa exponent .exact) sign
      (roundedPlace mantissa exponent) := by
  have least : -1074 ≤ exponentOf mantissa exponent := by
    unfold exponentOf
    omega
  have full := le_rounded positive fits
  have bound := rounded_le mantissa exponent
  rw [roundWithAccuracy_eq sign fits]
  unfold roundedPlace
  generalize rounded mantissa (dropped mantissa exponent) = result at full bound
  generalize exponentOf mantissa exponent = target at least full
  split
  · rename_i zero
    have lowest : target = -1074 := by omega
    subst zero lowest
    constructor
    · rw [unpack_pack_zero]
      rfl
    · rw [unpack_pack_zero]
      cases sign <;> rfl
  · rename_i some
    split
    · rename_i long
      have carried : Written (2 ^ 52) (target + 1) :=
        ⟨by decide, by decide, by omega, fun _ => le_refl _⟩
      rw [long, placeOf_carry]
      exact carried.packedAt sign
    · have kept : Written result target := ⟨Nat.pos_of_ne_zero some, by omega, least, full⟩
      exact kept.packedAt sign

/-! ## The order of rounded numbers -/

/-- A larger number is rounded to the same place or to a later one: it ends with a higher exponent,
or both numbers lose their digits down to the same one. -/
theorem roundedPlace_mono {other : Nat} (shift : Nat) (below : mantissa ≤ other * 2 ^ shift)
    (positive : 0 < other) (fits : exponent ≤ exponentOf mantissa exponent)
    (fits' : exponent + shift ≤ exponentOf other (exponent + shift)) :
    roundedPlace mantissa exponent ≤ roundedPlace other (exponent + shift) := by
  have digits : mantissa.log2 ≤ other.log2 + shift := by
    rcases Nat.eq_zero_or_pos mantissa with none | some
    · rw [none, Nat.log2_zero]
      exact Nat.zero_le _
    · have below' : mantissa < 2 ^ (other.log2 + shift + 1) := by
        calc mantissa ≤ other * 2 ^ shift := below
          _ < 2 ^ (other.log2 + 1) * 2 ^ shift :=
            Nat.mul_lt_mul_of_pos_right Nat.lt_log2_self (Nat.two_pow_pos shift)
          _ = 2 ^ (other.log2 + shift + 1) := by rw [← pow_add]; congr 1; omega
      have bound := (Nat.log2_lt (Nat.ne_of_gt some)).mpr below'
      omega
  have targets : exponentOf mantissa exponent ≤ exponentOf other (exponent + shift) := by
    unfold exponentOf
    omega
  unfold roundedPlace
  rcases lt_or_eq_of_le targets with apart | same
  · have short := rounded_le mantissa exponent
    have long := le_rounded positive fits' (by unfold exponentOf at apart ⊢; omega)
    unfold placeOf
    omega
  · have drops : dropped mantissa exponent = dropped other (exponent + shift) + shift := by
      unfold dropped
      omega
    have results := rounded_mono (dropped mantissa exponent) below
    rw [drops, rounded_shifted, ← drops] at results
    unfold placeOf
    omega

end Rounded

/-! ## Numbers of moderate size -/

theorem roundedPlace_nonneg (mantissa : Nat) (exponent : Int) :
    0 ≤ roundedPlace mantissa exponent := by
  unfold roundedPlace placeOf exponentOf
  omega

theorem exists_finite_of_place {number : UnpackedFloat} (form : Canonical number)
    (positive : 0 < place number) (inner : place number < endPlace) :
    Exists fun mantissa => Exists fun exponent => Exists fun written : Written mantissa exponent =>
      number = .finite .positive mantissa exponent written.positive := by
  cases form with
  | notANumber => exact absurd positive (lt_irrefl 0)
  | zero sign => exact absurd positive (lt_irrefl 0)
  | infinity sign =>
      cases sign with
      | negative => exact absurd positive (by decide)
      | positive => exact absurd inner (lt_irrefl endPlace)
  | finite sign written greatest =>
      cases sign with
      | negative =>
          have outer := written.placeOf_pos
          simp only [place, Sign.apply] at positive
          omega
      | positive => exact ⟨_, _, written, rfl⟩

theorem log2_mul_two_pow {mantissa : Nat} (positive : 0 < mantissa) (zeros : Nat) :
    (mantissa * 2 ^ zeros).log2 = mantissa.log2 + zeros := by
  induction zeros with
  | zero => rw [pow_zero, Nat.mul_one, Nat.add_zero]
  | succ zeros ih =>
      have some : mantissa * 2 ^ zeros ≠ 0 :=
        Nat.ne_of_gt (Nat.mul_pos positive (Nat.two_pow_pos zeros))
      rw [pow_succ, ← Nat.mul_assoc, Nat.mul_comm _ 2, Nat.log2_two_mul some, ih]
      rfl

/-- Nothing but a number below the least exponent is rounded to zero. -/
theorem roundedPlace_pos {mantissa : Nat} {exponent : Int} (positive : 0 < mantissa)
    (least : -1074 ≤ exponent) (fits : exponent ≤ exponentOf mantissa exponent) :
    0 < roundedPlace mantissa exponent := by
  have full := le_rounded positive fits
  have whole := (rounded_bounds mantissa (dropped mantissa exponent)).1
  have lowest : -1074 ≤ exponentOf mantissa exponent := le_trans least fits
  unfold roundedPlace placeOf
  rcases lt_or_eq_of_le lowest with normal | same
  · have long := full normal
    omega
  · have kept : dropped mantissa exponent = 0 := by
      unfold dropped
      omega
    rw [kept, pow_zero, Nat.div_one] at whole
    rw [kept]
    omega

theorem roundedPlace_lt_endPlace {mantissa : Nat} {exponent : Int}
    (moderate : exponent + mantissa.log2 ≤ 0) : roundedPlace mantissa exponent < endPlace := by
  have short := rounded_le mantissa exponent
  have low : exponentOf mantissa exponent ≤ -52 := by
    unfold exponentOf
    omega
  unfold roundedPlace placeOf endPlace
  omega

/-- A positive number of moderate size is rounded to a positive number. -/
theorem exists_round {mantissa : Nat} {exponent : Int} (positive : 0 < mantissa)
    (least : -1074 ≤ exponent) (moderate : exponent + mantissa.log2 ≤ 0) :
    Exists fun mantissa' => Exists fun exponent' =>
      Exists fun written : Written mantissa' exponent' =>
        (Float.Model.pack (UnpackedFloat.round Format.binary64 .positive mantissa exponent)).unpack =
          .finite .positive mantissa' exponent' written.positive := by
  let zeros := (exponent - exponentOf mantissa exponent).toNat
  have shown : UnpackedFloat.round Format.binary64 .positive mantissa exponent =
      UnpackedFloat.roundWithAccuracy Format.binary64 .positive (mantissa * 2 ^ zeros)
        (exponent - zeros) .exact := by
    unfold UnpackedFloat.round UnpackedFloat.decreaseExponent
    dsimp only
    rw [targetExponent_eq, Nat.shiftLeft_eq]
  have digits : (mantissa * 2 ^ zeros).log2 = mantissa.log2 + zeros :=
    log2_mul_two_pow positive zeros
  have target : exponentOf (mantissa * 2 ^ zeros) (exponent - zeros) =
      exponentOf mantissa exponent := by
    unfold exponentOf
    rw [digits]
    omega
  have count : zeros = (exponent - exponentOf mantissa exponent).toNat := rfl
  have lowest : -1074 ≤ exponentOf mantissa exponent := by
    unfold exponentOf
    omega
  have some : 0 < mantissa * 2 ^ zeros := Nat.mul_pos positive (Nat.two_pow_pos zeros)
  have fits : exponent - zeros ≤ exponentOf (mantissa * 2 ^ zeros) (exponent - zeros) := by omega
  have packed := packedAt_round .positive some fits
  have above := roundedPlace_pos some (by omega) fits
  have below : roundedPlace (mantissa * 2 ^ zeros) (exponent - zeros) < endPlace := by
    apply roundedPlace_lt_endPlace
    omega
  have placed := packed.place_eq
  rw [min_eq_left (le_of_lt below), ← shown] at placed
  apply exists_finite_of_place (canonical_unpack _)
  · rw [placed]
    exact above
  · rw [placed]
    exact below

end Binary64
end Brokerage
