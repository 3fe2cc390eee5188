import Brokerage.Quantity
import Mathlib

namespace Brokerage
namespace Binary64

open Float.Model
open Float.Model.UnpackedFloat (Sign unpackSign unpackExponent unpackMantissa packComponents
  unpackExponent_packComponents unpackMantissa_packComponents)

/-!
Finite double-precision numbers and their signs.

A number is packed into a sign, an exponent field and a mantissa field, and an
operation unpacks its arguments, computes, and packs the result again.  A
change of the sign leaves the two fields alone, so that nothing is rounded when
the changed number is packed.
-/

theorem toNat_implicit (mantissa : BitVec 52) :
    (1#1 ++ mantissa).toNat = 2 ^ 52 + mantissa.toNat := by
  rw [BitVec.toNat_append, ← Nat.shiftLeft_add_eq_or_of_lt mantissa.isLt]
  rfl

/-- The finite number that a sign and two fields stand for. -/
def ofFields (sign : Sign) (exponent : BitVec 11) (mantissa : BitVec 52) : UnpackedFloat :=
  if exponent = 0#11 then
    if nonzero : mantissa = 0#52 then .zero sign
    else
      .finite sign mantissa.toNat ((exponent.toNat : Int) - 1075 + 1)
        (by simpa [BitVec.toNat_pos, BitVec.pos_iff_ne_zero])
  else
    .finite sign (1#1 ++ mantissa).toNat ((exponent.toNat : Int) - 1075)
      (by rw [toNat_implicit]; omega)

section Signs

variable (sign : Sign) (exponent : BitVec 11) (mantissa : BitVec 52)

theorem neg_ofFields :
    (ofFields sign exponent mantissa).neg = ofFields (-sign) exponent mantissa := by
  unfold ofFields
  split
  · split <;> rfl
  · rfl

theorem abs_ofFields :
    (ofFields sign exponent mantissa).abs = ofFields .positive exponent mantissa := by
  unfold ofFields
  split
  · split <;> rfl
  · rfl

theorem isFinite_ofFields : (ofFields sign exponent mantissa).isFinite = true := by
  unfold ofFields
  split
  · split <;> rfl
  · rfl

/-- The sum of two opposite numbers is the positive zero. -/
theorem add_ofFields_neg :
    UnpackedFloat.add Format.binary64 (ofFields sign exponent mantissa)
      (ofFields (-sign) exponent mantissa) = .zero .positive := by
  have cancels : forall count : Nat, sign.apply count + (-sign).apply count = 0 := by
    intro count
    cases sign with
    | negative => exact Int.add_left_neg _
    | positive => exact Int.add_right_neg _
  unfold ofFields
  split
  · split
    · cases sign <;> rfl
    · simp only [UnpackedFloat.add, cancels]
      rfl
  · simp only [UnpackedFloat.add, cancels]
    rfl

/-- A sign does not tell a zero from other numbers. -/
theorem beq_zero_ofFields_neg :
    (ofFields (-sign) exponent mantissa).beq (.zero .positive) =
      (ofFields sign exponent mantissa).beq (.zero .positive) := by
  unfold ofFields
  split
  · split
    · rfl
    · cases sign <;> rfl
  · cases sign <;> rfl

/-- Nothing less a size is not positive. -/
theorem not_lt_sub_ofFields :
    UnpackedFloat.lt (.zero .positive)
      (UnpackedFloat.sub Format.binary64 (.zero .positive)
        (ofFields .positive exponent mantissa)) = false := by
  unfold ofFields
  split
  · split <;> rfl
  · rfl

/-- A difference from nothing has the fields of what is taken away, unless that is nothing too. -/
theorem sub_ofFields :
    Exists fun sign => UnpackedFloat.sub Format.binary64 (.zero .positive)
      (ofFields .positive exponent mantissa) = ofFields sign exponent mantissa := by
  unfold ofFields
  split
  · split
    · exact ⟨.positive, rfl⟩
    · exact ⟨.negative, rfl⟩
  · exact ⟨.negative, rfl⟩

end Signs

/-! ## Packing -/

/-- A packed number that is finite is the number of its fields. -/
theorem unpack_eq_ofFields {bits : BitVec Format.binary64.numBits}
    (finite : unpackExponent bits ≠ -1#11) :
    UnpackedFloat.unpack Format.binary64 bits =
      ofFields (Sign.ofBitVec (unpackSign bits)) (unpackExponent bits) (unpackMantissa bits) := by
  unfold UnpackedFloat.unpack ofFields
  rw [if_neg finite]
  rfl

theorem exponent_of_isFinite {bits : BitVec Format.binary64.numBits}
    (finite : (UnpackedFloat.unpack Format.binary64 bits).isFinite = true) :
    unpackExponent bits ≠ -1#11 := by
  intro special
  unfold UnpackedFloat.unpack at finite
  dsimp only at finite
  rw [if_pos special] at finite
  split at finite <;> cases finite

theorem unpack_packComponents (sign : Sign) {exponent : BitVec 11} (mantissa : BitVec 52)
    (finite : exponent ≠ -1#11) :
    UnpackedFloat.unpack Format.binary64
        (packComponents Format.binary64 sign exponent mantissa) =
      ofFields sign exponent mantissa := by
  have same : unpackExponent (packComponents Format.binary64 sign exponent mantissa) = exponent :=
    unpackExponent_packComponents
  rw [unpack_eq_ofFields (same.symm ▸ finite), same, unpackMantissa_packComponents,
    UnpackedFloat.unpackSign_packComponents, UnpackedFloat.Sign.ofBitVec_toBitVec]

/-- The fields of a number with a finite exponent are packed as they are. -/
theorem pack_ofFields (sign : Sign) {exponent : BitVec 11} (mantissa : BitVec 52)
    (finite : exponent ≠ -1#11) :
    UnpackedFloat.pack Format.binary64 (ofFields sign exponent mantissa) =
      packComponents Format.binary64 sign exponent mantissa := by
  have same : unpackExponent (packComponents Format.binary64 sign exponent mantissa) = exponent :=
    unpackExponent_packComponents
  rw [← unpack_packComponents sign mantissa finite, UnpackedFloat.pack_unpack, if_neg]
  intro special
  exact finite (same.symm.trans (of_decide_eq_true special).1)

/-- A finite number with any sign survives being packed. -/
theorem unpack_pack (sign : Sign) {exponent : BitVec 11} (mantissa : BitVec 52)
    (finite : exponent ≠ -1#11) :
    (Float.Model.pack (ofFields sign exponent mantissa)).unpack =
      ofFields sign exponent mantissa := by
  unfold Float.Model.unpack Float.Model.pack
  dsimp only
  rw [pack_ofFields sign mantissa finite]
  exact unpack_packComponents sign mantissa finite

theorem fields_of_isFinite {model : Float.Model} (finite : model.isFinite = true) :
    Exists fun sign => Exists fun exponent => Exists fun mantissa =>
      exponent ≠ -1#11 ∧ model.unpack = ofFields sign exponent mantissa := by
  have special : @unpackExponent Format.binary64 model.toBits.toBitVec ≠ -1#11 :=
    exponent_of_isFinite finite
  exact ⟨_, _, _, special, unpack_eq_ofFields special⟩

/-! ## Arithmetic of a number and its opposite -/

theorem ofFields_zero (sign : Sign) : ofFields sign 0#11 0#52 = .zero sign := rfl

theorem unpack_pack_zero (sign : Sign) :
    (Float.Model.pack (.zero sign)).unpack = .zero sign := by
  have packed := unpack_pack sign 0#52 (show (0#11) ≠ -1#11 by decide)
  rw [ofFields_zero] at packed
  exact packed

section Opposite

variable {model : Float.Model}

theorem isFinite_neg (finite : model.isFinite = true) : model.neg.isFinite = true := by
  rcases fields_of_isFinite finite with ⟨sign, exponent, mantissa, special, same⟩
  unfold Float.Model.neg Float.Model.isFinite
  rw [same, neg_ofFields, unpack_pack _ _ special]
  exact isFinite_ofFields _ _ _

/-- A number and its opposite add up to the positive zero. -/
theorem unpack_add_neg (finite : model.isFinite = true) :
    (model.add model.neg).unpack = .zero .positive := by
  rcases fields_of_isFinite finite with ⟨sign, exponent, mantissa, special, same⟩
  have opposite : model.neg.unpack = ofFields (-sign) exponent mantissa := by
    unfold Float.Model.neg
    rw [same, neg_ofFields, unpack_pack _ _ special]
  unfold Float.Model.add
  rw [same, opposite, add_ofFields_neg]
  exact unpack_pack_zero .positive

theorem beq_zero_neg (finite : model.isFinite = true) {zero : Float.Model}
    (nothing : zero.unpack = .zero .positive) : (model.neg == zero) = (model == zero) := by
  rcases fields_of_isFinite finite with ⟨sign, exponent, mantissa, special, same⟩
  change model.neg.unpack.beq zero.unpack = model.unpack.beq zero.unpack
  unfold Float.Model.neg
  rw [same, neg_ofFields, unpack_pack _ _ special, nothing]
  exact beq_zero_ofFields_neg _ _ _

/-- Nothing less the size of a number is not positive. -/
theorem not_lt_sub_abs (finite : model.isFinite = true) {zero sum : Float.Model}
    (nothing : zero.unpack = .zero .positive) (cancelled : sum.unpack = .zero .positive) :
    Float.Model.lt zero (sum.abs.sub model.abs) = false := by
  rcases fields_of_isFinite finite with ⟨sign, exponent, mantissa, special, same⟩
  have size : model.abs.unpack = ofFields .positive exponent mantissa := by
    unfold Float.Model.abs
    rw [same, abs_ofFields, unpack_pack _ _ special]
  have none : sum.abs.unpack = .zero .positive := by
    unfold Float.Model.abs
    rw [cancelled]
    exact unpack_pack_zero .positive
  rcases sub_ofFields exponent mantissa with ⟨left, difference⟩
  have below := not_lt_sub_ofFields exponent mantissa
  unfold Float.Model.lt Float.Model.sub
  rw [size, none, difference, unpack_pack _ _ special, nothing, ← difference]
  exact below

end Opposite

end Binary64
end Brokerage
