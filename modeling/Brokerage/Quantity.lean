import Brokerage.Decimal.Binary

namespace Brokerage

/-!
The numbers on which prices, sizes and money live.

Every trading rule of the library is written once, over an arbitrary number
type.  A run of the program takes the double-precision numbers; an argument
about exact money takes the rationals.  The class below therefore lists the
operations that the rules use and none of their laws: what is proved from it
alone holds operation for operation in either arithmetic.
-/

/-- The operations that the trading rules need of a number. -/
class Quantity (α : Type) where
  [zero : Zero α]
  [one : One α]
  [natCast : NatCast α]
  [add : Add α]
  [sub : Sub α]
  [mul : Mul α]
  [div : Div α]
  [neg : Neg α]
  [lt : LT α]
  [le : LE α]
  [beq : BEq α]
  [decidableLt : DecidableLT α]
  [decidableLe : DecidableLE α]
  /-- Distance from zero. -/
  abs : α -> α
  /-- Neither infinite nor undefined. -/
  isFinite : α -> Bool
  /-- The whole number next to it on the side of zero; none when it is not finite. -/
  wholePart? : α -> Option Int

/-! Any instance that a number type has of its own comes before these. -/

section Operations

variable {α : Type} [quantity : Quantity α]

instance (priority := 50) zeroOfQuantity : Zero α := quantity.zero

instance (priority := 50) oneOfQuantity : One α := quantity.one

instance (priority := 50) natCastOfQuantity : NatCast α := quantity.natCast

instance (priority := 50) addOfQuantity : Add α := quantity.add

instance (priority := 50) subOfQuantity : Sub α := quantity.sub

instance (priority := 50) mulOfQuantity : Mul α := quantity.mul

instance (priority := 50) divOfQuantity : Div α := quantity.div

instance (priority := 50) negOfQuantity : Neg α := quantity.neg

instance (priority := 50) ltOfQuantity : LT α := quantity.lt

instance (priority := 50) leOfQuantity : LE α := quantity.le

instance (priority := 50) beqOfQuantity : BEq α := quantity.beq

instance (priority := 50) decidableLtOfQuantity (x y : α) : Decidable (x < y) :=
  quantity.decidableLt x y

instance (priority := 50) decidableLeOfQuantity (x y : α) : Decidable (x ≤ y) :=
  quantity.decidableLe x y

end Operations

/-- Cut the fraction off a double-precision number. -/
def Decimal.wholePart? (x : Float) : Option Int :=
  match Decimal.read x with
  | .finite negative magnitude =>
      let fraction := magnitude.fraction
      let whole : Int := fraction.1 / fraction.2
      some (if negative then -whole else whole)
  | _ => none

instance : Quantity Float where
  zero := ⟨0.0⟩
  one := ⟨1.0⟩
  natCast := ⟨Float.ofNat⟩
  abs := Float.abs
  isFinite := Float.isFinite
  wholePart? := Decimal.wholePart?

instance : Quantity Rat where
  zero := ⟨0⟩
  one := ⟨1⟩
  abs x := if x < 0 then -x else x
  isFinite _ := true
  wholePart? x := some (Int.tdiv x.num x.den)

namespace Quantity

variable {α : Type} [Quantity α]

/-- The smaller of two numbers; the first one when they cannot be compared. -/
def least (x y : α) : α :=
  if y < x then y else x

/-- The larger of two numbers; the first one when they cannot be compared. -/
def greatest (x y : α) : α :=
  if x < y then y else x

/-- A number that does not equal itself stands for no value at all. -/
def isUndefined (x : α) : Bool :=
  !(x == x)

/-- A whole number, which may be negative. -/
def ofInt (n : Int) : α :=
  if n < 0 then -((n.natAbs : Nat) : α) else ((n.natAbs : Nat) : α)

end Quantity

/-- A number type with the two irrational operations of the performance ratios. -/
class Roots (α : Type) where
  sqrt : α -> α
  pow : α -> α -> α

instance : Roots Float where
  sqrt := Float.sqrt
  pow := Float.pow

end Brokerage
