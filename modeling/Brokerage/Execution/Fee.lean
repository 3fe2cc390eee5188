import Brokerage.Execution.Pricing

namespace Brokerage

/-!
Fills and what they cost.
-/

/-- One fill: an order, the signed quantity it filled for, and the price. -/
structure Execution (α : Type) where
  order : Order α
  asset : Asset
  quantity : α
  price : α

namespace Execution

variable {α : Type} [Quantity α]

/-- Signed value of the traded quantity. -/
def value (execution : Execution α) : α :=
  execution.quantity * execution.price

/-- The execution of an order that has an asset. -/
def of? (order : Order α) (quantity price : α) : Option (Execution α) :=
  order.asset?.map fun asset => { order, asset, quantity, price }

end Execution

/-- What is charged for a fill, in the currency of the asset. -/
inductive FeeModel (α : Type) where
  | free
  /-- Basis points of the traded value. -/
  | percentage (bps : α)
  /-- The same for every fill. -/
  | fixed (perTrade : α)
  /-- Any other rule. -/
  | custom (rule : Execution α -> α)

namespace FeeModel

variable {α : Type} [Quantity α]

def percentage? (bps : α) : Except (ParameterError α) (FeeModel α) :=
  if bps < 0 then .error (.negative "fee_bps" bps) else .ok (.percentage bps)

def fixed? (perTrade : α) : Except (ParameterError α) (FeeModel α) :=
  if perTrade < 0 then .error (.negative "per_trade" perTrade) else .ok (.fixed perTrade)

/-- The fee for a fill. -/
def fee (model : FeeModel α) (execution : Execution α) : α :=
  match model with
  | free => 0
  | percentage bps => Quantity.abs execution.value * bps / ((10000 : Nat) : α)
  | fixed perTrade => perTrade
  | custom rule => rule execution

/-- The name of the model. -/
def name : FeeModel α -> String
  | free => "NoFee"
  | percentage _ => "PercentageFee"
  | fixed _ => "FixedFee"
  | custom _ => "FeeModel"

end FeeModel
end Brokerage
