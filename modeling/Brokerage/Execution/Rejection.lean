import Brokerage.Decimal.Fixed
import Brokerage.Money.Amount
import Brokerage.Order.Validation

namespace Brokerage

/-- Why an order is refused when it is registered. -/
inductive Rejection (α : Type) where
  /-- The order itself cannot be worked. -/
  | unworkable (cause : Defect α)
  /-- The account cannot carry the exposure that the order would add. -/
  | unaffordable (needs has : α) (currency : Currency)
  /-- A reason that the one who registers the order states. -/
  | stated (reason : String)
  deriving Repr

namespace Rejection

/-- A stated reason; an empty one is none. -/
def stated? {α : Type} (reason : String) : Option (Rejection α) :=
  if reason.isEmpty then none else some (.stated reason)

def message : Rejection Float -> String
  | .unworkable cause => cause.message
  | .unaffordable needs has currency =>
      "insufficient buying power: needs " ++ Decimal.money.text needs ++ " " ++ currency ++
        ", has " ++ Decimal.money.text has
  | .stated reason => reason

end Rejection
end Brokerage
