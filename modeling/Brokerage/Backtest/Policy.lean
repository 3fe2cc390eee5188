import Brokerage.Account.Snapshot
import Brokerage.Decimal.Shortest
import Brokerage.Market.Event

namespace Brokerage

/-!
Policies.

A policy answers every event with orders.  It is a function of what it has been
shown so far and of nothing else, so that it cannot look ahead.
-/

/-- An event, and the account as it stood just before it. -/
abbrev Sight (α : Type) := Event α × Account α

/-- What is ordered after sights, of which the latest comes first. -/
abbrev Policy (α : Type) := List (Sight α) -> List (Order α)

/-- Why a policy cannot be set up. -/
inductive PolicyError (α : Type) where
  | sizeNotPositive (size : α)
  deriving DecidableEq, Repr

def PolicyError.message : PolicyError Float -> String
  | .sizeNotPositive size => "size must be positive, got " ++ Decimal.text size

namespace Policy

variable {α : Type}

/-- Never trade. -/
def idle : Policy α := fun _ => []

/-- Answer the first event with the first batch, and so on; nothing follows the last one. -/
def scripted (batches : List (List (Order α))) : Policy α := fun seen =>
  match batches[seen.length - 1]? with
  | some batch => batch
  | none => []

/-- The tag of the order that buys and holds. -/
def buyAndHoldTag : String := "buy-and-hold"

/--
Buy an asset at the first event that observes it, and hold it.  Nothing is
ordered while the asset is held, while any order is open, or once the asset has
been traded.
-/
def buyAndHold (asset : Asset) (size : α) : Policy α
  | [] => []
  | (event, account) :: _ =>
      if (event.observation? asset).isNone then []
      else if account.positions.contains asset || !account.openOrders.isEmpty then []
      else if account.trades.any fun trade => decide (trade.asset = asset) then []
      else [.single { tag := buyAndHoldTag } { asset, size, kind := .market }]

/-- Buy and hold a size, which has to be positive. -/
def buyAndHold? [Quantity α] (asset : Asset) (size : α) :
    Except (PolicyError α) (Policy α) :=
  if size ≤ 0 then .error (.sizeNotPositive size) else .ok (buyAndHold asset size)

end Policy
end Brokerage
