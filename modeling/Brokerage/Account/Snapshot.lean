import Brokerage.Account.Position
import Brokerage.Money.Rates
import Brokerage.Money.Wallet
import Brokerage.Order.Lifecycle

namespace Brokerage

/-!
What is shown of an account.

An account is a copy of the books at one moment.  Its totals are converted to
the base currency: cash entry by entry, holdings after they have been added up
within each currency.
-/

/-- A copy of the books of an account. -/
structure Account (α : Type) where
  base : Currency
  lastUpdate : Option Instant
  cash : Table Currency α
  positions : Table Asset (Position α)
  orders : List (OrderState α)
  trades : List (Trade α)
  buyingPower : Amount α
  rates : Rates α

namespace Account

variable {α : Type}

def openOrders (account : Account α) : List (OrderState α) :=
  account.orders.filter fun state => state.toLifecycle.isOpen

def closedOrders (account : Account α) : List (OrderState α) :=
  account.orders.filter fun state => state.toLifecycle.isClosed

/-- The first order that bears a number. -/
def order? (account : Account α) (number : OrderId) : Option (OrderState α) :=
  account.orders.find? fun state => state.number? == some number

def position? (account : Account α) (asset : Asset) : Option (Position α) :=
  account.positions.get? asset

variable [Quantity α]

/-- All cash in the base currency. -/
def cashAmount? (account : Account α) : Except (MoneyError α) (Amount α) :=
  account.rates.convertAll? account.cash account.base

/-- A figure of the holdings, added up within each currency. -/
def byCurrency (account : Account α) (figure : Position α -> α) : Table Currency α :=
  account.positions.values.foldl
    (fun totals position =>
      let currency := position.asset.currency
      totals.put currency ((totals.get? currency).getD 0 + figure position))
    Table.empty

/-- What all holdings are worth, in the base currency. -/
def marketValue? (account : Account α) : Except (MoneyError α) (Amount α) :=
  account.rates.convertAll? (account.byCurrency Position.marketValue) account.base

/-- The unrealized profit of all holdings, in the base currency. -/
def unrealizedPnl? (account : Account α) : Except (MoneyError α) (Amount α) :=
  account.rates.convertAll? (account.byCurrency Position.unrealizedPnl) account.base

/-- Cash and holdings together. -/
def equity? (account : Account α) : Except (MoneyError α) (Amount α) :=
  match account.cashAmount? with
  | .error error => .error error
  | .ok cash =>
      match account.marketValue? with
      | .error error => .error error
      | .ok held => cash.add held

end Account
end Brokerage
