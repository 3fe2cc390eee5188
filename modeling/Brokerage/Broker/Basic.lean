import Brokerage.Account.BuyingPower
import Brokerage.Account.Ledger
import Brokerage.Broker.Refusal
import Brokerage.Execution.Engine

namespace Brokerage

/-!
The broker: its settings, its books and its working set.
-/

/-- What is fixed for the whole life of a broker. -/
structure House (α : Type) [Quantity α] where
  base : Currency := "USD"
  rates : Rates α := Rates.single base
  /-- The cash that every fresh start begins with. -/
  deposit : Wallet α := Wallet.ofAmounts [⟨base, ((1000000 : Nat) : α)⟩]
  pricing : Pricing α := .reference
  feeModel : FeeModel α := .free
  model : AccountModel α := .cash 0
  /-- The time of day, when events have to be recent. -/
  clock : Option Instant := none
  maxEventAge : Duration := ⟨3600000000000⟩
  /-- Orders that the buying power does not cover are rejected. -/
  checksBuyingPower : Bool := true

/-- A broker. -/
structure Broker (α : Type) [Quantity α] where
  house : House α
  engine : Engine α
  ledger : Ledger α

/-- Why a broker cannot be set up. -/
inductive SetupError (α : Type) where
  | depositCurrency (currency : Currency)
  | money (error : MoneyError α)

namespace Broker

variable {α : Type} [Quantity α]

/-- A copy of the books. -/
def account (broker : Broker α) : Account α :=
  broker.ledger.account

/-- Work out the buying power anew; the books stay as they are when that fails. -/
def refreshBuyingPower (broker : Broker α) : Except (MoneyError α) (Broker α) :=
  match broker.house.model.buyingPower? broker.account with
  | .ok amount => .ok { broker with ledger := { broker.ledger with buyingPower := amount } }
  | .error error => .error error

/-- Empty books and working set; the initial deposit is back, the buying power not yet. -/
def emptied (broker : Broker α) : Broker α :=
  { broker with
    engine := broker.engine.clear
    ledger := broker.house.deposit.amounts.foldl
      (fun ledger amount => ledger.deposit amount.currency amount.value) broker.ledger.clear }

/-- Start afresh: the initial deposit, no orders and no history. -/
def reset (broker : Broker α) : Step (Broker α) (MoneyError α) Unit (Notice α) :=
  let emptied := broker.emptied
  match emptied.refreshBuyingPower with
  | .ok fresh =>
      { state := fresh, notices := [.brokerReset broker.house.deposit], result := .ok () }
  | .error error => { state := emptied, notices := [], result := .error error }

/-- A broker before its first start. -/
def idle (house : House α) : Broker α where
  house
  engine := {}
  ledger := Ledger.opened house.base (some house.rates)

/-- Set up a broker; every currency of the deposit needs a rate. -/
def open? (house : House α) : Except (SetupError α) (Broker α × List (Notice α)) :=
  match house.deposit.currencies.find? fun currency => !house.rates.supports currency with
  | some currency => .error (.depositCurrency currency)
  | none =>
      let started := (idle house).reset
      match started.result with
      | .ok () => .ok (started.state, started.notices)
      | .error error => .error (.money error)

end Broker

def SetupError.message : SetupError Float -> String
  | .depositCurrency currency => "No exchange rate for deposit currency " ++ currency
  | .money error => error.message

/-- The text of a broker. -/
def Broker.text (broker : Broker Float) : String :=
  "PaperBroker(" ++ broker.ledger.text ++ ")"

end Brokerage
