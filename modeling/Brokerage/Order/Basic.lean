import Brokerage.Market.Asset
import Brokerage.Order.TimeInForce
import Brokerage.Quantity
import Brokerage.Table

namespace Brokerage

/-!
Orders.

A single-leg order has terms of its own; a bracket joins an entry with two
exits; a cancel names another order.  An order is written on a slip.  The slip
may bear a ticket, by which the one who placed the order recognises it again,
and it bears a number once the order has been registered.  A slip without a
ticket is a new order each time it is handed in.
-/

/-- The number under which an order is registered. -/
abbrev OrderId := Int

/-- What tells one order slip from another one with the same terms. -/
abbrev Ticket := Nat

/-- The conditions of the single-leg orders. -/
inductive OrderKind (α : Type) where
  /-- Fill at the next price. -/
  | market
  /-- Fill at the limit or better. -/
  | limit (limit : α)
  /-- Fill at the next price once the stop is reached. -/
  | stop (stop : α)
  /-- Become a limit order once the stop is reached. -/
  | stopLimit (stop limit : α)
  /-- A stop that follows the best price at a distance given as a share of it. -/
  | trail (distance : α)
  deriving DecidableEq, Repr

/-- The terms of a single-leg order; a positive size buys, a negative one sells. -/
structure Terms (α : Type) where
  asset : Asset
  size : α
  kind : OrderKind α
  tif : TimeInForce := .goodTillCancelled
  deriving DecidableEq, Repr

/-- What an order is written on. -/
structure Slip where
  ticket : Option Ticket := none
  number : Option OrderId := none
  tag : String := ""
  deriving DecidableEq, Repr

/-- Everything that can be handed in as an order, or as a leg of one. -/
inductive Order (α : Type) where
  | single (slip : Slip) (terms : Terms α)
  /-- An entry, and two exits that go live when it fills and cancel each other. -/
  | bracket (slip : Slip) (entry takeProfit stopLoss : Order α)
  /-- Cancel the order with a number. -/
  | cancel (slip : Slip) (target : OrderId)
  /-- No order at all; only the name of its type is known. -/
  | foreign (typeName : String)
  deriving Repr

namespace OrderKind

variable {α : Type}

/-- The name that messages give to orders of this kind. -/
def typeName : OrderKind α -> String
  | market => "MarketOrder"
  | limit _ => "LimitOrder"
  | stop _ => "StopOrder"
  | stopLimit .. => "StopLimitOrder"
  | trail _ => "TrailOrder"

/-- The limit price of the kinds that have one. -/
def limit? : OrderKind α -> Option α
  | limit price => some price
  | stopLimit _ price => some price
  | _ => none

/-- The fixed stop price of the kinds that have one. -/
def stop? : OrderKind α -> Option α
  | stop price => some price
  | stopLimit price _ => some price
  | _ => none

end OrderKind

namespace Terms

variable {α : Type} [Quantity α]

def buys (terms : Terms α) : Bool :=
  decide (0 < terms.size)

def sells (terms : Terms α) : Bool :=
  decide (terms.size < 0)

/-- One for a buy; minus one for everything else. -/
def direction (terms : Terms α) : Int :=
  if terms.buys then 1 else -1

end Terms

namespace Order

variable {α : Type}

/-- The name that messages give to the type of what was handed in. -/
def typeName : Order α -> String
  | single _ terms => terms.kind.typeName
  | bracket .. => "BracketOrder"
  | cancel .. => "CancelOrder"
  | foreign typeName => typeName

def slip? : Order α -> Option Slip
  | single slip _ => some slip
  | bracket slip .. => some slip
  | cancel slip _ => some slip
  | foreign _ => none

def ticket? (order : Order α) : Option Ticket :=
  order.slip?.bind Slip.ticket

def number? (order : Order α) : Option OrderId :=
  order.slip?.bind Slip.number

/-- The terms that decide asset, size and time in force; those of the entry for a bracket. -/
def leadingTerms? : Order α -> Option (Terms α)
  | single _ terms => some terms
  | bracket _ entry _ _ => entry.leadingTerms?
  | cancel .. => none
  | foreign _ => none

def asset? (order : Order α) : Option Asset :=
  order.leadingTerms?.map Terms.asset

def size? (order : Order α) : Option α :=
  order.leadingTerms?.map Terms.size

/-- Whether it is an order of one of the kinds that the library knows. -/
def isOrder : Order α -> Bool
  | foreign _ => false
  | _ => true

def isSingle : Order α -> Bool
  | single .. => true
  | _ => false

def isCancel : Order α -> Bool
  | cancel .. => true
  | _ => false

/-- The three legs of a bracket. -/
def legs : Order α -> List (Order α)
  | bracket _ entry takeProfit stopLoss => [entry, takeProfit, stopLoss]
  | _ => []

/-- A slip shows the number that its ticket has been given. -/
def numberedSlip (numbers : Table Ticket OrderId) (slip : Slip) : Slip :=
  match slip.ticket.bind numbers.get? with
  | some number => { slip with number := some number }
  | none => slip

/-- All slips of an order show the numbers that their tickets have been given. -/
def numbered (numbers : Table Ticket OrderId) : Order α -> Order α
  | single slip terms => single (numberedSlip numbers slip) terms
  | bracket slip entry takeProfit stopLoss =>
      bracket (numberedSlip numbers slip) (entry.numbered numbers) (takeProfit.numbered numbers)
        (stopLoss.numbered numbers)
  | cancel slip target => cancel (numberedSlip numbers slip) target
  | foreign typeName => foreign typeName

/-- Write a number on the slip of the order itself. -/
def withNumber (number : OrderId) : Order α -> Order α
  | single slip terms => single { slip with number := some number } terms
  | bracket slip entry takeProfit stopLoss =>
      bracket { slip with number := some number } entry takeProfit stopLoss
  | cancel slip target => cancel { slip with number := some number } target
  | foreign typeName => foreign typeName

end Order
end Brokerage
