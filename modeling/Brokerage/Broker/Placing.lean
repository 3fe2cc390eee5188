import Brokerage.Broker.Admission
import Brokerage.Broker.Validation

namespace Brokerage
namespace Broker

/-!
Placing a batch of orders, and winding an account up.
-/

variable {α : Type} [Quantity α]

/-- Register orders one after the other, each with the reason for its rejection if there is one. -/
def registerAll (engine : Engine α) (time : Instant) :
    List (Order α × Option (Rejection α)) ->
      Step (Engine α) NotWorkable (List OrderId) (Notice α)
  | [] => { state := engine, notices := [], result := .ok [] }
  | (order, reason) :: rest =>
      let number := engine.nextId
      let first := engine.register order time reason
      match first.result with
      | .error error => { state := first.state, notices := first.notices, result := .error error }
      | .ok _ =>
          let others := registerAll first.state time rest
          { state := others.state
            notices := first.notices ++ others.notices
            result := others.result.map (number :: ·) }

/-- Book one fill and report it. -/
def bookFill (house : House α) (time : Instant) (books : Ledger α × List (Notice α))
    (execution : Execution α) : Ledger α × List (Notice α) :=
  let trade := books.1.tradeOf execution (house.feeModel.fee execution) time
  (books.1.book trade,
    books.2 ++ [.filled trade.orderId trade.asset.symbol trade.size trade.price trade.fee trade.pnl])

/-- Match the working set against an event and book everything that follows from it. -/
def settle (broker : Broker α) (event : Event α) : Broker α × List (Notice α) :=
  let (engine, executions, expiries) := broker.engine.execute broker.house.pricing event
  let (booked, fills) := executions.foldl (bookFill broker.house event.time) (broker.ledger, [])
  let recorded := (booked.putOrders engine.states).markToMarket event
  ({ broker with
      engine := engine.removeClosed
      ledger := { recorded with lastUpdate := some event.time } },
    expiries ++ fills)

/--
Place a batch against an event.  A refused batch leaves the broker as it was;
otherwise the orders are registered, all open orders are matched, every fill is
booked, and the buying power is worked out anew.  The answer lists the numbers
of the orders.
-/
def place (broker : Broker α) (batch : List (Order α)) (event : Event α) :
    Step (Broker α) (BrokerError α) (List OrderId) (Notice α) :=
  match broker.refusal? batch event with
  | some refusal => { state := broker, notices := [], result := .error (.refused refusal) }
  | none =>
      let placing : Notice α := .placing batch.length event.time
      match broker.admission? batch event with
      | .error error => { state := broker, notices := [placing], result := .error (.money error) }
      | .ok orders =>
          let registered := registerAll broker.engine event.time orders
          match registered.result with
          | .error error =>
              { state := { broker with engine := registered.state }
                notices := placing :: registered.notices
                result := .error (.notWorkable error) }
          | .ok numbers =>
              let (settled, notices) := { broker with engine := registered.state }.settle event
              let notices := placing :: registered.notices ++ notices
              match settled.refreshBuyingPower with
              | .ok placed => { state := placed, notices, result := .ok numbers }
              | .error error => { state := settled, notices, result := .error (.money error) }

/-- The tag of the orders that wind an account up. -/
def liquidationTag : String := "liquidation"

/-- Cancels of all open orders, and market orders that close all holdings. -/
def closingOrders (broker : Broker α) : List (Order α) :=
  broker.engine.openIds.map (fun number => .cancel { tag := liquidationTag } number) ++
    broker.ledger.positions.values.map fun position =>
      .single { tag := liquidationTag }
        { asset := position.asset, size := -position.size, kind := .market }

/-- The event at which every holding is traded at its last price. -/
def closingEvent (broker : Broker α) (time : Instant) : Event α where
  time
  prices := broker.ledger.positions.map fun asset position =>
    .trade asset position.spotPrice none

/--
Cancel all open orders and close all holdings at their last prices, at the
given time or else at the time of the last event.  An account with nothing open
is left alone.
-/
def liquidate (broker : Broker α) (time : Option Instant) :
    Step (Broker α) (BrokerError α) (List OrderId) (Notice α) :=
  let orders := broker.engine.openIds.length
  let positions := broker.ledger.positions.size
  match time <|> broker.ledger.lastUpdate with
  | none => { state := broker, notices := [], result := .ok [] }
  | some time =>
      if orders = 0 && positions = 0 then { state := broker, notices := [], result := .ok [] }
      else
        let placed := broker.place broker.closingOrders (broker.closingEvent time)
        { placed with notices := .liquidating time orders positions :: placed.notices }

end Broker
end Brokerage
