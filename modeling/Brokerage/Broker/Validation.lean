import Brokerage.Broker.Basic

namespace Brokerage
namespace Broker

/-!
Which batches a broker takes on.

The event must not be older than the last one, and recent if the broker has a
clock.  Every instruction must be an order that was not placed before, cancels
must name a number that has been given, and the currency of every other order
must have a rate.  The first fault found refuses the whole batch.
-/

variable {α : Type} [Quantity α]

/-- The number that an order bears already. -/
def placedNumber? (broker : Broker α) (order : Order α) : Option OrderId :=
  match order.ticket?.bind broker.engine.numbers.get? with
  | some number => some number
  | none => order.number?

/-- Whether a number has been given since the last fresh start. -/
def knows (broker : Broker α) (number : OrderId) : Bool :=
  (broker.engine.state? number).isSome || broker.ledger.orders.contains (some number)

/-- The fault of an event. -/
def eventRefusal? (broker : Broker α) (event : Event α) : Option Refusal :=
  let disorder :=
    match broker.ledger.lastUpdate with
    | some last => if event.time < last then some (.eventOutOfOrder event.time last) else none
    | none => none
  let staleness :=
    match broker.house.clock with
    | some now =>
        if event.time < now.before broker.house.maxEventAge then
          some (.staleEvent event.time broker.house.maxEventAge now)
        else none
    | none => none
  disorder <|> staleness

/-- The first leg of an order that is no single-leg order. -/
def legRefusal? (order : Order α) : Option Refusal :=
  (order.legs.find? fun leg => !leg.isSingle).map fun leg => .unsupportedLeg leg.typeName

/-- The fault of one instruction, given the tickets that stand before it in its batch. -/
def instructionRefusal? (broker : Broker α) (seen : List Ticket) (order : Order α) :
    Option Refusal :=
  if !order.isOrder then some (.unsupportedInstruction order.typeName)
  else
    let repeated :=
      match order.ticket? with
      | some ticket => seen.contains ticket
      | none => false
    let placed := broker.placedNumber? order
    let duplicate :=
      if placed.isSome || repeated then some (Refusal.duplicateOrder order.typeName placed)
      else none
    let target :=
      match order with
      | .cancel _ target => if broker.knows target then none else some (Refusal.unknownOrder target)
      | _ =>
          match order.asset? with
          | some asset =>
              if broker.house.rates.supports asset.currency then none
              else some (.unsupportedCurrency asset broker.house.base)
          | none => none
    legRefusal? order <|> duplicate <|> target

/-- The first fault in a list of instructions. -/
def instructionsRefusal? (broker : Broker α) :
    (seen : List Ticket) -> List (Order α) -> Option Refusal
  | _, [] => none
  | seen, order :: rest =>
      match broker.instructionRefusal? seen order with
      | some refusal => some refusal
      | none => instructionsRefusal? broker (order.ticket?.toList ++ seen) rest

/-- The first fault of a batch. -/
def refusal? (broker : Broker α) (batch : List (Order α)) (event : Event α) : Option Refusal :=
  broker.eventRefusal? event <|> broker.instructionsRefusal? [] batch

end Broker
end Brokerage
