import Brokerage.Execution.Fee
import Brokerage.Market.Event
import Brokerage.Order.Lifecycle

namespace Brokerage

/-!
Working a single-leg order.

A worker holds the terms of an order, where the order stands, and what its
matching remembers from one event to the next: whether a stop-limit order has
been triggered, and the best price that a trailing order has seen.  An
observation is shown to a worker at most once, and an order fills for its whole
size or not at all.
-/

/-- A single-leg order that is being worked. -/
structure Worker (α : Type) where
  slip : Slip
  terms : Terms α
  life : Lifecycle := {}
  triggered : Bool := false
  reference : Option α := none

namespace Worker

variable {α : Type} [Quantity α]

def buys (worker : Worker α) : Bool :=
  worker.terms.buys

/-- What the pricing model answers for the order. -/
def priced (worker : Worker α) (pricing : Pricing α) (observation : Observation α) : α :=
  pricing.price worker.slip worker.terms observation

/-- The price of a limit order, never worse than its limit, when the range reaches the limit. -/
def limitFill? (worker : Worker α) (limit : α) (pricing : Pricing α)
    (observation : Observation α) : Option α :=
  if worker.buys then
    if observation.low ≤ limit then
      some (Quantity.least limit (worker.priced pricing observation))
    else none
  else if limit ≤ observation.high then
    some (Quantity.greatest limit (worker.priced pricing observation))
  else none

/-- A buy stop is reached from below, a sell stop from above. -/
def reachesStop (worker : Worker α) (stop : α) (observation : Observation α) : Bool :=
  if worker.buys then decide (stop ≤ observation.high) else decide (observation.low ≤ stop)

/-- The stop level that trails a reference price. -/
def trailingStop (worker : Worker α) (distance reference : α) : α :=
  if worker.buys then reference * (1 + distance) else reference * (1 - distance)

/-- The stop level of a trailing order that has seen a price. -/
def stopLevel? (worker : Worker α) : Option α :=
  match worker.terms.kind with
  | .trail distance => worker.reference.map (worker.trailingStop distance)
  | _ => none

/-- The reference moves with the favourable end of the range and never back. -/
def follow (worker : Worker α) (reference : α) (observation : Observation α) : Worker α :=
  let best :=
    if worker.buys then Quantity.least reference observation.low
    else Quantity.greatest reference observation.high
  { worker with reference := some best }

/--
Show an observation to the order: what it remembers afterwards, and the price
at which it fills, if it does.  The first observation of a trailing order only
sets its reference.
-/
def match? (worker : Worker α) (pricing : Pricing α) (observation : Observation α) :
    Worker α × Option α :=
  match worker.terms.kind with
  | .market => (worker, some (worker.priced pricing observation))
  | .limit limit => (worker, worker.limitFill? limit pricing observation)
  | .stop stop =>
      (worker,
        if worker.reachesStop stop observation then some (worker.priced pricing observation)
        else none)
  | .stopLimit stop limit =>
      let triggered := worker.triggered || worker.reachesStop stop observation
      ({ worker with triggered },
        if triggered then worker.limitFill? limit pricing observation else none)
  | .trail distance =>
      match worker.reference with
      | none => (worker.follow observation.price observation, none)
      | some reference =>
          if worker.reachesStop (worker.trailingStop distance reference) observation then
            (worker, some (worker.priced pricing observation))
          else (worker.follow reference observation, none)

/-- Change where the order stands. -/
def move (worker : Worker α) (time : Instant) (status : OrderStatus) : Worker α :=
  { worker with life := worker.life.move time status }

end Worker
end Brokerage
