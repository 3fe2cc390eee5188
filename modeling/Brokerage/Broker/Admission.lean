import Brokerage.Broker.Basic

namespace Brokerage
namespace Broker

/-!
Which orders the buying power covers.

The orders of a batch are taken in turn against the buying power that the
orders before them leave.  Only what an order adds to the absolute size of the
projected holding counts, valued at a reference price and converted to the base
currency.  An order that adds nothing, or that cannot be valued, passes.
-/

variable {α : Type} [Quantity α]

/-- Buying power that is left, and the sizes that the holdings would have. -/
structure Projection (α : Type) where
  remaining : α
  sizes : Table Asset α

/-- The state before the first order of a batch. -/
def projection (broker : Broker α) : Projection α where
  remaining := broker.ledger.buyingPower.value
  sizes := broker.ledger.positions.map fun _ position => position.size

/-- The price of the order itself: the limit, else the stop, of its leading terms. -/
def ownPrice? (terms : Terms α) : Option α :=
  terms.kind.limit? <|> terms.kind.stop?

/-- The price at which an order is valued: the event's, else its own, else the holding's. -/
def referencePrice? (broker : Broker α) (event : Event α) (terms : Terms α) : Option α :=
  (event.observation? terms.asset).map Observation.price <|> ownPrice? terms <|>
    (broker.ledger.positions.get? terms.asset).map Position.spotPrice

/-- The units by which an order enlarges the absolute size of a holding. -/
def addedUnits (current size : α) : α :=
  Quantity.greatest 0 (Quantity.abs (current + size) - Quantity.abs current)

/-- What the added units of an order cost in the base currency. -/
def cost? (broker : Broker α) (asset : Asset) (units price : α) : Except (MoneyError α) α :=
  match broker.house.rates.convert? ⟨asset.currency, units * price⟩ broker.house.base with
  | .ok amount => .ok amount.value
  | .error error => .error error

/-- Decide on one order: why it is rejected, if it is, and what is left for the next one. -/
def ruling? (broker : Broker α) (event : Event α) (projection : Projection α) (terms : Terms α) :
    Except (MoneyError α) (Option (Rejection α) × Projection α) :=
  let current := (projection.sizes.get? terms.asset).getD 0
  let units := addedUnits current terms.size
  let sizes := projection.sizes.put terms.asset (current + terms.size)
  if units == 0 then .ok (none, { projection with sizes })
  else
    match broker.referencePrice? event terms with
    | none => .ok (none, { projection with sizes })
    | some price =>
        match broker.cost? terms.asset units price with
        | .error error => .error error
        | .ok cost =>
            if projection.remaining < cost then
              .ok (some (.unaffordable cost projection.remaining broker.house.base), projection)
            else .ok (none, { remaining := projection.remaining - cost, sizes })

/-- Decide on the orders of a batch in turn; cancels cost nothing. -/
def rulings? (broker : Broker α) (event : Event α) :
    Projection α -> List (Order α) -> Except (MoneyError α) (List (Option (Rejection α)))
  | _, [] => .ok []
  | projection, order :: rest =>
      match order.leadingTerms? with
      | none =>
          match rulings? broker event projection rest with
          | .ok more => .ok (none :: more)
          | .error error => .error error
      | some terms =>
          match broker.ruling? event projection terms with
          | .error error => .error error
          | .ok (reason, projection) =>
              match rulings? broker event projection rest with
              | .ok more => .ok (reason :: more)
              | .error error => .error error

/-- The orders of a batch, each with the reason for which the buying power rejects it. -/
def admission? (broker : Broker α) (batch : List (Order α)) (event : Event α) :
    Except (MoneyError α) (List (Order α × Option (Rejection α))) :=
  if broker.house.checksBuyingPower then
    match broker.rulings? event broker.projection batch with
    | .ok reasons => .ok (batch.zip reasons)
    | .error error => .error error
  else .ok (batch.map fun order => (order, none))

end Broker
end Brokerage
