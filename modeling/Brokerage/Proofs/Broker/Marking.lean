import Brokerage.Proofs.Account.History
import Brokerage.Proofs.Execution.FillPrice

namespace Brokerage

/-!
At which price and time an event leaves a holding.

Only what an event observes can fill at it.  A holding in an observed asset is
revalued after all fills are booked, so it bears the reference price and the
time of the event whatever its fills wrote on it; every other holding is as it
was before the event.
-/

variable {α : Type} [Quantity α]

namespace Ledger

variable {ledger : Ledger α} {event : Event α} {asset : Asset}

/-- Fills leave the holdings in other assets alone. -/
theorem get?_positions_bookAll {feeModel : FeeModel α} {time : Instant}
    {executions : List (Execution α)}
    (elsewhere : forall execution, execution ∈ executions -> execution.asset ≠ asset) :
    (ledger.bookAll feeModel time executions).positions.get? asset =
      ledger.positions.get? asset := by
  refine bookAll_induction
    (motive := fun books => books.positions.get? asset = ledger.positions.get? asset) ?_ rfl
  intro books execution listed same
  have other : ¬ (books.tradeOf execution (feeModel.fee execution) time).asset = asset :=
    elsewhere execution listed
  rw [get?_positions_book, if_neg other, same]

theorem get?_markToMarket_of_seen {observation : Observation α} {position : Position α}
    (seen : event.observation? asset = some observation)
    (held : (ledger.markToMarket event).positions.get? asset = some position) :
    position.spotPrice = observation.price ∧ position.lastUpdate = some event.time := by
  unfold markToMarket at held
  rw [Table.get?_map] at held
  rcases Option.map_eq_some_iff.mp held with ⟨old, _, same⟩
  rw [seen] at same
  cases same
  exact ⟨rfl, rfl⟩

theorem get?_markToMarket_of_unseen (unseen : event.observation? asset = none) :
    (ledger.markToMarket event).positions.get? asset = ledger.positions.get? asset := by
  unfold markToMarket
  rw [Table.get?_map, unseen, Option.map_id']

end Ledger

namespace Broker

variable {broker : Broker α} {orders : List (Order α × Option (Rejection α))} {event : Event α}
  {asset : Asset}

theorem observed_of_fills {execution : Execution α}
    (filled : execution ∈ broker.fills orders event) :
    Exists fun observation => event.observation? execution.asset = some observation :=
  Engine.observed_of_fill filled

/-- A settlement leaves a holding in an observed asset at the price and the time of the event. -/
theorem settled_position_of_seen {observation : Observation α} {position : Position α}
    (seen : event.observation? asset = some observation)
    (held : (broker.settled orders event).ledger.positions.get? asset = some position) :
    position.spotPrice = observation.price ∧ position.lastUpdate = some event.time := by
  rw [settled_positions] at held
  exact Ledger.get?_markToMarket_of_seen seen held

/-- A settlement leaves a holding in any other asset alone. -/
theorem settled_position_of_unseen (unseen : event.observation? asset = none) :
    (broker.settled orders event).ledger.positions.get? asset =
      broker.ledger.positions.get? asset := by
  rw [settled_positions, Ledger.get?_markToMarket_of_unseen unseen]
  refine Ledger.get?_positions_bookAll fun execution filled same => ?_
  rcases observed_of_fills filled with ⟨observation, seen⟩
  rw [same, unseen] at seen
  cases seen

end Broker
end Brokerage
