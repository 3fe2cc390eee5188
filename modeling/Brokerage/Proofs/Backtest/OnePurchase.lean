import Brokerage.Proofs.Backtest.Orderly
import Brokerage.Proofs.Broker.FirstPurchase

namespace Brokerage

/-!
Buying and holding makes one purchase at most.

The policy sees snapshots of an account, and the account answers to what the
policy orders.  Up to the purchase the account has not traded and nothing is at
work, so the policy asks again at every event that observes the asset.  Each of
these orders is turned away or fills at once.  From then on the account holds
the asset, and the policy asks for nothing any more.  No law of arithmetic is
needed for this.
-/

variable {α : Type} [Quantity α]

namespace Backtest

/-! ## What the policy orders -/

/-- What is ordered at an event while the purchase is still to come. -/
def bids (asset : Asset) (size : α) (event : Event α) : List (Order α) :=
  if (event.observation? asset).isSome then
    [.single { tag := Policy.buyAndHoldTag } (.atMarket asset size)]
  else []

section Orders

variable {house : House α} {asset : Asset} {size : α} {time : Instant}
  {orders : List (OrderState α)} {progress : Progress α}

/-- As long as nothing is traded and nothing is open, the policy asks again. -/
theorem orders_of_unspent (unspent : progress.broker.Unspent house orders) (event : Event α) :
    (progress.call (.buyAndHold asset size) event).orders = bids asset size event := by
  rcases unspent.reached.recorded with ⟨count, recorded⟩
  have unlisted := unspent.rests.openOrders recorded
  change Policy.buyAndHold asset size ((event, progress.broker.account) :: progress.shown) = _
  rw [Policy.buyAndHold, bids]
  cases event.observation? asset with
  | none => rfl
  | some _ =>
      rw [unspent.untraded.flat, unlisted, unspent.untraded.none_booked]
      rfl

/-- Once the asset is held, the policy asks for nothing. -/
theorem orders_of_invested (invested : progress.broker.Invested house asset size time orders)
    (event : Event α) : (progress.call (.buyAndHold asset size) event).orders = [] := by
  rcases invested.bought.held with ⟨position, entries, -⟩
  have held : progress.broker.account.positions.contains asset = true := by
    rw [Table.contains_iff, Table.keys, entries]
    exact List.mem_singleton.mpr rfl
  change Policy.buyAndHold asset size ((event, progress.broker.account) :: progress.shown) = _
  rw [Policy.buyAndHold, held]
  split <;> rfl

end Orders

/-! ## One event -/

/-- A backtest that has not traded, or holds its only purchase. -/
inductive Buys (house : House α) (asset : Asset) (size : α) (broker : Broker α) : Prop where
  | yet {orders : List (OrderState α)} (unspent : broker.Unspent house orders)
  | once {time : Instant} {orders : List (OrderState α)}
    (invested : broker.Invested house asset size time orders)

section Runs

variable {house : House α} {asset : Asset} {size : α} {time : Instant}
  {orders : List (OrderState α)} {progress last : Progress α} {event : Event α}
  {events : List (Event α)}

theorem invested_of_played (invested : progress.broker.Invested house asset size time orders)
    (played : Played (.buyAndHold asset size) progress event last) :
    last.broker.Invested house asset size time orders := by
  rcases played.answer with ⟨numbers, placed⟩
  rw [played.broker]
  rw [orders_of_invested invested] at placed ⊢
  exact invested.place_nil placed

theorem Buys.of_played [Opposites α] (some_size : (size == 0) = false)
    (finite : Quantity.isFinite size = true) (buys : Buys house asset size progress.broker)
    (played : Played (.buyAndHold asset size) progress event last) :
    Buys house asset size last.broker := by
  cases buys with
  | once invested => exact .once (invested_of_played invested played)
  | yet unspent =>
      rcases played.answer with ⟨numbers, placed⟩
      rw [played.broker]
      rw [orders_of_unspent unspent] at placed ⊢
      unfold bids at placed ⊢
      cases seen : event.observation? asset with
      | none =>
          rw [seen] at placed
          exact .yet (unspent.place_nil placed)
      | some observation =>
          rw [seen] at placed
          rcases Broker.settled_of_placed placed with ⟨batch, -, decided, -⟩
          have alone := Broker.orders_of_admission? decided
          rcases List.map_eq_singleton_iff.mp alone with ⟨⟨order, reason⟩, rfl, same⟩
          cases same
          cases reason with
          | none => exact .once (unspent.place_filled rfl placed some_size finite seen decided)
          | some reason =>
              rcases unspent.place_refused rfl placed decided with ⟨state, -, still⟩
              exact .yet still

/-! ## Many events -/

/-- Playing events leaves an account that has bought once at most. -/
theorem Buys.of_playAll? [Opposites α] (some_size : (size == 0) = false)
    (finite : Quantity.isFinite size = true) (buys : Buys house asset size progress.broker)
    (plays : playAll? (.buyAndHold asset size) progress events = .ok last) :
    Buys house asset size last.broker :=
  (kept_of_playAll? (Buys house asset size)
    (fun _ _ _ _ buys played => buys.of_played some_size finite played) buys plays).1

omit [Quantity α] in
/-- All that is held has the size of the purchase. -/
theorem size_of_holdsOnly {positions : Table Asset (Position α)}
    (held : HoldsOnly asset size positions) {position : Position α}
    (listed : position ∈ positions.values) : position.size = size := by
  rcases held with ⟨only, entries, sized⟩
  rw [Table.values, entries, List.map_singleton, List.mem_singleton] at listed
  rw [listed]
  exact sized

theorem Buys.size_eq {broker : Broker α} (buys : Buys house asset size broker)
    {position : Position α} (listed : position ∈ broker.ledger.positions.values) :
    position.size = size := by
  cases buys with
  | once invested => exact size_of_holdsOnly invested.bought.held listed
  | yet unspent =>
      have flat : broker.ledger.positions = Table.empty := unspent.untraded.flat
      rw [flat] at listed
      cases listed

/-- What was bought is held to the end, and nothing more is ordered. -/
theorem invested_of_playAll? (invested : progress.broker.Invested house asset size time orders)
    (plays : playAll? (.buyAndHold asset size) progress events = .ok last) :
    (calls (.buyAndHold asset size) progress events).map Call.orders = events.map (fun _ => []) ∧
      last.broker.Invested house asset size time orders ∧
      Exists fun snapshots : List (Account α) =>
        last.history = snapshots.reverse ++ progress.history ∧
          forall account, account ∈ snapshots -> account.Bought asset size time orders := by
  let holds := Broker.Invested house asset size time orders
  have keeps (progress next : Progress α) (event : Event α) (_ : event ∈ events) :
      holds progress.broker -> Played (.buyAndHold asset size) progress event next ->
        holds next.broker := invested_of_played
  rcases kept_of_playAll? holds keeps invested plays with ⟨held, snapshots, -, history, shown⟩
  refine ⟨orders_calls_of_kept holds keeps invested plays fun _ event held =>
    orders_of_invested held event, held, snapshots, history, fun account listed => ?_⟩
  rcases shown account listed with ⟨broker, kept, rfl⟩
  exact kept.bought

end Runs
end Backtest
end Brokerage
