import Brokerage.Proofs.Account.History
import Brokerage.Proofs.Broker.Answer
import Brokerage.Proofs.Broker.Resting
import Brokerage.Proofs.Quantity.Opposite

namespace Brokerage

/-!
The first purchase of an account.

An account that has not traded is asked to buy one asset at the market, with
nothing else at work.  The order is turned away before it is worked, or else it
fills at once at an event that observes the asset; then the purchase is all that
is held, and its trade is the only one.  Without orders, either account stays
what it is.
-/

variable {α : Type} [Quantity α]

/-- A purchase, or a sale, at the next price. -/
def Terms.atMarket (asset : Asset) (size : α) : Terms α where
  asset
  size
  kind := .market

theorem Terms.defect?_atMarket {size : α} (some_size : (size == 0) = false)
    (finite : Quantity.isFinite size = true) (asset : Asset) :
    (atMarket asset size).defect? = none := by
  unfold defect?
  simp only [atMarket, some_size, finite]
  rfl

/-- An order to buy at the market that was over, in a status, at a time. -/
structure OrderState.Purchase (asset : Asset) (size : α) (status : OrderStatus) (time : Instant)
    (state : OrderState α) : Prop where
  terms : state.order.leadingTerms? = some (.atMarket asset size)
  status : state.status = status
  closed : state.closedAt = some time

/-- One asset is held, at a size, and nothing else. -/
def HoldsOnly (asset : Asset) (size : α) (positions : Table Asset (Position α)) : Prop :=
  Exists fun position => positions.entries = [(asset, position)] ∧ position.size = size

/-- An account that has not traded; its orders so far. -/
structure Account.Untraded (account : Account α) (orders : List (OrderState α)) : Prop where
  flat : account.positions = Table.empty
  none_booked : account.trades = []
  orders : account.orders = orders

/-- An account that has bought once and holds what it bought; its orders before that one. -/
structure Account.Bought (account : Account α) (asset : Asset) (size : α) (time : Instant)
    (orders : List (OrderState α)) : Prop where
  held : HoldsOnly asset size account.positions
  traded : Exists fun trade => Exists fun state =>
    account.trades = [trade] ∧ account.orders = orders ++ [state] ∧
      (trade.asset = asset ∧ trade.size = size ∧ trade.time = time ∧
        trade.orderId = state.number?) ∧
      state.Purchase asset size .completed time

namespace Ledger

/-- The first trade of flat books is what they hold. -/
theorem holdsOnly_book [Opposites α] {ledger : Ledger α} (flat : ledger.positions = Table.empty)
    {trade : Trade α} (traded : (trade.size == 0) = false) :
    HoldsOnly trade.asset trade.size (ledger.book trade).positions := by
  let fill := Position.ofFill trade.asset trade.size trade.price trade.time
  let merged := (Position.flat trade.asset).merge fill
  have size : merged.size = trade.size := by
    rw [Position.size_merge]
    exact if_pos Opposites.zero_beq
  have filled : ¬ merged.isFlat = true := by
    rw [Position.isFlat, size, traded]
    exact Bool.false_ne_true
  have position : ledger.position trade.asset = Position.flat trade.asset := by
    rw [position, flat]
    rfl
  refine ⟨merged, ?_, size⟩
  change (if ((ledger.position trade.asset).merge fill).isFlat then
      ledger.positions.erase trade.asset
    else ledger.positions.put trade.asset ((ledger.position trade.asset).merge fill)).entries = _
  rw [position, if_neg filled, flat]
  rfl

/-- Nothing that is held has no value. -/
theorem flat_markToMarket {ledger : Ledger α} (flat : ledger.positions = Table.empty)
    (event : Event α) : (ledger.markToMarket event).positions = Table.empty := by
  rw [markToMarket, flat]
  rfl

/-- The values of holdings change with the prices, their sizes do not. -/
theorem holdsOnly_markToMarket {ledger : Ledger α} {asset : Asset} {size : α}
    (held : HoldsOnly asset size ledger.positions) (event : Event α) :
    HoldsOnly asset size (ledger.markToMarket event).positions := by
  rcases held with ⟨position, entries, sized⟩
  unfold HoldsOnly markToMarket
  simp only [Table.entries_map, entries, List.map_singleton]
  refine ⟨_, rfl, ?_⟩
  cases event.observation? asset <;> exact sized

end Ledger

namespace Broker

section Books

variable {broker : Broker α} {orders : List (OrderState α)} (amount : Amount α)

/-- An account has not traded when the books hold nothing and list no trade. -/
theorem untraded_withBuyingPower (flat : broker.ledger.positions = Table.empty)
    (none_booked : broker.ledger.trades = []) (listed : broker.ledger.orders.values = orders) :
    (broker.withBuyingPower amount).account.Untraded orders :=
  ⟨flat, none_booked, listed⟩

/-- An account has bought when the books hold the purchase and list one trade, its own. -/
theorem bought_withBuyingPower {asset : Asset} {size : α} {time : Instant}
    (held : HoldsOnly asset size broker.ledger.positions) {trade : Trade α}
    (traded : broker.ledger.trades = [trade]) {state : OrderState α}
    (listed : broker.ledger.orders.values = orders ++ [state])
    (itself : trade.asset = asset ∧ trade.size = size ∧ trade.time = time ∧
      trade.orderId = state.number?)
    (completed : state.Purchase asset size .completed time) :
    (broker.withBuyingPower amount).account.Bought asset size time orders :=
  ⟨held, trade, state, traded, listed, itself, completed⟩

end Books

/-- A broker that has not traded yet, with nothing at work. -/
structure Unspent (house : House α) (orders : List (OrderState α)) (broker : Broker α) :
    Prop where
  reached : Reachable house broker
  rests : broker.Rests
  untraded : broker.account.Untraded orders

/-- A broker that has bought once, with nothing at work. -/
structure Invested (house : House α) (asset : Asset) (size : α) (time : Instant)
    (orders : List (OrderState α)) (broker : Broker α) : Prop where
  reached : Reachable house broker
  rests : broker.Rests
  bought : broker.account.Bought asset size time orders

variable {house : House α} {broker : Broker α} {orders : List (OrderState α)} {event : Event α}
  {numbers : List OrderId} {asset : Asset} {size : α} {time : Instant}

/-- A broker that was just opened has not traded. -/
theorem unspent_of_opened {start : Broker α} {notices : List (Notice α)}
    (opened : open? house = .ok (start, notices)) : start.Unspent house [] := by
  rcases opened_repriced opened with ⟨amount, same⟩
  have books := (idle house).emptied_ledger
  refine ⟨.opened opened, ?_, ?_⟩
  · rw [same]
    rfl
  · rw [same]
    exact untraded_withBuyingPower amount (congrArg Ledger.positions books)
      (congrArg Ledger.trades books) (congrArg (fun ledger => ledger.orders.values) books)

/-- An event without orders leaves a broker that has not traded, with the orders that it had. -/
theorem Unspent.place_nil (unspent : broker.Unspent house orders)
    (placed : (broker.place [] event).result = .ok numbers) :
    (broker.place [] event).state.Unspent house orders := by
  have reached : Reachable house (broker.place [] event).state :=
    unspent.reached.after (.place [] event)
  rcases unspent.rests.place_nil unspent.reached placed with
    ⟨settled, amount, same, rests, kept, trades, positions⟩
  have flat := positions.trans (Ledger.flat_markToMarket unspent.untraded.flat event)
  have listed := (congrArg Table.values kept).trans unspent.untraded.orders
  rw [same] at reached ⊢
  exact ⟨reached, rests,
    untraded_withBuyingPower amount flat (trades.trans unspent.untraded.none_booked) listed⟩

/-- What was bought is held on when an event comes without orders. -/
theorem Invested.place_nil (invested : broker.Invested house asset size time orders)
    (placed : (broker.place [] event).result = .ok numbers) :
    (broker.place [] event).state.Invested house asset size time orders := by
  have reached : Reachable house (broker.place [] event).state :=
    invested.reached.after (.place [] event)
  rcases invested.rests.place_nil invested.reached placed with
    ⟨settled, amount, same, rests, kept, trades, positions⟩
  rcases invested.bought.traded with ⟨trade, state, booked, listed, itself, completed⟩
  have held : HoldsOnly asset size settled.ledger.positions := by
    rw [positions]
    exact Ledger.holdsOnly_markToMarket invested.bought.held event
  rw [same] at reached ⊢
  exact ⟨reached, rests, bought_withBuyingPower amount held (trades.trans booked)
    ((congrArg Table.values kept).trans listed) itself completed⟩

/-! ## One purchase -/

section Purchase

variable (unspent : broker.Unspent house orders) {slip : Slip} (ticketless : slip.ticket = none)
  (placed : (broker.place [.single slip (.atMarket asset size)] event).result = .ok numbers)
include unspent ticketless placed

/-- A purchase that is turned away is rejected, and nothing else changes. -/
theorem Unspent.place_refused {reason : Rejection α}
    (ruled : broker.admission? [.single slip (.atMarket asset size)] event =
      .ok [(.single slip (.atMarket asset size), some reason)]) :
    Exists fun state : OrderState α => state.Purchase asset size .rejected event.time ∧
      (broker.place [.single slip (.atMarket asset size)] event).state.Unspent house
        (orders ++ [state]) := by
  have reached : Reachable house (broker.place [.single slip (.atMarket asset size)] event).state :=
    unspent.reached.after (.place _ event)
  rcases unspent.rests.place_single unspent.reached placed ruled
    (Engine.register_refused broker.engine ticketless event.time reason)
    (Engine.turn_of_closed rfl broker.house.pricing event) rfl rfl with
    ⟨settled, amount, same, rests, values, trades, positions⟩
  rw [Ledger.bookAll, List.foldl_nil] at trades positions
  have flat := positions.trans (Ledger.flat_markToMarket unspent.untraded.flat event)
  have none_booked := trades.trans unspent.untraded.none_booked
  have earlier : broker.ledger.orders.values = orders := unspent.untraded.orders
  rw [earlier] at values
  refine ⟨(Executor.single (Engine.refusedWorker slip (.atMarket asset size)
    broker.engine.nextId event.time)).state, ⟨rfl, rfl, rfl⟩, ?_⟩
  rw [same] at reached ⊢
  exact ⟨reached, rests, untraded_withBuyingPower amount flat none_booked values⟩

/-- A purchase that is not turned away fills at once, and is all that is held. -/
theorem Unspent.place_filled [Opposites α] (some_size : (size == 0) = false)
    (finite : Quantity.isFinite size = true) {observation : Observation α}
    (seen : event.observation? asset = some observation)
    (ruled : broker.admission? [.single slip (.atMarket asset size)] event =
      .ok [(.single slip (.atMarket asset size), none)]) :
    (broker.place [.single slip (.atMarket asset size)] event).state.Invested house asset size
      event.time orders := by
  have reached : Reachable house (broker.place [.single slip (.atMarket asset size)] event).state :=
    unspent.reached.after (.place _ event)
  have sound := Terms.defect?_atMarket some_size finite asset
  let worker := Engine.acceptedWorker slip (.atMarket asset size) broker.engine.nextId event.time
  have turned := Engine.turn_market broker.house.pricing worker rfl rfl rfl seen
  rcases unspent.rests.place_single unspent.reached placed ruled
    (Engine.register_accepted broker.engine ticketless sound event.time) turned rfl rfl with
    ⟨settled, amount, same, rests, values, trades, positions⟩
  let execution := (Executor.single worker).fillOf size
    (worker.priced broker.house.pricing observation)
  let trade := broker.ledger.tradeOf execution (broker.house.feeModel.fee execution) event.time
  have booked : broker.ledger.bookAll broker.house.feeModel event.time
      [(Executor.single worker).fillOf worker.terms.size
        (worker.priced broker.house.pricing observation)] = broker.ledger.book trade := rfl
  rw [booked] at trades positions
  have held : HoldsOnly asset size settled.ledger.positions := by
    rw [positions]
    exact Ledger.holdsOnly_markToMarket (Ledger.holdsOnly_book unspent.untraded.flat some_size)
      event
  have none_booked : broker.ledger.trades = [] := unspent.untraded.none_booked
  have only : (broker.ledger.book trade).trades = [trade] := by
    rw [Ledger.book, none_booked]
    rfl
  have earlier : broker.ledger.orders.values = orders := unspent.untraded.orders
  rw [earlier] at values
  rw [same] at reached ⊢
  exact ⟨reached, rests, bought_withBuyingPower amount held (trades.trans only) values
    ⟨rfl, rfl, rfl, rfl⟩ ⟨rfl, rfl, rfl⟩⟩

end Purchase
end Broker
end Brokerage
