import Brokerage.Proofs.Account.Profit
import Brokerage.Proofs.Broker.Answer
import Brokerage.Proofs.Broker.Marking

namespace Brokerage

/-!
What placing a batch does to cash and holdings together.

Every holding is valued at the price at which the event leaves it.  At such
prices a fill exchanges cash for a holding of the same worth, except for its fee
and for the distance of its price from the reference price.  The prices that
the fills themselves write on a holding in between play no part, because the
holdings are revalued after all fills are booked.
-/

namespace Event

/-- The price at which an event leaves a holding: the reference price of its asset when the event
observes it, and the last one that was seen otherwise. -/
def mark (event : Event Rat) (position : Position Rat) : Rat :=
  ((event.observation? position.asset).map Observation.price).getD position.spotPrice

/-- What a holding is worth at the price at which an event leaves it. -/
def worthOf (event : Event Rat) (position : Position Rat) : Rat :=
  position.size * event.mark position

/-- What a trade costs: its fee, and its distance from the reference price for every unit. -/
def costOf (event : Event Rat) (trade : Trade Rat) : Rat :=
  trade.fee + trade.size *
    (trade.price - ((event.observation? trade.asset).map Observation.price).getD trade.price)

/-- What the trades in a currency cost. -/
def costIn (event : Event Rat) (currency : Currency) (trades : List (Trade Rat)) : Rat :=
  ((trades.filter fun trade => decide (trade.asset.currency = currency)).map event.costOf).sum

theorem worthOf_of_isFlat {event : Event Rat} {position : Position Rat}
    (flat : position.isFlat = true) : event.worthOf position = 0 := by
  rw [worthOf, Position.size_eq_zero_of_isFlat flat, zero_mul]

theorem costIn_concat (event : Event Rat) (currency : Currency) (trades : List (Trade Rat))
    (trade : Trade Rat) :
    event.costIn currency (trades ++ [trade]) =
      event.costIn currency trades +
        if trade.asset.currency = currency then event.costOf trade else 0 := by
  unfold costIn
  rw [List.filter_append, List.map_append, List.sum_append]
  by_cases inside : trade.asset.currency = currency <;> simp [inside]

end Event

/-! ## One fill -/

namespace Position

/-- In exact arithmetic a fill always adds to the size. -/
theorem size_merge_eq_add (position fill : Position Rat) :
    (position.merge fill).size = position.size + fill.size := by
  rw [size_merge]
  by_cases flat : position.isFlat = true
  · rw [if_pos flat, size_eq_zero_of_isFlat flat, zero_add]
  · rw [if_neg flat]
    split
    · rename_i closed
      exact (beq_iff_eq.mp closed).symm
    · rfl

/-- A fill in an observed asset adds its size at the reference price. -/
theorem worthOf_merge {position fill : Position Rat} {event : Event Rat}
    {observation : Observation Rat}
    (seen : event.observation? position.asset = some observation) :
    event.worthOf (position.merge fill) =
      event.worthOf position + fill.size * observation.price := by
  unfold Event.worthOf Event.mark
  rw [size_merge_eq_add, merge_asset, seen]
  simp only [Option.map_some, Option.getD_some]
  ring

end Position

namespace Ledger

/-- Cash and holdings in a currency, the holdings at the prices at which an event leaves them. -/
def valueAt (ledger : Ledger Rat) (event : Event Rat) (currency : Currency) : Rat :=
  ledger.cash.balance currency + ledger.heldIn currency event.worthOf

/-- A trade in an observed asset takes what it costs away from cash and holdings. -/
theorem valueAt_book {ledger : Ledger Rat} (filed : ledger.Filed) {event : Event Rat}
    {trade : Trade Rat} {observation : Observation Rat}
    (seen : event.observation? trade.asset = some observation) (currency : Currency) :
    (ledger.book trade).valueAt event currency =
      ledger.valueAt event currency -
        if trade.asset.currency = currency then event.costOf trade else 0 := by
  let fill := Position.ofFill trade.asset trade.size trade.price trade.time
  have observed : event.observation? (ledger.position fill.asset).asset = some observation :=
    (congrArg event.observation? (filed.position_asset fill.asset)).trans seen
  have holdings : (ledger.book trade).heldIn currency event.worthOf =
      ledger.heldIn currency event.worthOf +
        if trade.asset.currency = currency then trade.size * observation.price else 0 :=
    ledger.heldIn_applyFill filed (fun _ flat => Event.worthOf_of_isFlat flat) fill
      (Position.worthOf_merge observed) currency
  have cost : event.costOf trade = trade.fee + trade.size * (trade.price - observation.price) := by
    simp only [Event.costOf, seen, Option.map_some, Option.getD_some]
  rw [valueAt, balance_book, holdings, cost, valueAt, Trade.totalCost]
  split <;> ring

/-- A revaluation writes down the prices at which the event leaves the holdings. -/
theorem heldIn_marketValue_markToMarket {ledger : Ledger Rat} (filed : ledger.Filed)
    (event : Event Rat) (currency : Currency) :
    (ledger.markToMarket event).heldIn currency Position.marketValue =
      ledger.heldIn currency event.worthOf := by
  refine ledger.heldIn_markToMarket filed ?_ ?_ currency
  · intro position unseen
    simp only [Position.marketValue, Event.worthOf, Event.mark, unseen, Option.map_none,
      Option.getD_none]
  · intro position observation seen
    simp only [Position.marketValue, Event.worthOf, Event.mark, seen, Option.map_some,
      Option.getD_some]

/-! ## All fills of an event -/

/-- Books that differ by trades in observed assets, which have taken what they cost. -/
structure Spent (event : Event Rat) (before after : Ledger Rat) (fresh : List (Trade Rat)) :
    Prop where
  trades : after.trades = before.trades ++ fresh
  observed : forall trade, trade ∈ fresh ->
    Exists fun observation => event.observation? trade.asset = some observation
  value : forall currency, after.valueAt event currency =
    before.valueAt event currency - event.costIn currency fresh

theorem Spent.refl (event : Event Rat) (ledger : Ledger Rat) : Spent event ledger ledger [] where
  trades := (List.append_nil _).symm
  observed _ listed := nomatch listed
  value _ := (sub_zero _).symm

theorem Spent.book {event : Event Rat} {before after : Ledger Rat} {fresh : List (Trade Rat)}
    (spent : Spent event before after fresh) (filed : after.Filed) {trade : Trade Rat}
    {observation : Observation Rat}
    (seen : event.observation? trade.asset = some observation) :
    Spent event before (after.book trade) (fresh ++ [trade]) where
  trades := by
    have booked : (after.book trade).trades = after.trades ++ [trade] := rfl
    rw [booked, spent.trades, List.append_assoc]
  observed := by
    intro other listed
    rcases List.mem_append.mp listed with old | new
    · exact spent.observed other old
    · exact ⟨observation, List.mem_singleton.mp new ▸ seen⟩
  value := by
    intro currency
    rw [valueAt_book filed seen, spent.value, event.costIn_concat]
    ring

theorem exists_spent_bookAll {ledger : Ledger Rat} (filed : ledger.Filed)
    (feeModel : FeeModel Rat) {event : Event Rat} {executions : List (Execution Rat)}
    (observed : forall execution, execution ∈ executions ->
      Exists fun observation => event.observation? execution.asset = some observation) :
    (ledger.bookAll feeModel event.time executions).Filed ∧ Exists fun fresh =>
      Spent event ledger (ledger.bookAll feeModel event.time executions) fresh := by
  refine bookAll_induction
    (motive := fun books => books.Filed ∧ Exists fun fresh => Spent event ledger books fresh) ?_
    ⟨filed, [], Spent.refl event ledger⟩
  rintro books execution listed ⟨filed, fresh, spent⟩
  rcases observed execution listed with ⟨observation, seen⟩
  exact ⟨filed.book _, _, spent.book filed seen⟩

/-! ## The whole step -/

/-- Books that an event has revalued, and that have paid for their fresh trades by themselves. -/
structure SelfFinanced (event : Event Rat) (before after : Ledger Rat)
    (fresh : List (Trade Rat)) : Prop where
  trades : after.trades = before.trades ++ fresh
  /-- Every trade is one in an asset that the event observes, so it has a reference price. -/
  observed : forall trade, trade ∈ fresh ->
    Exists fun observation => event.observation? trade.asset = some observation
  /-- A holding in an observed asset bears the reference price and the time of the event. -/
  marked : forall asset position observation, after.positions.get? asset = some position ->
    event.observation? asset = some observation ->
      position.spotPrice = observation.price ∧ position.lastUpdate = some event.time
  /-- A holding in any other asset is as it was. -/
  unmarked : forall asset, event.observation? asset = none ->
    after.positions.get? asset = before.positions.get? asset
  /-- What the trades cost is all that cash and holdings lose, the old holdings at new prices. -/
  balance : forall currency,
    after.cash.balance currency + after.heldIn currency Position.marketValue =
      before.cash.balance currency + before.heldIn currency event.worthOf -
        event.costIn currency fresh

end Ledger

namespace Broker

/-- A settlement at whatever prices and fees finances itself. -/
theorem exists_selfFinanced_settled {broker : Broker Rat} (filed : broker.ledger.Filed)
    (orders : List (Order Rat × Option (Rejection Rat))) (event : Event Rat) :
    Exists fun fresh =>
      Ledger.SelfFinanced event broker.ledger (broker.settled orders event).ledger fresh := by
  rcases Ledger.exists_spent_bookAll filed broker.house.feeModel
    (fun execution filled => observed_of_fills filled) with ⟨filed, fresh, spent⟩
  refine ⟨fresh, ?_, spent.observed, ?_, ?_, ?_⟩
  · rw [settled_trades]
    exact spent.trades
  · intro asset position observation held seen
    exact settled_position_of_seen seen held
  · intro asset unseen
    exact settled_position_of_unseen unseen
  · intro currency
    have value := spent.value currency
    have holdings := Ledger.heldIn_marketValue_markToMarket filed event currency
    unfold Ledger.heldIn at holdings
    unfold Ledger.valueAt at value
    rw [settled_cash, Ledger.heldIn, settled_positions, booked, holdings]
    exact value

/--
A batch that is placed finances itself, whatever the fills, the prices and the
fees.  Every holding in an observed asset is left at the reference price and the
time of the event, and every other holding is as it was.  In every currency cash
and holdings together are then worth what they were before, the old holdings
valued at the prices of the event, less the fees of the fresh trades and less
the distance of their prices from the reference prices.
-/
theorem Reachable.exists_selfFinanced_place {house : House Rat} {broker : Broker Rat}
    (reached : Reachable house broker) {batch : List (Order Rat)} {event : Event Rat}
    {numbers : List OrderId} (taken : (broker.place batch event).result = .ok numbers) :
    Exists fun fresh =>
      Ledger.SelfFinanced event broker.ledger (broker.place batch event).state.ledger fresh := by
  have ended := broker.placed batch event
  rw [taken] at ended
  generalize (broker.place batch event).state = state at ended
  cases ended with
  | done _ _ _ _ =>
      rcases exists_selfFinanced_settled reached.filed _ event with ⟨fresh, financed⟩
      exact ⟨fresh, financed.trades, financed.observed, financed.marked, financed.unmarked,
        financed.balance⟩

/-- A house with slippage of one percent and a fee of one unit of cash for every fill. -/
def slippedHouse : House Rat where
  pricing := .slippage 100 0
  feeModel := .fixed 1

def turningEvent : Event Rat where
  time := ⟨1⟩
  prices := Table.empty.put { symbol := "QQQ" } (.trade { symbol := "QQQ" } 120 none)

/-- Sell thirty units and buy twenty-five back. -/
def turningBatch : List (Order Rat) :=
  let asset : Asset := { symbol := "QQQ" }
  [.single {} { asset, size := -30, kind := .market },
    .single {} { asset, size := 25, kind := .limit 121 }]

/-- An account with ten units of one asset and five of another one. -/
def spreadAccount : Broker Rat :=
  let first : Asset := { symbol := "QQQ" }
  let second : Asset := { symbol := "SPY" }
  let order (asset : Asset) (size : Rat) : Order Rat :=
    .single {} { asset, size, kind := .market }
  let event : Event Rat :=
    { time := ⟨0⟩
      prices := (Table.empty.put first (.trade first 100 none)).put second
        (.trade second 50 none) }
  (idle slippedHouse).reset.state.run [.place [order first 10, order second 5] event]

/-- Ten units become twenty short and then five; the two trades cost 37 and 26. -/
theorem spreadAccount_selfFinanced :
    Reachable slippedHouse spreadAccount ∧
      (spreadAccount.place turningBatch turningEvent).result = .ok [3, 4] ∧
      Exists fun fresh =>
        Ledger.SelfFinanced turningEvent spreadAccount.ledger
          (spreadAccount.place turningBatch turningEvent).state.ledger fresh ∧
        fresh.map Trade.price = [594 / 5, 121] ∧ turningEvent.costIn "USD" fresh = 63 := by
  have reached : Reachable slippedHouse spreadAccount :=
    (Reachable.opened (show open? slippedHouse = .ok (_, _) from rfl)).run _
  have taken : (spreadAccount.place turningBatch turningEvent).result = .ok [3, 4] :=
    ok_of_toOption (by decide +kernel)
  rcases reached.exists_selfFinanced_place taken with ⟨fresh, financed⟩
  have same : fresh = (spreadAccount.place turningBatch turningEvent).state.ledger.trades.drop
      spreadAccount.ledger.trades.length := by
    rw [financed.trades, List.drop_left]
  refine ⟨reached, taken, fresh, financed, ?_, ?_⟩
  · rw [same]
    decide +kernel
  · rw [same]
    decide +kernel

end Broker
end Brokerage
