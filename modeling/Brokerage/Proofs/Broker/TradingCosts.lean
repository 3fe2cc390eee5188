import Brokerage.Proofs.Account.Profit
import Brokerage.Proofs.Broker.Answer
import Brokerage.Proofs.Broker.Checking
import Brokerage.Proofs.Broker.Marking
import Brokerage.Proofs.Execution.Repricing

namespace Brokerage

/-!
What slippage and fees can change.

Two brokers whose houses differ in pricing and fees only work the same orders.
The prices of their fills differ, and with them the average prices of their
holdings and the cash, but nothing that is matched or checked reads these.  The
last price of a holding is a price of a fill only until the event that brought
the fill revalues the holding, so between two commands the last prices agree as
well, and winding up goes alike.  Every single fill costs the second broker at
least as much as the first one, and nothing ever pays that back.
-/

/-! ## Trades and holdings that differ in their prices -/

namespace Trade

/-- Two trades that agree on the order, the asset, the size and the time. -/
structure SameDeal {α : Type} (first second : Trade α) : Prop where
  orderId : first.orderId = second.orderId
  asset : first.asset = second.asset
  size : first.size = second.size
  time : first.time = second.time

end Trade

namespace Position

variable {α : Type} [Quantity α]

/-- A holding without its average price, and without its last price if that is hidden. -/
def outline (hidden : Bool) (position : Position α) : Position α :=
  { position with avgPrice := 0, spotPrice := if hidden then 0 else position.spotPrice }

theorem lastUpdate_merge (position fill : Position α) :
    (position.merge fill).lastUpdate = fill.lastUpdate := by
  unfold merge
  dsimp only
  split
  · rfl
  · split
    · rfl
    · split
      · rfl
      · split <;> rfl

/-- What a fill makes of a holding is outlined by sizes and times alone. -/
theorem outline_merge {first second fill other : Position α} (asset : first.asset = second.asset)
    (size : first.size = second.size) (filled : fill.size = other.size)
    (time : fill.lastUpdate = other.lastUpdate) :
    (first.merge fill).outline true = (second.merge other).outline true := by
  have flat : first.isFlat = second.isFlat := congrArg (fun size => size == 0) size
  simp only [outline, merge_asset, size_merge, lastUpdate_merge, asset, flat, size, filled, time,
    if_true]

end Position

namespace Ledger

section Outlines

variable {α : Type} [Quantity α] {first second : Ledger α} {hidden : Asset -> Bool}

/-- The holdings without their average prices, and in some assets without their last prices. -/
def outlines (ledger : Ledger α) (hidden : Asset -> Bool) : Table Asset (Position α) :=
  ledger.positions.map fun asset position => position.outline (hidden asset)

/-- Outlines that show all last prices determine those that hide some. -/
theorem outlines_hide (same : first.outlines (fun _ => false) = second.outlines fun _ => false)
    (hidden : Asset -> Bool) : first.outlines hidden = second.outlines hidden := by
  have again := congrArg
    (fun table => table.map fun asset position => position.outline (hidden asset)) same
  simp only [outlines, Table.map_map] at again
  exact again

theorem outline_position (same : first.outlines hidden = second.outlines hidden) (asset : Asset) :
    (first.position asset).outline (hidden asset) =
      (second.position asset).outline (hidden asset) := by
  have found := congrArg (fun table => table.get? asset) same
  simp only [outlines, Table.get?_map] at found
  unfold position
  cases here : first.positions.get? asset with
  | none =>
      rw [here] at found
      rw [Option.map_eq_none_iff.mp found.symm]
  | some mine =>
      rw [here] at found
      rcases Option.map_eq_some_iff.mp found.symm with ⟨theirs, there, outlined⟩
      rw [there]
      exact outlined.symm

/-- Fills of one size outline alike what they make of the holdings. -/
theorem outlines_applyFill (same : first.outlines hidden = second.outlines hidden)
    {fill other : Position α} (asset : fill.asset = other.asset) (size : fill.size = other.size)
    (time : fill.lastUpdate = other.lastUpdate) (covered : hidden fill.asset = true) :
    (first.applyFill fill).outlines hidden = (second.applyFill other).outlines hidden := by
  have held := outline_position same fill.asset
  have assets : (first.position fill.asset).asset = (second.position other.asset).asset :=
    asset ▸ (congrArg Position.asset held :)
  have sizes : (first.position fill.asset).size = (second.position other.asset).size :=
    asset ▸ (congrArg Position.size held :)
  have merged := Position.outline_merge assets sizes size time
  have flat : ((first.position fill.asset).merge fill).isFlat =
      ((second.position other.asset).merge other).isFlat :=
    (congrArg Position.isFlat merged :)
  unfold outlines at same ⊢
  unfold applyFill
  dsimp only
  rw [flat]
  split
  · rw [Table.map_erase, Table.map_erase, same, asset]
  · rw [Table.map_put, Table.map_put, same, covered, merged, ← asset, covered]

/-- A revaluation writes down the last prices that the event hid. -/
theorem outlines_markToMarket {event : Event α}
    (same : first.outlines (fun asset => (event.observation? asset).isSome) =
      second.outlines fun asset => (event.observation? asset).isSome) :
    (first.markToMarket event).outlines (fun _ => false) =
      (second.markToMarket event).outlines fun _ => false := by
  have marked : forall ledger : Ledger α,
      (ledger.markToMarket event).outlines (fun _ => false) =
        (ledger.outlines fun asset => (event.observation? asset).isSome).map
          fun asset position => (event.observation? asset).elim position fun observation =>
            { position with
              asset, spotPrice := observation.price, lastUpdate := some event.time } := by
    intro ledger
    simp only [outlines, markToMarket, Table.map_map]
    congr 1
    funext asset position
    cases event.observation? asset <;> rfl
  rw [marked, marked, same]

end Outlines

/-! ## Books that have paid more -/

/--
Books that differ by what was paid: the same orders, the same trades at prices
of their own, the same holdings up to average prices and hidden last prices,
and no more cash in any currency.
-/
structure PaysMore (hidden : Asset -> Bool) (dear plain : Ledger Rat) : Prop where
  holdings : dear.outlines hidden = plain.outlines hidden
  orders : dear.orders = plain.orders
  trades : List.Forall₂ Trade.SameDeal dear.trades plain.trades
  lastUpdate : dear.lastUpdate = plain.lastUpdate
  cash : forall currency, dear.cash.balance currency ≤ plain.cash.balance currency

namespace PaysMore

variable {hidden : Asset -> Bool} {dear plain : Ledger Rat}

theorem book (pays : PaysMore hidden dear plain) {execution other : Execution Rat}
    (dearer : other.Compares NoWorse execution) (covered : hidden execution.asset = true) {fee : Rat}
    (charged : 0 ≤ fee) (time : Instant) :
    PaysMore hidden (dear.book (dear.tradeOf other fee time))
      (plain.book (plain.tradeOf execution 0 time)) where
  holdings := by
    refine outlines_applyFill pays.holdings dearer.asset dearer.quantity rfl ?_
    exact (congrArg hidden dearer.asset).trans covered
  orders := pays.orders
  trades := by
    have deal : (dear.tradeOf other fee time).SameDeal (plain.tradeOf execution 0 time) :=
      ⟨congrArg Order.number? dearer.order, dearer.asset, dearer.quantity, rfl⟩
    exact List.rel_append pays.trades (.cons deal .nil)
  lastUpdate := pays.lastUpdate
  cash := by
    intro currency
    have before := pays.cash currency
    have worth := dearer.price.value_le
    rw [balance_book_tradeOf, balance_book_tradeOf, dearer.asset, dearer.quantity]
    split <;> linarith

theorem bookAll (pays : PaysMore hidden dear plain) {feeModel : FeeModel Rat}
    (charged : forall execution, 0 ≤ feeModel.fee execution)
    {executions others : List (Execution Rat)}
    (dearer : List.Forall₂ (Execution.Compares NoWorse) others executions)
    (covered : forall execution, execution ∈ executions -> hidden execution.asset = true)
    (time : Instant) :
    PaysMore hidden (dear.bookAll feeModel time others) (plain.bookAll .free time executions) := by
  induction dearer generalizing dear plain with
  | nil => exact pays
  | @cons other execution _ _ head _ ih =>
      rcases List.forall_mem_cons.mp covered with ⟨own, later⟩
      rw [bookAll_cons, bookAll_cons]
      exact ih (pays.book head own (charged other) time) later

end PaysMore
end Ledger

/-! ## Houses that charge more -/

/-- A fee model with parameters in their range. -/
inductive FeeModel.Charges : FeeModel Rat -> Prop where
  | free : Charges .free
  | percentage {bps : Rat} {model : FeeModel Rat} (built : percentage? bps = .ok model) :
      Charges model
  | fixed {perTrade : Rat} {model : FeeModel Rat} (built : fixed? perTrade = .ok model) :
      Charges model

/-- A fee model with parameters in their range never pays for a fill. -/
theorem FeeModel.Charges.fee_nonneg {model : FeeModel Rat} (charges : model.Charges)
    (execution : Execution Rat) : 0 ≤ model.fee execution := by
  cases charges with
  | free => exact le_refl 0
  | percentage built =>
      unfold percentage? at built
      split at built
      · cases built
      · rename_i least
        cases built
        have distance : 0 ≤ Quantity.abs execution.value := by
          change 0 ≤ if execution.value < 0 then -execution.value else execution.value
          split <;> linarith
        exact div_nonneg (mul_nonneg distance (not_lt.mp least)) (by norm_num)
  | fixed built =>
      unfold fixed? at built
      split at built
      · cases built
      · rename_i least
        cases built
        exact not_lt.mp least

/--
Two houses that differ in pricing and fees only and that decide on no order by
its cost: the second one fills at reference prices and charges nothing, the
first one has slippage and charges a fee.
-/
structure House.PaysMore (dear plain : House Rat) : Prop where
  same : dear = { plain with pricing := dear.pricing, feeModel := dear.feeModel }
  unchecked : plain.checksBuyingPower = false
  reference : plain.pricing = .reference
  free : plain.feeModel = .free
  slips : Exists fun bps => Exists fun fixed => Pricing.slippage? bps fixed = .ok dear.pricing
  charges : dear.feeModel.Charges

/-- An event with reference prices that are not negative. -/
def Event.Priced (event : Event Rat) : Prop :=
  forall asset observation, event.observation? asset = some observation -> 0 ≤ observation.price

theorem House.PaysMore.worsensAt {dear plain : House Rat} (pays : dear.PaysMore plain)
    {event : Event Rat} (priced : event.Priced) : dear.pricing.WorsensAt plain.pricing event := by
  rcases pays.slips with ⟨bps, fixed, built⟩
  intro asset observation seen
  rw [pays.reference]
  exact Pricing.worsens_of_slippage built (priced asset observation seen)

/-- A command whose own event, if it has one, has reference prices that are not negative. -/
def Command.Priced : Command Rat -> Prop
  | .place _ event => event.Priced
  | .liquidate _ => True
  | .reset => True

namespace Broker

/-- Two brokers that trade alike, of which the first one pays more. -/
structure PaysMore (dear plain : Broker Rat) : Prop where
  house : dear.house.PaysMore plain.house
  engine : dear.engine = plain.engine
  books : dear.ledger.PaysMore (fun _ => false) plain.ledger
  /-- No holding stands at a negative price, so winding up happens at prices that are none. -/
  valued : forall asset position, plain.ledger.positions.get? asset = some position ->
    0 ≤ position.spotPrice

namespace PaysMore

variable {dear plain : Broker Rat}

theorem checks (pays : dear.PaysMore plain) : dear.ChecksAlike plain where
  engine := pays.engine
  orders := pays.books.orders
  lastUpdate := pays.books.lastUpdate
  clock := (congrArg House.clock pays.house.same :)
  maxEventAge := (congrArg House.maxEventAge pays.house.same :)
  currencies currency := congrArg (fun house => house.rates.supports currency) pays.house.same

theorem withBuyingPower (pays : dear.PaysMore plain) (one other : Amount Rat) :
    (dear.withBuyingPower one).PaysMore (plain.withBuyingPower other) :=
  ⟨pays.house, pays.engine, ⟨pays.books.holdings, pays.books.orders, pays.books.trades,
    pays.books.lastUpdate, pays.books.cash⟩, pays.valued⟩

/-! ## One command -/

/-- A settlement leaves every holding at a price that is not negative. -/
theorem valued_settled (pays : dear.PaysMore plain) {event : Event Rat} (priced : event.Priced)
    (orders : List (Order Rat × Option (Rejection Rat))) (asset : Asset) (position : Position Rat)
    (held : (plain.settled orders event).ledger.positions.get? asset = some position) :
    0 ≤ position.spotPrice := by
  cases seen : event.observation? asset with
  | none =>
      rw [settled_position_of_unseen seen] at held
      exact pays.valued asset position held
  | some observation =>
      rw [(settled_position_of_seen seen held).1]
      exact priced asset observation seen

theorem settled (pays : dear.PaysMore plain) {event : Event Rat} (priced : event.Priced)
    (orders : List (Order Rat × Option (Rejection Rat))) :
    (dear.settled orders event).PaysMore (plain.settled orders event) := by
  have enlisted : dear.enlisted orders event.time = plain.enlisted orders event.time := by
    simp only [Broker.enlisted, pays.engine]
  rcases Engine.execute_compared (pays.house.worsensAt priced).compares
    (plain.enlisted orders event.time) with ⟨worked, dearer⟩
  have matched : dear.matched orders event = plain.matched orders event := by
    rw [Broker.matched, enlisted]
    exact worked
  have booked : (dear.booked orders event).PaysMore
      (fun asset => (event.observation? asset).isSome) (plain.booked orders event) := by
    have hides : dear.ledger.PaysMore (fun asset => (event.observation? asset).isSome)
        plain.ledger :=
      { pays.books with holdings := Ledger.outlines_hide pays.books.holdings _ }
    unfold Broker.booked Broker.fills
    rw [enlisted, pays.house.free]
    refine hides.bookAll pays.house.charges.fee_nonneg dearer (fun execution filled => ?_) _
    rcases Engine.observed_of_fill filled with ⟨observation, seen⟩
    rw [seen]
    rfl
  refine ⟨pays.house, ?_, ⟨?_, ?_, ?_, ?_, ?_⟩, pays.valued_settled priced orders⟩
  · rw [settled_engine, settled_engine, matched]
  · have marked := Ledger.outlines_markToMarket booked.holdings
    unfold Ledger.outlines at marked ⊢
    rw [settled_positions, settled_positions]
    exact marked
  · simp only [settled_orders, Ledger.putOrders, matched, pays.books.orders]
  · rw [settled_trades, settled_trades]
    exact booked.trades
  · rw [settled_lastUpdate, settled_lastUpdate]
  · rw [settled_cash, settled_cash]
    exact booked.cash

/-- No order is rejected for its cost in either house. -/
theorem admission? (pays : dear.PaysMore plain) (batch : List (Order Rat)) (event : Event Rat) :
    plain.admission? batch event = .ok (batch.map fun order => (order, none)) ∧
      dear.admission? batch event = .ok (batch.map fun order => (order, none)) := by
  have unchecked : dear.house.checksBuyingPower = false :=
    (congrArg House.checksBuyingPower pays.house.same).trans pays.house.unchecked
  simp only [Broker.admission?, pays.house.unchecked, unchecked, Bool.false_eq_true, if_false,
    and_self]

theorem place (pays : dear.PaysMore plain) (batch : List (Order Rat)) {event : Event Rat}
    (priced : event.Priced) :
    (dear.place batch event).state.PaysMore (plain.place batch event).state := by
  rcases pays.checks.refused_or_taken batch event with ⟨_, _, fault, found, -⟩ | ⟨fault, taken⟩
  · simp only [Broker.place, fault, found]
    exact pays
  · rcases pays.admission? batch event with ⟨decided, decided'⟩
    rcases place_repriced taken decided with ⟨amount, same⟩
    rcases place_repriced fault decided' with ⟨other, again⟩
    rw [same, again]
    exact (pays.settled priced _).withBuyingPower other amount

/-- The orders and the event that wind an account up are read off the outlines of its holdings. -/
theorem placing? (pays : dear.PaysMore plain) (command : Command Rat) :
    dear.placing? command = plain.placing? command := by
  cases command with
  | place batch event => rfl
  | reset => rfl
  | liquidate time =>
      have outlined := pays.books.holdings
      have sizes : dear.ledger.positions.size = plain.ledger.positions.size := by
        have lengths := congrArg Table.size outlined
        simpa only [Ledger.outlines, Table.size, Table.entries_map, List.length_map] using lengths
      have events (instant : Instant) : dear.closingEvent instant = plain.closingEvent instant := by
        have prices := congrArg (fun table : Table Asset (Position Rat) =>
          table.map fun asset position => Observation.trade asset position.spotPrice none) outlined
        simp only [Ledger.outlines, Table.map_map] at prices
        exact congrArg (Event.mk instant) prices
      have orders : dear.closingOrders = plain.closingOrders := by
        have closes := congrArg (fun table : Table Asset (Position Rat) =>
          table.values.map fun position => (Order.single { tag := liquidationTag }
            { asset := position.asset, size := -position.size, kind := .market } :
              Order Rat)) outlined
        simp only [Ledger.outlines, Table.values, Table.entries_map, List.map_map] at closes
        unfold closingOrders Table.values
        rw [pays.engine, List.map_map, List.map_map]
        exact congrArg _ closes
      simp only [Broker.placing?, windingUp?, pays.engine, sizes, orders, events,
        pays.books.lastUpdate]

/-- Whatever a command places happens at reference prices that are not negative. -/
theorem priced_of_placing (pays : dear.PaysMore plain) {command : Command Rat}
    (priced : command.Priced) {batch : List (Order Rat)} {event : Event Rat}
    (placing : plain.placing? command = some (batch, event)) : event.Priced := by
  cases command with
  | place _ _ =>
      cases placing
      exact priced
  | reset => cases placing
  | liquidate time =>
      unfold Broker.placing? windingUp? at placing
      dsimp only at placing
      split at placing
      · cases placing
      · split at placing
        · cases placing
        · cases placing
          intro asset observation seen
          unfold closingEvent Event.observation? at seen
          rw [Table.get?_map] at seen
          rcases Option.map_eq_some_iff.mp seen with ⟨position, held, same⟩
          rw [← same]
          exact pays.valued asset position held

theorem emptied (pays : dear.PaysMore plain) : dear.emptied.PaysMore plain.emptied := by
  have deposit : dear.house.deposit = plain.house.deposit :=
    (congrArg House.deposit pays.house.same :)
  refine ⟨pays.house, ?_, ?_, ?_⟩
  · simp only [Broker.emptied, pays.engine]
  · rw [emptied_ledger, emptied_ledger, deposit]
    exact ⟨rfl, rfl, .nil, rfl, fun _ => le_refl _⟩
  · intro asset position held
    rw [emptied_ledger] at held
    cases held

theorem reset (pays : dear.PaysMore plain) : dear.reset.state.PaysMore plain.reset.state := by
  rcases dear.reset_repriced with ⟨amount, same⟩
  rcases plain.reset_repriced with ⟨other, again⟩
  rw [same, again]
  exact pays.emptied.withBuyingPower amount other

theorem after (pays : dear.PaysMore plain) {command : Command Rat} (priced : command.Priced) :
    (dear.after command).PaysMore (plain.after command) := by
  cases placing : plain.placing? command with
  | some placed =>
      rw [after_of_placing placing, after_of_placing (pays.placing? command ▸ placing)]
      exact pays.place _ (pays.priced_of_placing priced placing)
  | none =>
      by_cases fresh : command = .reset
      · subst fresh
        exact pays.reset
      · rw [after_of_idle placing fresh, after_of_idle (pays.placing? command ▸ placing) fresh]
        exact pays

/-! ## A run -/

theorem run (pays : dear.PaysMore plain) {commands : List (Command Rat)}
    (priced : forall command, command ∈ commands -> command.Priced) :
    (dear.run commands).PaysMore (plain.run commands) := by
  induction commands generalizing dear plain with
  | nil => exact pays
  | cons command rest ih =>
      rcases List.forall_mem_cons.mp priced with ⟨head, tail⟩
      exact ih (pays.after head) tail

/-- Holdings with the same outlines agree on sizes, last prices and times. -/
theorem position_eq (pays : dear.PaysMore plain) (asset : Asset) :
    ((dear.ledger.positions.get? asset).map fun position =>
        (position.size, position.spotPrice, position.lastUpdate)) =
      (plain.ledger.positions.get? asset).map fun position =>
        (position.size, position.spotPrice, position.lastUpdate) := by
  have found := congrArg (fun table : Table Asset (Position Rat) =>
    (table.get? asset).map fun position =>
      (position.size, position.spotPrice, position.lastUpdate)) pays.books.holdings
  simp only [Ledger.outlines, Table.get?_map, Option.map_map] at found
  exact found

end PaysMore

/--
Trading costs never change what fills and never help.  Of two brokers whose
houses differ in pricing and fees only, one free of cost and the other with
slippage and a fee, both have after every sequence of commands at reference
prices that are not negative the same working set, the same order states, the
same holdings up to their average prices, and the same trades up to price, fee
and profit.  The one that pays has no more cash in any currency.
-/
theorem trading_costs_never_help {house other : House Rat} (pays : other.PaysMore house)
    {plain dear : Broker Rat} {notices others : List (Notice Rat)}
    (opened : open? house = .ok (plain, notices)) (again : open? other = .ok (dear, others))
    {commands : List (Command Rat)}
    (priced : forall command, command ∈ commands -> command.Priced) :
    (dear.run commands).engine = (plain.run commands).engine ∧
      (dear.run commands).ledger.orders = (plain.run commands).ledger.orders ∧
      (forall asset,
        (((dear.run commands).ledger.positions.get? asset).map fun position =>
            (position.size, position.spotPrice, position.lastUpdate)) =
          ((plain.run commands).ledger.positions.get? asset).map fun position =>
            (position.size, position.spotPrice, position.lastUpdate)) ∧
      List.Forall₂ Trade.SameDeal (dear.run commands).ledger.trades
        (plain.run commands).ledger.trades ∧
      forall currency, (dear.run commands).ledger.cash.balance currency ≤
        (plain.run commands).ledger.cash.balance currency := by
  have idle : (idle other).PaysMore (idle house) :=
    ⟨pays, rfl, ⟨rfl, rfl, .nil, rfl, fun _ => le_refl _⟩, fun _ _ held => nomatch held⟩
  have start : dear.PaysMore plain := by
    rw [opened_state opened, opened_state again]
    exact idle.reset
  have ran := start.run priced
  exact ⟨ran.engine, ran.books.orders, ran.position_eq, ran.books.trades, ran.books.cash⟩

/-- A house free of cost whose purchases need no cover. -/
def costlessHouse : House Rat where
  checksBuyingPower := false

/-- The same house with slippage in both of its parts and a fee in basis points. -/
def costlyHouse : House Rat where
  pricing := .slippage 50 (1 / 100)
  feeModel := .percentage 10
  checksBuyingPower := false

theorem costlyHouse_paysMore_costlessHouse : costlyHouse.PaysMore costlessHouse where
  same := rfl
  unchecked := rfl
  reference := rfl
  free := rfl
  slips := by
    refine ⟨50, 1 / 100, ?_⟩
    rw [Pricing.slippage?, if_neg (by norm_num), if_neg (by norm_num)]
    rfl
  charges := by
    have built : FeeModel.percentage? 10 = .ok costlyHouse.feeModel := by
      rw [FeeModel.percentage?, if_neg (by norm_num)]
      rfl
    exact .percentage built

/-- The asset of a round trip is traded at a price. -/
def spotAt (time : Int) (price : Rat) : Event Rat where
  time := ⟨time⟩
  prices := Table.empty.put { symbol := "QQQ" } (.trade { symbol := "QQQ" } price none)

theorem spotAt_priced {price : Rat} (least : 0 ≤ price) (time : Int) :
    (spotAt time price).Priced := by
  intro asset observation seen
  have listed : (asset, observation) ∈ (spotAt time price).prices.entries :=
    Table.get?_eq_some_iff.mp seen
  cases List.mem_singleton.mp listed
  exact least

/-- Ten units are bought, four are sold at a limit on the next event, and six by winding up. -/
def roundTrip : List (Command Rat) :=
  let order (size : Rat) (kind : OrderKind Rat) : Order Rat :=
    .single {} { asset := { symbol := "QQQ" }, size, kind }
  [.place [order 10 .market, order (-4) (.limit 101)] (spotAt 0 100), .place [] (spotAt 1 102),
    .liquidate none]

theorem roundTrip_costs :
    (forall command, command ∈ roundTrip -> command.Priced) ∧
      List.Forall₂ Trade.SameDeal ((idle costlyHouse).reset.state.run roundTrip).ledger.trades
        ((idle costlessHouse).reset.state.run roundTrip).ledger.trades ∧
      (forall currency,
        ((idle costlyHouse).reset.state.run roundTrip).ledger.cash.balance currency ≤
          ((idle costlessHouse).reset.state.run roundTrip).ledger.cash.balance currency) ∧
      (((idle costlessHouse).reset.state.run roundTrip).ledger.trades.map fun trade =>
        (trade.size, trade.price)) = [(10, 100), (-4, 102), (-6, 102)] ∧
      (((idle costlyHouse).reset.state.run roundTrip).ledger.trades.map fun trade =>
        (trade.size, trade.price)) =
          [(10, 10051 / 100), (-4, 2537 / 25), (-6, 2537 / 25)] := by
  have opened : open? costlessHouse = .ok (_, _) := rfl
  have again : open? costlyHouse = .ok (_, _) := rfl
  have priced : forall command, command ∈ roundTrip -> command.Priced := by
    intro command listed
    simp only [roundTrip, List.mem_cons, List.not_mem_nil, or_false] at listed
    rcases listed with rfl | rfl | rfl
    · exact spotAt_priced (by decide +kernel) 0
    · exact spotAt_priced (by decide +kernel) 1
    · exact trivial
  rcases trading_costs_never_help costlyHouse_paysMore_costlessHouse opened again priced with
    ⟨-, -, -, trades, cash⟩
  exact ⟨priced, trades, cash, by decide +kernel, by decide +kernel⟩

end Broker
end Brokerage
