import Brokerage.Proofs.Account.Holdings
import Brokerage.Proofs.Money.Wallet
import Brokerage.Proofs.Table.Total
import Mathlib.Tactic.Linarith

namespace Brokerage

/-!
Where the cash of an account has gone.

In exact arithmetic the cash in a currency is the deposit, plus the profits of
all trades, less what the holdings cost at their average prices.  A fill moves
cash, the average price and the profit by three separate rules; the identity
says that the three fit together, whatever the fill does to the holding.
-/

/-! ## One fill -/

namespace Position

/-- What a holding cost at its average price. -/
def cost (position : Position Rat) : Rat :=
  position.size * position.avgPrice

theorem size_eq_zero_of_isFlat {position : Position Rat} (flat : position.isFlat = true) :
    position.size = 0 := by
  simpa [isFlat] using flat

theorem cost_of_isFlat {position : Position Rat} (flat : position.isFlat = true) :
    position.cost = 0 := by
  rw [cost, size_eq_zero_of_isFlat flat, zero_mul]

theorem marketValue_eq (position : Position Rat) :
    position.marketValue = position.cost + position.unrealizedPnl := by
  unfold marketValue cost unrealizedPnl
  ring

/--
The signed quantity that a fill closes of a holding it runs against: all that
it fills while the holding keeps its side, and the whole holding otherwise.
-/
theorem closedQuantity {size filled : Rat} (held : size ≠ 0) (opposite : ¬ 0 < size * filled) :
    Quantity.least (Quantity.abs size) (Quantity.abs filled) * (if 0 < size then 1 else -1) =
      if 0 < (size + filled) * size then -filled else size := by
  rcases lt_or_gt_of_ne held with short | long
  · have against : 0 ≤ filled := by
      by_contra below
      exact opposite (mul_pos_of_neg_of_neg short (not_le.mp below))
    have sizeAbs : Quantity.abs size = -size := if_pos short
    have filledAbs : Quantity.abs filled = filled := if_neg (not_lt.mpr against)
    rw [sizeAbs, filledAbs, if_neg (not_lt.mpr short.le)]
    by_cases side : 0 < (size + filled) * size
    · have stays : size + filled < 0 := by
        by_contra crossed
        exact not_lt.mpr (mul_nonpos_of_nonneg_of_nonpos (not_lt.mp crossed) short.le) side
      have less : Quantity.least (-size) filled = filled := if_pos (by linarith)
      rw [if_pos side, less]
      ring
    · have crosses : 0 ≤ size + filled := by
        by_contra below
        exact side (mul_pos_of_neg_of_neg (not_le.mp below) short)
      have less : Quantity.least (-size) filled = -size := if_neg (by linarith)
      rw [if_neg side, less]
      ring
  · have against : filled ≤ 0 := by
      by_contra above
      exact opposite (mul_pos long (not_le.mp above))
    have sizeAbs : Quantity.abs size = size := if_neg (not_lt.mpr long.le)
    have filledAbs : Quantity.abs filled = -filled := by
      rcases against.lt_or_eq with below | zero
      · exact if_pos below
      · rw [zero, neg_zero]
        exact if_neg (lt_irrefl 0)
    rw [sizeAbs, filledAbs, if_pos long, mul_one]
    by_cases side : 0 < (size + filled) * size
    · have stays : 0 < size + filled := (mul_pos_iff_of_pos_right long).mp side
      rw [if_pos side]
      exact if_pos (by linarith)
    · have crosses : size + filled ≤ 0 := by
        by_contra above
        exact side (mul_pos (not_le.mp above) long)
      rw [if_neg side]
      exact if_neg (by linarith)

/-- The profit of a fill that runs against a holding. -/
theorem realizedPnl_of_opposite {position fill : Position Rat} (held : position.size ≠ 0)
    (opposite : ¬ 0 < position.size * fill.size) :
    position.realizedPnl fill =
      (if 0 < (position.size + fill.size) * position.size then -fill.size else position.size) *
        (fill.avgPrice - position.avgPrice) := by
  have closes : (position.isFlat || position.sameDirection fill) = false := by
    simp [isFlat, sameDirection, held, opposite]
  have sign : (if position.isLong = true then (1 : Rat) else -1) =
      if 0 < position.size then 1 else -1 := by
    simp only [isLong, decide_eq_true_eq]
  rw [← closedQuantity held opposite]
  simp only [realizedPnl, closes, Bool.false_eq_true, if_false, sign]
  ring

/-- A fill that runs against a holding closes it in part, closes it, or turns it over. -/
theorem cost_merge_of_opposite {position fill : Position Rat} (held : position.size ≠ 0)
    (opposite : ¬ 0 < position.size * fill.size) :
    (position.merge fill).cost = position.cost + fill.cost + position.realizedPnl fill := by
  have flat : ¬ position.isFlat = true := by simpa [isFlat] using held
  have direction : position.sameDirection fill = false := decide_eq_false opposite
  rw [realizedPnl_of_opposite held opposite]
  by_cases closed : position.size + fill.size = 0
  · have merged : (position.merge fill).cost = 0 := by
      simp [merge, flat, closed, cost]
    have fillSize : fill.size = -position.size := by linarith
    rw [merged, closed, zero_mul, if_neg (lt_irrefl 0)]
    unfold cost
    rw [fillSize]
    ring
  · by_cases side : 0 < (position.size + fill.size) * position.size
    · have merged : (position.merge fill).cost =
          (position.size + fill.size) * position.avgPrice := by
        simp [merge, flat, closed, direction, side, cost]
      rw [merged, if_pos side]
      unfold cost
      ring
    · have merged : (position.merge fill).cost =
          (position.size + fill.size) * fill.avgPrice := by
        simp [merge, flat, closed, direction, side, cost]
      rw [merged, if_neg side]
      unfold cost
      ring

/--
What a holding costs after a fill: the cost before, the cost of the fill, and
the profit that the fill realizes, which leaves the average price behind.
-/
theorem cost_merge (position fill : Position Rat) :
    (position.merge fill).cost = position.cost + fill.cost + position.realizedPnl fill := by
  by_cases flat : position.isFlat = true
  · have merged : (position.merge fill).cost = fill.cost := by
      simp only [merge, flat, if_true, cost]
    have realized : position.realizedPnl fill = 0 := by
      simp only [realizedPnl, flat, Bool.true_or, if_true]
    rw [merged, realized, cost_of_isFlat flat]
    ring
  · by_cases same : 0 < position.size * fill.size
    · have direction : position.sameDirection fill = true := decide_eq_true same
      have grown : position.size + fill.size ≠ 0 := by
        intro zero
        have fillSize : fill.size = -position.size := by linarith
        rw [fillSize] at same
        nlinarith [mul_self_nonneg position.size]
      have realized : position.realizedPnl fill = 0 := by
        simp only [realizedPnl, direction, Bool.or_true, if_true]
      have merged : (position.merge fill).cost = (position.size + fill.size) *
          ((position.size * position.avgPrice + fill.size * fill.avgPrice) /
            (position.size + fill.size)) := by
        simp [merge, flat, grown, direction, cost]
      rw [merged, realized, mul_div_cancel₀ _ grown]
      unfold cost
      ring
    · have held : position.size ≠ 0 := by simpa [isFlat] using flat
      exact cost_merge_of_opposite held same

end Position

/-! ## The books -/

namespace Ledger

/-- The profits of the trades in a currency. -/
def profitIn (ledger : Ledger Rat) (currency : Currency) : Rat :=
  ((ledger.trades.filter fun trade => decide (trade.asset.currency = currency)).map
    Trade.pnl).sum

/-- A figure of the holdings in a currency, added up. -/
def heldIn (ledger : Ledger Rat) (currency : Currency) (figure : Position Rat -> Rat) : Rat :=
  ((ledger.positions.values.filter fun position =>
    decide (position.asset.currency = currency)).map figure).sum

/-- A figure that counts for the holdings in one currency only. -/
def within (currency : Currency) (figure : Position Rat -> Rat) (position : Position Rat) : Rat :=
  if position.asset.currency = currency then figure position else 0

theorem heldIn_eq_total (ledger : Ledger Rat) (currency : Currency)
    (figure : Position Rat -> Rat) :
    ledger.heldIn currency figure = ledger.positions.total (within currency figure) := by
  unfold heldIn Table.total
  induction ledger.positions.values with
  | nil => rfl
  | cons position rest ih =>
      by_cases listed : position.asset.currency = currency
      · simp only [List.filter_cons, listed, decide_true, if_true, List.map_cons, List.sum_cons,
          ih, within]
      · simp only [List.filter_cons, listed, decide_false, Bool.false_eq_true, if_false,
          List.map_cons, List.sum_cons, ih, within, zero_add]

theorem heldIn_marketValue (ledger : Ledger Rat) (currency : Currency) :
    ledger.heldIn currency Position.marketValue =
      ledger.heldIn currency Position.cost + ledger.heldIn currency Position.unrealizedPnl := by
  unfold heldIn
  rw [← List.sum_map_add]
  exact congrArg List.sum (List.map_congr_left fun position _ => position.marketValue_eq)

/-- A figure that is nothing of a flat holding, read off the holding of an asset. -/
theorem figureAt_within (ledger : Ledger Rat) (filed : ledger.Filed) {figure : Position Rat -> Rat}
    (nothing : forall position : Position Rat, position.isFlat = true -> figure position = 0)
    (currency : Currency) (asset : Asset) :
    ledger.positions.figureAt (within currency figure) asset =
      if asset.currency = currency then figure (ledger.position asset) else 0 := by
  unfold Table.figureAt position
  cases found : ledger.positions.get? asset with
  | none =>
      have flat : figure (Position.flat asset) = 0 := nothing _ (by rfl)
      simp only [Option.map_none, Option.getD_none, flat, ite_self]
  | some held =>
      have own : held.asset = asset := filed (asset, held) (Table.get?_eq_some_iff.mp found)
      simp only [Option.map_some, Option.getD_some, within, own]

/-- What a fill adds to a figure of its holding, it adds to that figure of all holdings in its
currency. -/
theorem heldIn_applyFill (ledger : Ledger Rat) (filed : ledger.Filed) {figure : Position Rat -> Rat}
    (nothing : forall position : Position Rat, position.isFlat = true -> figure position = 0)
    (fill : Position Rat) {change : Rat}
    (merged : figure ((ledger.position fill.asset).merge fill) =
      figure (ledger.position fill.asset) + change) (currency : Currency) :
    (ledger.applyFill fill).heldIn currency figure =
      ledger.heldIn currency figure + if fill.asset.currency = currency then change else 0 := by
  have own : ((ledger.position fill.asset).merge fill).asset = fill.asset :=
    (Position.merge_asset _ _).trans (filed.position_asset fill.asset)
  rw [heldIn_eq_total, heldIn_eq_total]
  by_cases flat : ((ledger.position fill.asset).merge fill).isFlat = true
  · simp only [applyFill, flat, if_true]
    rw [Table.total_erase, ledger.figureAt_within filed nothing]
    rw [nothing _ flat] at merged
    split
    · linarith
    · ring
  · simp only [applyFill, flat, Bool.false_eq_true, if_false]
    rw [Table.total_put, ledger.figureAt_within filed nothing]
    simp only [within, own]
    split
    · linarith
    · ring

/-- A fill changes the cost of the holdings in its own currency by what it costs and realizes. -/
theorem heldIn_cost_applyFill (ledger : Ledger Rat) (filed : ledger.Filed)
    (fill : Position Rat) (currency : Currency) :
    (ledger.applyFill fill).heldIn currency Position.cost =
      ledger.heldIn currency Position.cost +
        if fill.asset.currency = currency then fill.cost + ledger.realizedPnl fill else 0 := by
  have merged := (ledger.position fill.asset).cost_merge fill
  rw [add_assoc] at merged
  exact ledger.heldIn_applyFill filed (fun _ flat => Position.cost_of_isFlat flat) fill merged
    currency

/-- A trade takes what it costs from the cash in its currency. -/
theorem balance_book (ledger : Ledger Rat) (trade : Trade Rat) (currency : Currency) :
    (ledger.book trade).cash.balance currency =
      ledger.cash.balance currency -
        if trade.asset.currency = currency then trade.totalCost else 0 := by
  have cash : (ledger.book trade).cash.balance currency =
      if trade.asset.currency = currency then
        ledger.cash.balance trade.asset.currency + -trade.totalCost
      else ledger.cash.balance currency :=
    ledger.cash.balance_deposit trade.asset.currency currency _
  rw [cash]
  split
  · rename_i inside
    rw [inside, sub_eq_add_neg]
  · rw [sub_zero]

theorem balance_book_tradeOf (ledger : Ledger Rat) (execution : Execution Rat) (fee : Rat)
    (time : Instant) (currency : Currency) :
    (ledger.book (ledger.tradeOf execution fee time)).cash.balance currency =
      ledger.cash.balance currency - if execution.asset.currency = currency then
        execution.quantity * execution.price + fee else 0 :=
  ledger.balance_book _ currency

/-- The cash in a currency is the deposit, plus profits, less what the holdings cost. -/
def Balanced (ledger : Ledger Rat) (deposit : Wallet Rat) : Prop :=
  forall currency, ledger.cash.balance currency =
    deposit.balance currency + ledger.profitIn currency - ledger.heldIn currency Position.cost

theorem Balanced.book {ledger : Ledger Rat} {deposit : Wallet Rat}
    (balanced : ledger.Balanced deposit) (filed : ledger.Filed) (execution : Execution Rat)
    (fee : Rat) (time : Instant) :
    (ledger.book (ledger.tradeOf execution fee time)).Balanced deposit := by
  intro currency
  have before := balanced currency
  let fill := Position.ofFill execution.asset execution.quantity execution.price time
  have holdings : (ledger.book (ledger.tradeOf execution fee time)).heldIn currency
      Position.cost = (ledger.applyFill fill).heldIn currency Position.cost := rfl
  have trades : (ledger.book (ledger.tradeOf execution fee time)).profitIn currency =
      ledger.profitIn currency +
        if execution.asset.currency = currency then ledger.realizedPnl fill - fee else 0 := by
    simp only [profitIn, Ledger.book, List.filter_append, List.map_append, List.sum_append]
    by_cases inside : execution.asset.currency = currency
    · simp [tradeOf, inside, fill]
    · simp [tradeOf, inside]
  rw [holdings, balance_book_tradeOf, trades, ledger.heldIn_cost_applyFill filed]
  by_cases inside : execution.asset.currency = currency
  · have filled : fill.asset.currency = currency := inside
    have cost : fill.cost = execution.quantity * execution.price := rfl
    rw [if_pos inside, if_pos inside, if_pos filled, before, cost]
    ring
  · have filled : ¬ fill.asset.currency = currency := inside
    rw [if_neg inside, if_neg inside, if_neg filled, before]
    ring

/-- New market prices change a figure of all holdings as they change it of every single one. -/
theorem heldIn_markToMarket (ledger : Ledger Rat) (filed : ledger.Filed) {event : Event Rat}
    {figure marked : Position Rat -> Rat}
    (unseen : forall position, event.observation? position.asset = none ->
      figure position = marked position)
    (seen : forall position observation, event.observation? position.asset = some observation ->
      figure { position with spotPrice := observation.price, lastUpdate := some event.time } =
        marked position) (currency : Currency) :
    (ledger.markToMarket event).heldIn currency figure = ledger.heldIn currency marked := by
  rw [heldIn_eq_total, heldIn_eq_total]
  unfold Table.total Table.values markToMarket
  rw [Table.entries_map, List.map_map, List.map_map, List.map_map]
  refine congrArg List.sum (List.map_congr_left ?_)
  intro entry listed
  have own := filed entry listed
  simp only [Function.comp_apply, within, ← own]
  cases found : event.observation? entry.2.asset with
  | none => simp only [unseen _ found]
  | some observation => simp only [← seen _ _ found]

theorem heldIn_cost_markToMarket (ledger : Ledger Rat) (filed : ledger.Filed)
    (event : Event Rat) (currency : Currency) :
    (ledger.markToMarket event).heldIn currency Position.cost =
      ledger.heldIn currency Position.cost :=
  ledger.heldIn_markToMarket filed (fun _ _ => rfl) (fun _ _ _ => rfl) currency

end Ledger

/-! ## Every reachable broker -/

/-- What a wallet holds after deposits in different currencies. -/
theorem Wallet.balance_depositAll {entries : List (Currency × Rat)}
    (distinct : (entries.map Prod.fst).Nodup) (wallet : Wallet Rat) (currency : Currency) :
    (wallet.depositAll (entries.map fun entry => ⟨entry.1, entry.2⟩)).balance currency =
      wallet.balance currency + (Table.lookup currency entries).getD 0 := by
  induction entries generalizing wallet with
  | nil => simp [depositAll, Table.lookup]
  | cons entry rest ih =>
      have parts := List.nodup_cons.mp distinct
      have later := ih parts.2 (wallet.deposit entry.1 entry.2)
      rw [balance_deposit] at later
      rw [List.map_cons, depositAll, List.foldl_cons]
      apply later.trans
      by_cases same : entry.1 = currency
      · have absent : Table.lookup currency rest = none := by
          cases found : Table.lookup currency rest with
          | none => rfl
          | some value =>
              exact absurd (List.mem_map_of_mem (Table.mem_of_lookup found)) (same ▸ parts.1)
        simp [Table.lookup, same, absent]
      · simp [Table.lookup, same]

/-- In exact arithmetic a copy of a wallet holds what the wallet holds. -/
theorem Wallet.balance_copy (wallet : Wallet Rat) (currency : Currency) :
    wallet.copy.balance currency = wallet.balance currency := by
  apply (balance_depositAll wallet.balances.distinct Wallet.empty currency).trans
  have nothing : (Wallet.empty : Wallet Rat).balance currency = 0 := rfl
  rw [nothing, zero_add]
  rfl

namespace Broker

theorem balanced_emptied (broker : Broker Rat) :
    broker.emptied.ledger.Balanced broker.house.deposit := by
  intro currency
  rw [emptied_ledger]
  have copied := broker.house.deposit.balance_copy currency
  simp only [copied]
  change _ = broker.house.deposit.balance currency + 0 - 0
  ring

/-- Fills and new market prices leave the books balanced. -/
theorem balanced_settled {broker : Broker Rat} {deposit : Wallet Rat}
    (filed : broker.ledger.Filed) (balanced : broker.ledger.Balanced deposit)
    (orders : List (Order Rat × Option (Rejection Rat))) (event : Event Rat) :
    (broker.settled orders event).ledger.Balanced deposit := by
  have booked : (broker.booked orders event).Filed ∧
      (broker.booked orders event).Balanced deposit :=
    Ledger.bookAll_induction (motive := fun books => books.Filed ∧ books.Balanced deposit)
      (fun books execution _ kept => ⟨kept.1.book _, kept.2.book kept.1 execution _ _⟩)
      ⟨filed, balanced⟩
  intro currency
  have before := booked.2 currency
  rw [← Ledger.heldIn_cost_markToMarket _ booked.1 event] at before
  unfold Ledger.profitIn Ledger.heldIn at before ⊢
  rw [settled_cash, settled_trades, settled_positions]
  exact before

theorem Reachable.balanced {house : House Rat} {broker : Broker Rat}
    (reached : Reachable house broker) : broker.ledger.Balanced house.deposit := by
  refine Reachable.induction (motive := fun broker => broker.ledger.Balanced house.deposit)
    (balanced_emptied _) ?_ ?_ ?_ reached
  · intro broker reached _
    exact reached.house_eq ▸ broker.balanced_emptied
  · intro broker _ balanced
    exact balanced
  · intro broker batch event state result reached balanced ended
    have settled := balanced_settled reached.filed balanced
    cases ended with
    | refused _ => exact balanced
    | unvalued _ _ => exact balanced
    | unworkable _ _ _ => exact balanced
    | unpowered _ _ _ _ => exact settled _ _
    | done _ _ _ _ => exact settled _ _

/--
In exact arithmetic the cash of a reachable broker is, in every currency, the
deposit plus the profits of the trades since the last fresh start, less what
the holdings cost.  Cash and holdings together are therefore worth the deposit
plus the realized and the unrealized profits.
-/
theorem cash_eq_deposit_add_profit {house : House Rat} {broker : Broker Rat}
    (reached : Reachable house broker) (currency : Currency) :
    broker.ledger.cash.balance currency =
        house.deposit.balance currency + broker.ledger.profitIn currency -
          broker.ledger.heldIn currency Position.cost ∧
      broker.ledger.cash.balance currency +
          broker.ledger.heldIn currency Position.marketValue =
        house.deposit.balance currency + broker.ledger.profitIn currency +
          broker.ledger.heldIn currency Position.unrealizedPnl := by
  have cash := reached.balanced currency
  refine ⟨cash, ?_⟩
  rw [cash, Ledger.heldIn_marketValue]
  ring

/-- A house that charges one unit of cash for every fill. -/
def flatFeeHouse : House Rat where
  feeModel := .fixed 1

/-- An account that bought ten units at 150 and then sold thirty at 160. -/
def flippedAccount : Broker Rat :=
  let asset : Asset := { symbol := "QQQ" }
  let order (size : Rat) : Order Rat := .single {} { asset, size, kind := .market }
  let event (time : Int) (price : Rat) : Event Rat :=
    { time := ⟨time⟩, prices := Table.empty.put asset (.trade asset price none) }
  (idle flatFeeHouse).reset.state.run
    [.place [order 10] (event 0 150), .place [order (-30)] (event 1 160)]

theorem flippedAccount_cash :
    Reachable flatFeeHouse flippedAccount ∧
      flippedAccount.ledger.profitIn "USD" = 98 ∧
      flippedAccount.ledger.heldIn "USD" Position.cost = -3200 ∧
      flippedAccount.ledger.cash.balance "USD" = 1000000 + 98 - (-3200) := by
  have reached : Reachable flatFeeHouse flippedAccount :=
    (Reachable.opened (show open? flatFeeHouse = .ok (_, _) from rfl)).run _
  have deposit : flatFeeHouse.deposit.balance "USD" = 1000000 := by decide +kernel
  have profit : flippedAccount.ledger.profitIn "USD" = 98 := by decide +kernel
  have cost : flippedAccount.ledger.heldIn "USD" Position.cost = -3200 := by decide +kernel
  have identity := (cash_eq_deposit_add_profit reached "USD").1
  rw [deposit, profit, cost] at identity
  exact ⟨reached, profit, cost, identity⟩

end Broker
end Brokerage
