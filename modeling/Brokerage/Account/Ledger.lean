import Brokerage.Account.Snapshot
import Brokerage.Market.Event

namespace Brokerage

/-!
The books of an account.
-/

/-- Cash, holdings, orders and trades. -/
structure Ledger (α : Type) where
  base : Currency
  rates : Rates α
  cash : Wallet α
  /-- Holdings that are not flat. -/
  positions : Table Asset (Position α)
  /-- The last recorded state of each order, by the number on its slip. -/
  orders : Table (Option OrderId) (OrderState α)
  /-- All trades, the oldest first. -/
  trades : List (Trade α)
  buyingPower : Amount α
  lastUpdate : Option Instant

namespace Ledger

variable {α : Type} [Quantity α]

/-- Empty books; without a table of rates the base currency stands alone. -/
def opened (base : Currency) (rates : Option (Rates α)) : Ledger α where
  base
  rates := rates.getD (Rates.single base)
  cash := Wallet.empty
  positions := Table.empty
  orders := Table.empty
  trades := []
  buyingPower := ⟨base, 0⟩
  lastUpdate := none

/-- Empty the books. -/
def clear (ledger : Ledger α) : Ledger α :=
  opened ledger.base (some ledger.rates)

def deposit (ledger : Ledger α) (currency : Currency) (value : α) : Ledger α :=
  { ledger with cash := ledger.cash.deposit currency value }

/-- Record where orders stand. -/
def putOrders (ledger : Ledger α) (states : List (OrderState α)) : Ledger α :=
  { ledger with
    orders := states.foldl (fun orders state => orders.put state.number? state) ledger.orders }

/-- The holding of an asset, which is flat when none is kept. -/
def position (ledger : Ledger α) (asset : Asset) : Position α :=
  (ledger.positions.get? asset).getD (Position.flat asset)

/-- Apply a fill to the holding of its asset; a holding that becomes flat is dropped. -/
def applyFill (ledger : Ledger α) (fill : Position α) : Ledger α :=
  let merged := (ledger.position fill.asset).merge fill
  { ledger with
    positions :=
      if merged.isFlat then ledger.positions.erase fill.asset
      else ledger.positions.put fill.asset merged }

/-- The profit that a fill realizes. -/
def realizedPnl (ledger : Ledger α) (fill : Position α) : α :=
  (ledger.position fill.asset).realizedPnl fill

/-- Value the holdings that an event observes at its reference prices. -/
def markToMarket (ledger : Ledger α) (event : Event α) : Ledger α :=
  { ledger with
    positions := ledger.positions.map fun asset position =>
      match event.observation? asset with
      | some observation =>
          { asset, size := position.size, avgPrice := position.avgPrice,
            spotPrice := observation.price, lastUpdate := some event.time }
      | none => position }

/-- The trade that books a fill. -/
def tradeOf (ledger : Ledger α) (execution : Execution α) (fee : α) (time : Instant) : Trade α :=
  let fill := Position.ofFill execution.asset execution.quantity execution.price time
  { time
    asset := execution.asset
    size := execution.quantity
    price := execution.price
    fee
    pnl := ledger.realizedPnl fill - fee
    orderId := execution.order.number? }

/-- Book a trade: the holding, the history, and the cash in the currency of the asset. -/
def book (ledger : Ledger α) (trade : Trade α) : Ledger α :=
  let filled := ledger.applyFill (Position.ofFill trade.asset trade.size trade.price trade.time)
  { filled with
    trades := ledger.trades ++ [trade]
    cash := ledger.cash.withdraw trade.asset.currency trade.totalCost }

def openOrders (ledger : Ledger α) : List (OrderState α) :=
  ledger.orders.values.filter fun state => state.toLifecycle.isOpen

def closedOrders (ledger : Ledger α) : List (OrderState α) :=
  ledger.orders.values.filter fun state => state.toLifecycle.isClosed

/-- A copy of the books. -/
def account (ledger : Ledger α) : Account α where
  base := ledger.base
  lastUpdate := ledger.lastUpdate
  cash := ledger.cash.balances
  positions := ledger.positions
  orders := ledger.orders.values
  trades := ledger.trades
  buyingPower := ledger.buyingPower
  rates := ledger.rates

end Ledger

/-- The text of the books: the cash, and how much of everything else there is. -/
def Ledger.text (ledger : Ledger Float) : String :=
  "Ledger(cash=" ++ ledger.cash.text ++ ", positions=" ++ toString ledger.positions.size ++
    ", orders=" ++ toString ledger.orders.size ++ ", trades=" ++ toString ledger.trades.length ++ ")"

end Brokerage
