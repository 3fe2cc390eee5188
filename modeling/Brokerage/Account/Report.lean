import Brokerage.Account.Snapshot

namespace Brokerage

/-!
Trades and holdings as tables.
-/

/-- An entry of a report. -/
inductive Cell (α : Type) where
  | text (value : String)
  | time (value : Instant)
  | number (value : α)
  | orderId (value : Option OrderId)
  deriving DecidableEq, Repr

/-- A table with named columns. -/
structure Report (α : Type) where
  columns : List String
  rows : List (List (Cell α))
  deriving DecidableEq, Repr

namespace Account

variable {α : Type}

/-- All trades, the oldest first. -/
def tradeReport (account : Account α) : Report α where
  columns := ["time", "symbol", "currency", "size", "price", "fee", "pnl", "order_id"]
  rows := account.trades.map fun trade =>
    [.time trade.time, .text trade.asset.symbol, .text trade.asset.currency, .number trade.size,
      .number trade.price, .number trade.fee, .number trade.pnl, .orderId trade.orderId]

/-- All holdings; every row starts with the symbol, which has no column name. -/
def positionReport [Quantity α] (account : Account α) : Report α where
  columns := ["currency", "size", "avg_price", "spot_price", "market_value", "unrealized_pnl"]
  rows := account.positions.values.map fun position =>
    [.text position.asset.symbol, .text position.asset.currency, .number position.size,
      .number position.avgPrice, .number position.spotPrice, .number position.marketValue,
      .number position.unrealizedPnl]

end Account
end Brokerage
