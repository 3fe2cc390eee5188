import Brokerage.Account.Position
import Brokerage.Performance.Sum

namespace Brokerage
namespace Performance

/-!
Statistics of booked fills.

A fill has closed something when profit and fee do not cancel out; only such
fills are wins or losses.
-/

/-- Figures over all fills of an account. -/
structure TradeStatistics (α : Type) where
  count : Nat
  totalFees : α
  realizedPnl : α
  /-- The share of closing fills that made a profit; none without closing fills. -/
  winRate : Option α
  /-- Profits over losses; none without losses. -/
  profitFactor : Option α
  deriving DecidableEq, Repr

variable {α : Type} [Quantity α]

/-- Whether a fill with this profit and this fee has closed something. -/
def isClosing (result : α × α) : Bool :=
  !(result.1 + result.2 == 0)

/-- The statistics of the profits and fees of fills. -/
def statistics (results : List (α × α)) : TradeStatistics α :=
  let closing := (results.filter isClosing).map Prod.fst
  let wins := closing.filter fun pnl => decide (0 < pnl)
  let losses := closing.filter fun pnl => decide (pnl < 0)
  { count := results.length
    totalFees := sum (results.map Prod.snd)
    realizedPnl := sum (results.map Prod.fst)
    winRate :=
      if closing.isEmpty then none
      else some (((wins.length : Nat) : α) / ((closing.length : Nat) : α))
    profitFactor :=
      if losses.isEmpty then none else some (sum wins / Quantity.abs (sum losses)) }

/-- The statistics of trades. -/
def tradeStatistics (trades : List (Trade α)) : TradeStatistics α :=
  statistics (trades.map fun trade => (trade.pnl, trade.fee))

end Performance
end Brokerage
