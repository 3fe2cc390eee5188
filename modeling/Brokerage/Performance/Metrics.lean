import Brokerage.Performance.Ratios
import Brokerage.Performance.Trades

namespace Brokerage
namespace Performance

/-!
The figures that sum up a run.
-/

/-- A figure: a count, or a number that may be missing. -/
inductive Figure (α : Type) where
  | count (value : Nat)
  | number (value : Option α)
  deriving DecidableEq, Repr

/-- The figures that sum up a run. -/
structure Metrics (α : Type) where
  totalReturn : α
  yearlyGrowth : α
  maxDrawdown : Option α
  /-- Sharpe and Sortino ratio, when there are at least two returns. -/
  ratios : Option (Option α × Option α)
  finalEquity : Option α
  /-- The number of points of the equity curve. -/
  points : Nat
  trades : TradeStatistics α

variable {α : Type} [Quantity α] [Roots α]

/-- Both ratios of the returns of a curve; none for fewer than two returns. -/
def ratios? (curve : List α) (periodsPerYear : Int) :
    Except RatioError (Option (Option α × Option α)) :=
  let returns := returns curve
  if returns.length < 2 then .ok none
  else
    match sharpe? returns 0 periodsPerYear with
    | .error error => .error error
    | .ok sharpe =>
        match sortino? returns 0 periodsPerYear with
        | .error error => .error error
        | .ok sortino => .ok (some (sharpe, sortino))

/-- The figures of an equity curve and of the trades behind it. -/
def metrics? (curve : List α) (trades : List (Trade α)) (periodsPerYear : Int) :
    Except RatioError (Metrics α) :=
  match ratios? curve periodsPerYear with
  | .error error => .error error
  | .ok ratios =>
      .ok
        { totalReturn := totalReturn curve
          yearlyGrowth := yearlyGrowth curve periodsPerYear
          maxDrawdown := maxDrawdown? curve
          ratios
          finalEquity := curve.getLast?
          points := curve.length
          trades := tradeStatistics trades }

/-- The statistics of trades under their names. -/
def TradeStatistics.figures {α : Type} (statistics : TradeStatistics α) :
    List (String × Figure α) :=
  [("num_trades", .count statistics.count),
    ("total_fees", .number (some statistics.totalFees)),
    ("realized_pnl", .number (some statistics.realizedPnl)),
    ("win_rate", .number statistics.winRate),
    ("profit_factor", .number statistics.profitFactor)]

/-- The figures of a run under their names. -/
def Metrics.figures {α : Type} (metrics : Metrics α) : List (String × Figure α) :=
  let ratios : List (String × Figure α) :=
    match metrics.ratios with
    | some (sharpe, sortino) =>
        [("sharpe_ratio", .number sharpe), ("sortino_ratio", .number sortino)]
    | none => []
  [("total_return", .number (some metrics.totalReturn)),
    ("cagr", .number (some metrics.yearlyGrowth)),
    ("max_drawdown", .number metrics.maxDrawdown)] ++ ratios ++
  [("final_equity", .number metrics.finalEquity), ("num_events", .count metrics.points)] ++
    metrics.trades.figures

end Performance
end Brokerage
