import Brokerage.Decimal.Fixed
import Brokerage.Json.Value
import Brokerage.Performance.Metrics

namespace Brokerage
namespace CommandLine

/-!
How the figures of a run are shown.
-/

open Performance (Figure Metrics)

/-- A line across the summary. -/
def rule : String :=
  String.ofList (List.replicate 60 '-')

/-- How wide the figures of the summary are at least. -/
def width : Nat := 12

/-- A count with commas after the thousands. -/
def countText (count : Nat) : String :=
  String.ofList (Decimal.grouped (Decimal.digits count))

/-- A number that may be missing. -/
def orUndefined (value : Option Float) : Float :=
  value.getD (0.0 / 0.0)

/-- What was bought and held in a run. -/
structure Holding where
  size : Float
  symbol : String
  currency : String

/-- The lines of the summary. -/
def summary (holding : Holding) (metrics : Metrics Float) : List String :=
  let line (label figure : String) : String := label ++ Decimal.alignRight width figure
  let sharpe := orUndefined (metrics.ratios.bind Prod.fst)
  let equity := Decimal.money.text (orUndefined metrics.finalEquity)
  [rule,
    "  Buy and hold " ++ Decimal.general 6 holding.size ++ " " ++ holding.symbol ++ " (" ++
      toString metrics.points ++ " events)",
    rule,
    line "  Total Return:      " (Decimal.percent metrics.totalReturn),
    line "  CAGR:              " (Decimal.percent metrics.yearlyGrowth),
    line "  Sharpe Ratio:      " (Decimal.FixedFormat.text { places := 2 } sharpe),
    line "  Max Drawdown:      " (Decimal.percent (orUndefined metrics.maxDrawdown)),
    line "  Final Equity:      " equity ++ " " ++ holding.currency,
    line "  Trades:            " (countText metrics.trades.count),
    line "  Fees:              " (Decimal.money.text metrics.trades.totalFees),
    rule]

/-- A figure as a number with a fraction. -/
def figureValue : Figure Float -> Float
  | .count value => Float.ofNat value
  | .number value => orUndefined value

/-- All figures under their names. -/
def figures (metrics : Metrics Float) : Json :=
  .object (metrics.figures.map fun (name, figure) => (name, .real (figureValue figure)))

end CommandLine
end Brokerage
