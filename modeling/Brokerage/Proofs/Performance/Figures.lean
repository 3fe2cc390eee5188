import Brokerage.Performance.Metrics
import Mathlib.Algebra.BigOperators.Group.List.Basic
import Mathlib.Algebra.Order.Ring.Rat
import Mathlib.Tactic.Ring

namespace Brokerage
namespace Performance

/-!
The figures of a run, in exact arithmetic.

In whatever order numbers are added up, their sum is the same.  The only figure
that may be missing for a reason of its own is a ratio over a year without
periods; with one period or more every run has its figures.
-/

/-! ## Sums -/

theorem addFrom_eq (total : Rat) (xs : List Rat) : addFrom total xs = total + xs.sum := by
  induction xs generalizing total with
  | nil => exact (add_zero total).symm
  | cons x rest ih =>
      have step : addFrom total (x :: rest) = addFrom (total + x) rest := rfl
      rw [step, ih, List.sum_cons, add_assoc]

/-- Dealing out moves numbers from the rest to the running totals. -/
theorem Lanes.total_deal (lanes : Lanes Rat) (xs : List Rat) :
    (lanes.deal xs).1.total + (lanes.deal xs).2.sum = lanes.total + xs.sum := by
  fun_induction Lanes.deal lanes xs with
  | case1 lanes a b c d e f g h rest ih =>
      rw [ih]
      simp only [Lanes.total, List.sum_cons]
      ring
  | case2 lanes rest few => rfl

theorem blockSum_eq (xs : List Rat) : blockSum xs = xs.sum := by
  unfold blockSum
  split
  · rename_i a b c d e f g h rest
    have dealt := Lanes.total_deal ⟨a, b, c, d, e, f, g, h⟩ rest
    dsimp only
    rw [addFrom_eq, dealt]
    simp only [Lanes.total, List.sum_cons]
    ring
  · rw [addFrom_eq, zero_add]

/-- In exact arithmetic the order in which numbers are added up does not matter. -/
theorem sum_eq (xs : List Rat) : sum xs = xs.sum := by
  fun_induction sum xs with
  | case1 xs short => exact blockSum_eq xs
  | case2 xs long half first second =>
      rw [first, second, ← List.sum_append, List.take_append_drop]

/-! ## Trades -/

variable (trades : List (Trade Rat))

theorem count_tradeStatistics : (tradeStatistics trades).count = trades.length :=
  List.length_map _

theorem totalFees_tradeStatistics :
    (tradeStatistics trades).totalFees = (trades.map Trade.fee).sum := by
  have fees : (tradeStatistics trades).totalFees =
      sum ((trades.map fun trade => (trade.pnl, trade.fee)).map Prod.snd) := rfl
  rw [fees, sum_eq, List.map_map]
  rfl

theorem realizedPnl_tradeStatistics :
    (tradeStatistics trades).realizedPnl = (trades.map Trade.pnl).sum := by
  have profits : (tradeStatistics trades).realizedPnl =
      sum ((trades.map fun trade => (trade.pnl, trade.fee)).map Prod.fst) := rfl
  rw [profits, sum_eq, List.map_map]
  rfl

/-! ## All figures -/

section Metrics

variable {α : Type} [Quantity α] [Roots α] {curve : List α} {periodsPerYear : Int}

theorem annualized?_ok (some_periods : periodsPerYear ≠ 0) (returns : List α)
    (deviation riskFree : α) :
    Exists fun ratio => annualized? returns deviation riskFree periodsPerYear = .ok ratio := by
  unfold annualized?
  rw [if_neg some_periods]
  exact ⟨_, rfl⟩

theorem sharpe?_ok (some_periods : periodsPerYear ≠ 0) (returns : List α) (riskFree : α) :
    Exists fun ratio => sharpe? returns riskFree periodsPerYear = .ok ratio := by
  unfold sharpe?
  dsimp only
  split
  · exact ⟨none, rfl⟩
  · split
    · exact ⟨none, rfl⟩
    · exact annualized?_ok some_periods _ _ _

theorem sortino?_ok (some_periods : periodsPerYear ≠ 0) (returns : List α) (riskFree : α) :
    Exists fun ratio => sortino? returns riskFree periodsPerYear = .ok ratio := by
  unfold sortino?
  dsimp only
  split
  · exact ⟨none, rfl⟩
  · split
    · exact ⟨none, rfl⟩
    · exact annualized?_ok some_periods _ _ _

theorem ratios?_ok (some_periods : periodsPerYear ≠ 0) (curve : List α) :
    Exists fun ratios => ratios? curve periodsPerYear = .ok ratios := by
  rcases sharpe?_ok some_periods (returns curve) 0 with ⟨sharpe, above⟩
  rcases sortino?_ok some_periods (returns curve) 0 with ⟨sortino, below⟩
  unfold ratios?
  dsimp only
  split
  · exact ⟨none, rfl⟩
  · rw [above, below]
    exact ⟨_, rfl⟩

/-- With periods in a year every curve has its figures. -/
theorem metrics?_ok (some_periods : periodsPerYear ≠ 0) (curve : List α)
    (trades : List (Trade α)) :
    Exists fun metrics => metrics? curve trades periodsPerYear = .ok metrics ∧
      metrics.finalEquity = curve.getLast? ∧ metrics.trades = tradeStatistics trades := by
  rcases ratios?_ok some_periods curve with ⟨ratios, known⟩
  unfold metrics?
  rw [known]
  exact ⟨_, rfl, rfl, rfl⟩

end Metrics
end Performance
end Brokerage
