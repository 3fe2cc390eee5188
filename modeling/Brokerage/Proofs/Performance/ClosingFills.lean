import Brokerage.Proofs.Account.Retracing
import Brokerage.Proofs.Performance.Figures
import Brokerage.Proofs.Quantity.Opposite

namespace Brokerage

/-!
Which fills the statistics of trades count.

A fill closes something when it runs against a holding.  The statistics are
given profits and fees and no holdings, and take a fill for a closing one when
profit and fee do not cancel out, that is when it has realized something.  A
fill that closes at the average price realizes nothing: it is the one kind of
closing fill that they pass over, and with it goes its fee, which is a loss.
What that does to the figures is a matter of pooling two lots of results.
-/

/-! ## Closing fills -/

namespace Account

/-- The trades of an account, each with the holding that it met. -/
def bookings (account : Account Rat) : List (Position Rat × Trade Rat) :=
  (Ledger.opened account.base (some account.rates)).bookings account.trades

/-- The trades that ran against the holding that they met. -/
def closings (account : Account Rat) : List (Position Rat × Trade Rat) :=
  account.bookings.filter fun booking => decide (booking.1.size * booking.2.size < 0)

/-- The closing fills at the average price of what they close. -/
def evenClosings (account : Account Rat) : List (Position Rat × Trade Rat) :=
  account.closings.filter fun booking => decide (booking.2.price = booking.1.avgPrice)

/-- The closing fills at another price. -/
def unevenClosings (account : Account Rat) : List (Position Rat × Trade Rat) :=
  account.closings.filter fun booking => !decide (booking.2.price = booking.1.avgPrice)

/-- Even and uneven closings are all closings. -/
theorem closings_perm (account : Account Rat) :
    account.closings.Perm (account.unevenClosings ++ account.evenClosings) :=
  (List.filter_append_perm _ _).symm.trans List.perm_append_comm

end Account

namespace Performance

/-- Whether the statistics count a trade as a closing one. -/
def counts (trade : Trade Rat) : Bool :=
  isClosing (trade.pnl, trade.fee)

/-- The net profits of some bookings. -/
def profits (bookings : List (Position Rat × Trade Rat)) : List Rat :=
  bookings.map fun booking => booking.2.pnl

end Performance

namespace Broker.Reachable

variable {house : House Rat} {broker : Broker Rat} (reached : Reachable house broker)
include reached

/-- A trade counts exactly when it ran against a holding at another price. -/
theorem counts_iff {booking : Position Rat × Trade Rat}
    (booked : booking ∈ broker.account.bookings) :
    Performance.counts booking.2 = true <->
      booking.1.size * booking.2.size < 0 ∧ booking.2.price ≠ booking.1.avgPrice := by
  let start : Ledger Rat := Ledger.opened broker.account.base (some broker.account.rates)
  have retraced : start.Retraced broker.ledger := reached.retraced rfl
  have realized := retraced.profits booking booked
  unfold Performance.counts Performance.isClosing
  rw [realized, Bool.not_eq_true', beq_eq_false_iff_ne]
  exact Position.realizedPnl_ne_zero_iff

/-- The trades that count are the uneven closings. -/
theorem counted_eq : broker.account.trades.filter Performance.counts =
    broker.account.unevenClosings.map Prod.snd := by
  have trades : broker.account.bookings.map Prod.snd = broker.account.trades :=
    Ledger.map_snd_bookings _ _
  rw [← trades, List.filter_map, Account.unevenClosings, Account.closings, List.filter_filter]
  refine congrArg (List.map Prod.snd) (List.filter_congr fun booking booked => ?_)
  rw [Bool.eq_iff_iff, Bool.and_eq_true, Bool.not_eq_true', decide_eq_true_eq,
    decide_eq_false_iff_not, and_comm]
  exact reached.counts_iff booked

end Broker.Reachable

/-! ## Figures of results -/

namespace Performance

/-- How many of some results are gains. -/
def gainCount (results : List Rat) : Nat :=
  (results.filter fun result => decide (0 < result)).length

/-- What the gains among some results add up to. -/
def gains (results : List Rat) : Rat :=
  (results.filter fun result => decide (0 < result)).sum

/-- The losses among some results. -/
def lossesOf (results : List Rat) : List Rat :=
  results.filter fun result => decide (result < 0)

/-- The share of the gains among some results; none without a result. -/
def gainShare? (results : List Rat) : Option Rat :=
  if results = [] then none else some (gainCount results / results.length)

/-- What was gained over what was lost; none without a loss. -/
def gainsOverLosses? (results : List Rat) : Option Rat :=
  if lossesOf results = [] then none else some (gains results / |(lossesOf results).sum|)

/-- The trades that count and their results. -/
theorem closing_statistics (trades : List (Trade Rat)) :
    (tradeStatistics trades).winRate = gainShare? ((trades.filter counts).map Trade.pnl) ∧
      (tradeStatistics trades).profitFactor =
        gainsOverLosses? ((trades.filter counts).map Trade.pnl) := by
  have results : ((trades.map fun trade => (trade.pnl, trade.fee)).filter isClosing).map Prod.fst =
      (trades.filter counts).map Trade.pnl := by
    rw [List.filter_map, List.map_map]
    rfl
  unfold tradeStatistics statistics gainShare? gainsOverLosses? gainCount gains lossesOf
  dsimp only
  rw [results]
  simp only [List.isEmpty_iff, sum_eq, Quantity.abs_eq, and_self]

/-! ## Pooled results -/

/-- One number over another; none over zero. -/
def ratio? (part whole : Rat) : Option Rat :=
  if whole = 0 then none else some (part / whole)

/-- A ratio stays what it is when a part and a whole in the same proportion join in. -/
theorem ratio?_add_iff {part whole more rest : Rat} (bounded : 0 ≤ whole) (further : 0 ≤ rest) :
    ratio? part whole = ratio? (part + more) (whole + rest) <->
      (whole = 0 -> rest = 0) ∧ part * rest = more * whole := by
  unfold ratio?
  by_cases nothing : whole = 0
  · subst nothing
    by_cases still : rest = 0
    · simp [still]
    · simp [still]
  · have positive : 0 < whole := lt_of_le_of_ne bounded (Ne.symm nothing)
    have pooled : whole + rest ≠ 0 := (add_pos_of_pos_of_nonneg positive further).ne'
    rw [if_neg nothing, if_neg pooled, Option.some.injEq, div_eq_div_iff nothing pooled, mul_add,
      add_mul, add_right_inj]
    exact (and_iff_right fun zero => absurd zero nothing).symm

theorem gainShare?_eq (results : List Rat) :
    gainShare? results = ratio? (gainCount results) results.length := by
  unfold gainShare? ratio?
  simp only [Nat.cast_eq_zero, List.length_eq_zero_iff]

/-- Losses do not cancel each other. -/
theorem sum_lossesOf (results : List Rat) :
    (lossesOf results).sum ≤ 0 ∧ ((lossesOf results).sum = 0 <-> lossesOf results = []) := by
  have negative : forall result, result ∈ lossesOf results -> result < 0 :=
    fun result listed => of_decide_eq_true (List.mem_filter.mp listed).2
  generalize lossesOf results = losses at negative
  induction losses with
  | nil => exact ⟨le_refl 0, fun _ => rfl, fun _ => rfl⟩
  | cons first rest ih =>
      rcases List.forall_mem_cons.mp negative with ⟨head, tail⟩
      have below : (first :: rest).sum < 0 := by
        rw [List.sum_cons]
        exact add_neg_of_neg_of_nonpos head (ih tail).1
      exact ⟨below.le, fun zero => absurd zero below.ne, fun nil => nomatch nil⟩

theorem gainsOverLosses?_eq (results : List Rat) :
    gainsOverLosses? results = ratio? (gains results) |(lossesOf results).sum| := by
  unfold gainsOverLosses? ratio?
  simp only [abs_eq_zero, (sum_lossesOf results).2]

section Pooling

variable {all counted passed : List Rat} (pooled : all.Perm (counted ++ passed))
include pooled

theorem gainCount_pooled : gainCount all = gainCount counted + gainCount passed := by
  unfold gainCount
  rw [(pooled.filter _).length_eq, List.filter_append, List.length_append]

theorem gains_pooled : gains all = gains counted + gains passed := by
  unfold gains
  rw [(pooled.filter _).sum_eq, List.filter_append, List.sum_append]

theorem losses_pooled : |(lossesOf all).sum| =
    |(lossesOf counted).sum| + |(lossesOf passed).sum| := by
  have lost : (lossesOf all).sum = (lossesOf counted).sum + (lossesOf passed).sum := by
    unfold lossesOf
    rw [(pooled.filter _).sum_eq, List.filter_append, List.sum_append]
  rw [lost, abs_of_nonpos (sum_lossesOf counted).1, abs_of_nonpos (sum_lossesOf passed).1,
    abs_of_nonpos (add_nonpos (sum_lossesOf counted).1 (sum_lossesOf passed).1), neg_add]

/-- The share of the gains is not changed by results with as large a share. -/
theorem gainShare?_pooled_iff : gainShare? counted = gainShare? all <->
    (counted = [] -> passed = []) ∧
      gainCount counted * passed.length = gainCount passed * counted.length := by
  have length : all.length = counted.length + passed.length :=
    pooled.length_eq.trans List.length_append
  rw [gainShare?_eq, gainShare?_eq, gainCount_pooled pooled, length, Nat.cast_add, Nat.cast_add,
    ratio?_add_iff (Nat.cast_nonneg _) (Nat.cast_nonneg _)]
  simp only [Nat.cast_eq_zero, List.length_eq_zero_iff]
  exact and_congr_right fun _ => by norm_cast

/-- Gains over losses are not changed by gains and losses in the same proportion. -/
theorem gainsOverLosses?_pooled_iff : gainsOverLosses? counted = gainsOverLosses? all <->
    (lossesOf counted = [] -> lossesOf passed = []) ∧
      gains counted * |(lossesOf passed).sum| = gains passed * |(lossesOf counted).sum| := by
  rw [gainsOverLosses?_eq, gainsOverLosses?_eq, gains_pooled pooled, losses_pooled pooled,
    ratio?_add_iff (abs_nonneg _) (abs_nonneg _)]
  simp only [abs_eq_zero, (sum_lossesOf _).2]

end Pooling
end Performance

/-! ## The statistics of an account -/

namespace Broker

open Performance

/--
The statistics of a reachable broker count exactly the fills that ran against a
holding at another price than its average; what opens or adds to a holding is
never a win or a loss.  The win rate is the share of the gains among all closing
fills exactly when the closing fills at the average price have gains in the same
proportion, and the profit factor is what all closing fills gained over what
they lost exactly when gains and losses of those at the average price are in
the same proportion.  Both are right in particular when no fill closes at the
average price.
-/
theorem statistics_of_closing_fills_iff {house : House Rat} {broker : Broker Rat}
    (reached : Reachable house broker) :
    let account := broker.account
    let statistics := tradeStatistics account.trades
    let counted := profits account.unevenClosings
    let passed := profits account.evenClosings
    let closed := profits account.closings
    (forall booking, booking ∈ account.bookings ->
      (isClosing (booking.2.pnl, booking.2.fee) = true <->
        booking.1.size * booking.2.size < 0 ∧ booking.2.price ≠ booking.1.avgPrice)) ∧
    (statistics.winRate = gainShare? counted ∧
      statistics.profitFactor = gainsOverLosses? counted) ∧
    (account.evenClosings = [] -> statistics.winRate = gainShare? closed ∧
      statistics.profitFactor = gainsOverLosses? closed) ∧
    (statistics.winRate = gainShare? closed <->
      (counted = [] -> passed = []) ∧
        gainCount counted * passed.length = gainCount passed * counted.length) ∧
    (statistics.profitFactor = gainsOverLosses? closed <->
      (lossesOf counted = [] -> lossesOf passed = []) ∧
        gains counted * |(lossesOf passed).sum| = gains passed * |(lossesOf counted).sum|) := by
  intro account statistics counted passed closed
  have results : (account.trades.filter counts).map Trade.pnl = counted := by
    rw [reached.counted_eq, List.map_map]
    rfl
  have figures := closing_statistics account.trades
  rw [results] at figures
  have pooled : closed.Perm (counted ++ passed) := by
    have mapped := account.closings_perm.map fun booking => booking.2.pnl
    rw [List.map_append] at mapped
    exact mapped
  have share := gainShare?_pooled_iff pooled
  have factor := gainsOverLosses?_pooled_iff pooled
  rw [← figures.1] at share
  rw [← figures.2] at factor
  refine ⟨fun booking booked => reached.counts_iff booked, figures, fun none_even => ?_, share,
    factor⟩
  have nothing : passed = [] := List.map_eq_nil_iff.mpr none_even
  rw [nothing] at share factor
  exact ⟨share.mpr ⟨fun _ => rfl, (Nat.zero_mul _).symm⟩,
    factor.mpr ⟨fun _ => rfl, (mul_zero _).trans (zero_mul _).symm⟩⟩

/-- An account that sold ten units at the price it paid for them, at a fee of one for each fill. -/
def evenAccount : Broker Rat :=
  let asset : Asset := { symbol := "QQQ" }
  let order (size : Rat) : Order Rat := .single {} { asset, size, kind := .market }
  let event (time : Int) : Event Rat :=
    { time := ⟨time⟩, prices := Table.empty.put asset (.trade asset 100 none) }
  (idle flatFeeHouse).reset.state.run [.place [order 10] (event 0), .place [order (-10)] (event 1)]

theorem evenAccount_reachable : Reachable flatFeeHouse evenAccount :=
  (Reachable.opened (show open? flatFeeHouse = .ok (_, _) from rfl)).run _

/-- The sale closed the holding and lost its fee, and neither figure shows it. -/
theorem evenAccount_sale_not_counted :
    Reachable flatFeeHouse evenAccount ∧
      (let account := evenAccount.account
      profits account.closings = [-1] ∧
        gainShare? (profits account.closings) = some 0 ∧
        (tradeStatistics account.trades).winRate = none ∧
        gainsOverLosses? (profits account.closings) = some 0 ∧
        (tradeStatistics account.trades).profitFactor = none) :=
  ⟨evenAccount_reachable, by decide +kernel⟩

/-- The flipped account closed its holding at a profit of 99, and both figures show it. -/
theorem flippedAccount_statistics :
    Reachable flatFeeHouse flippedAccount ∧
      profits flippedAccount.account.closings = [99] ∧
      (tradeStatistics flippedAccount.account.trades).winRate = some 1 ∧
      (tradeStatistics flippedAccount.account.trades).profitFactor = none := by
  have reached : Reachable flatFeeHouse flippedAccount :=
    (Reachable.opened (show open? flatFeeHouse = .ok (_, _) from rfl)).run _
  have closed : profits flippedAccount.account.closings = [99] := by decide +kernel
  have uneven : flippedAccount.account.evenClosings = [] := by decide +kernel
  have figures := (statistics_of_closing_fills_iff reached).2.2.1 uneven
  rw [closed] at figures
  exact ⟨reached, closed, figures.1.trans (by decide +kernel), figures.2.trans (by decide +kernel)⟩

end Broker
end Brokerage
