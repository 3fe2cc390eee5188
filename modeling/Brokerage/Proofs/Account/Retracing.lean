import Brokerage.Proofs.Account.Splitting

namespace Brokerage

/-!
The holdings that trades met.

A trade does not say what was held of its asset when it was booked.  Booking
the trades of an account once more, from books without holdings, finds that out
again: in exact arithmetic every lot is the one that was there.  Only last
prices and times differ, because an event values the holdings without a trade,
and neither profit nor average price depends on them.
-/

/-- The fill that a trade has booked. -/
def Trade.fill {α : Type} (trade : Trade α) : Position α :=
  Position.ofFill trade.asset trade.size trade.price trade.time

namespace Position

/-- A profit depends on the lot that is held and on nothing else of a holding. -/
theorem realizedPnl_of_lot_eq {position other fill : Position Rat}
    (alike : position.lot = other.lot) : position.realizedPnl fill = other.realizedPnl fill := by
  have here := cost_merge position fill
  have there := cost_merge other fill
  rw [cost_of_lot_eq (lot_merge_congr alike rfl), cost_of_lot_eq alike] at here
  linarith

/-- Something is realized exactly by a fill that runs against a holding at another price. -/
theorem realizedPnl_ne_zero_iff {position fill : Position Rat} :
    position.realizedPnl fill ≠ 0 <->
      position.size * fill.size < 0 ∧ fill.avgPrice ≠ position.avgPrice := by
  by_cases held : position.size = 0
  · have nothing : position.realizedPnl fill = 0 := by
      simp only [realizedPnl, isFlat_iff.mpr held, Bool.true_or, if_true]
    simp only [nothing, held, zero_mul, lt_irrefl, false_and, ne_eq, not_true_eq_false]
  · rcases lt_trichotomy (position.size * fill.size) 0 with against | still | along
    · have closed : (if 0 < (position.size + fill.size) * position.size then -fill.size
          else position.size) ≠ 0 := by
        split
        · exact neg_ne_zero.mpr (right_ne_zero_of_mul against.ne)
        · exact held
      rw [realizedPnl_of_opposite held (lt_asymm against), mul_ne_zero_iff, sub_ne_zero]
      simp only [closed, against, ne_eq, not_false_eq_true, true_and]
    · have unfilled : fill.size = 0 := (mul_eq_zero.mp still).resolve_left held
      have nothing : position.realizedPnl fill = 0 := by
        rw [realizedPnl_of_opposite held still.not_gt, unfilled, add_zero,
          if_pos (mul_self_pos.mpr held), neg_zero, zero_mul]
      simp only [nothing, still, lt_irrefl, false_and, ne_eq, not_true_eq_false]
    · have direction : position.sameDirection fill = true := decide_eq_true along
      have nothing : position.realizedPnl fill = 0 := by
        simp only [realizedPnl, direction, Bool.or_true, if_true]
      simp only [nothing, lt_asymm along, false_and, ne_eq, not_true_eq_false]

end Position

namespace Ledger

section Rebooking

variable {α : Type} [Quantity α]

/-- The books after trades are booked one after the other. -/
def rebooked (ledger : Ledger α) (trades : List (Trade α)) : Ledger α :=
  trades.foldl book ledger

/-- Trades that are booked one after the other, each with the holding that it meets. -/
def bookings (ledger : Ledger α) : List (Trade α) -> List (Position α × Trade α)
  | [] => []
  | trade :: rest => (ledger.position trade.asset, trade) :: (ledger.book trade).bookings rest

theorem rebooked_append_singleton (ledger : Ledger α) (trades : List (Trade α))
    (trade : Trade α) :
    ledger.rebooked (trades ++ [trade]) = (ledger.rebooked trades).book trade := by
  unfold rebooked
  rw [List.foldl_append]
  rfl

theorem bookings_append_singleton (ledger : Ledger α) (trades : List (Trade α))
    (trade : Trade α) :
    ledger.bookings (trades ++ [trade]) =
      ledger.bookings trades ++ [((ledger.rebooked trades).position trade.asset, trade)] := by
  induction trades generalizing ledger with
  | nil => rfl
  | cons first rest ih => exact congrArg (_ :: ·) (ih (ledger.book first))

/-- Every trade is booked once, in its turn. -/
theorem map_snd_bookings (ledger : Ledger α) (trades : List (Trade α)) :
    (ledger.bookings trades).map Prod.snd = trades := by
  induction trades generalizing ledger with
  | nil => rfl
  | cons first rest ih => exact congrArg (first :: ·) (ih (ledger.book first))

end Rebooking

/-- Two books hold the same lots. -/
def SameLots (ledger other : Ledger Rat) : Prop :=
  forall asset, (ledger.positions.get? asset).map Position.lot =
    (other.positions.get? asset).map Position.lot

namespace SameLots

variable {ledger other : Ledger Rat} (same : ledger.SameLots other)
include same

theorem position (asset : Asset) : (ledger.position asset).lot = (other.position asset).lot := by
  have lots := same asset
  unfold Ledger.position
  cases here : ledger.positions.get? asset with
  | none =>
      rw [here, Option.map_none] at lots
      rw [Option.map_eq_none_iff.mp lots.symm]
  | some held =>
      rw [here, Option.map_some] at lots
      rcases Option.map_eq_some_iff.mp lots.symm with ⟨kept, there, alike⟩
      rw [there]
      exact alike.symm

/-- A trade leaves the same lots of the same lots. -/
theorem book (trade : Trade Rat) : (ledger.book trade).SameLots (other.book trade) := by
  intro asset
  have here : ((ledger.applyFill trade.fill).positions.get? asset).map Position.lot = _ :=
    ledger.lots_applyFill asset
  have there : ((other.applyFill trade.fill).positions.get? asset).map Position.lot = _ :=
    other.lots_applyFill asset
  rw [Position.lot_merge_congr (same.position asset) rfl, same asset] at here
  exact here.trans there.symm

/-- New market prices leave every lot. -/
theorem markToMarket (event : Event Rat) : (ledger.markToMarket event).SameLots other := by
  intro asset
  rw [← same asset]
  exact map_get?_markToMarket (fun _ _ _ _ => rfl) ledger event asset

end SameLots

/-- Booking the trades of some books once more leads to their lots and explains their profits. -/
structure Retraced (start ledger : Ledger Rat) : Prop where
  lots : ledger.SameLots (start.rebooked ledger.trades)
  profits : forall booking, booking ∈ start.bookings ledger.trades ->
    booking.2.pnl + booking.2.fee = booking.1.realizedPnl booking.2.fill

namespace Retraced

variable {start ledger : Ledger Rat}

theorem book (retraced : start.Retraced ledger) (execution : Execution Rat) (fee : Rat)
    (time : Instant) : start.Retraced (ledger.book (ledger.tradeOf execution fee time)) := by
  have trades : (ledger.book (ledger.tradeOf execution fee time)).trades =
      ledger.trades ++ [ledger.tradeOf execution fee time] := rfl
  constructor
  · rw [trades, rebooked_append_singleton]
    exact retraced.lots.book _
  · intro booking listed
    rw [trades, bookings_append_singleton] at listed
    rcases List.mem_append.mp listed with old | new
    · exact retraced.profits booking old
    · rw [List.mem_singleton.mp new]
      exact (sub_add_cancel _ _).trans
        (Position.realizedPnl_of_lot_eq (retraced.lots.position execution.asset))

/-- Only holdings and trades matter. -/
theorem congr {other : Ledger Rat} (retraced : start.Retraced ledger)
    (positions : other.positions = ledger.positions) (trades : other.trades = ledger.trades) :
    start.Retraced other := by
  rcases retraced with ⟨lots, profits⟩
  rw [← trades] at lots profits
  refine ⟨fun asset => ?_, profits⟩
  rw [positions]
  exact lots asset

end Retraced
end Ledger

namespace Broker

theorem retraced_emptied (broker : Broker Rat) {start : Ledger Rat}
    (nothing : start.positions = Table.empty) : start.Retraced broker.emptied.ledger := by
  rw [emptied_ledger]
  refine ⟨fun asset => ?_, fun _ listed => nomatch listed⟩
  change _ = (start.positions.get? asset).map Position.lot
  rw [nothing]
  rfl

theorem retraced_settled {broker : Broker Rat} {start : Ledger Rat}
    (retraced : start.Retraced broker.ledger)
    (orders : List (Order Rat × Option (Rejection Rat))) (event : Event Rat) :
    start.Retraced (broker.settled orders event).ledger := by
  have booked : start.Retraced (broker.booked orders event) :=
    Ledger.bookAll_induction (motive := fun books => start.Retraced books)
      (fun _ execution _ kept => kept.book execution _ _) retraced
  have marked : start.Retraced ((broker.booked orders event).markToMarket event) :=
    ⟨booked.lots.markToMarket event, booked.profits⟩
  exact marked.congr (broker.settled_positions orders event) (broker.settled_trades orders event)

/-- The books of a reachable broker are what their trades make of books without holdings. -/
theorem Reachable.retraced {house : House Rat} {broker : Broker Rat}
    (reached : Reachable house broker) {start : Ledger Rat}
    (nothing : start.positions = Table.empty) : start.Retraced broker.ledger := by
  refine Reachable.induction (motive := fun broker => start.Retraced broker.ledger)
    (retraced_emptied _ nothing) ?_ ?_ ?_ reached
  · intro broker _ _
    exact broker.retraced_emptied nothing
  · intro broker _ retraced
    exact retraced.congr rfl rfl
  · intro broker batch event state result _ retraced ended
    have settled := retraced_settled retraced
    cases ended with
    | refused _ => exact retraced
    | unvalued _ _ => exact retraced
    | unworkable _ _ _ => exact retraced
    | unpowered _ _ _ _ => exact settled _ _
    | done _ _ _ _ => exact (settled _ _).congr rfl rfl

end Broker
end Brokerage
