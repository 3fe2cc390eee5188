import Brokerage.Proofs.Broker.Appraisal
import Brokerage.Proofs.Broker.Atomicity
import Brokerage.Proofs.Broker.Following
import Brokerage.Proofs.Execution.FillPrice
import Mathlib.Tactic.Linarith

namespace Brokerage

/-!
What a placing spends, and how much of that was checked.

Every fill of a placing is a fill of an order that was admitted in it, or of
one that an earlier placing registered.  A new order was charged to the buying
power for its checked units at the reference price, and it fills at that price
or a better one, so beyond its charge it costs only what its other units cost.
For an older order nothing was charged, and all it costs is spent unchecked.
-/

/-- A house that keeps cash accounts without a reserve, checks the buying power of its accounts,
and charges nothing beyond the reference price. -/
structure House.CashOnly (house : House Rat) : Prop where
  pricing : house.pricing = .reference
  feeModel : house.feeModel = .free
  model : house.model = .cash 0
  checks : house.checksBuyingPower = true

/-- What a trade takes from the cash, in a base currency and without its fee. -/
def Trade.paid (trade : Trade Rat) (rates : Rates Rat) (base : Currency) : Rat :=
  trade.size * trade.price * rates.factor base trade.asset.currency

/-- Without fees, cash and what has been paid are together worth the same before and after. -/
theorem Ledger.worth_bookAll_free (ledger : Ledger Rat) (time : Instant)
    (executions : List (Execution Rat)) (rates : Rates Rat) (base : Currency) :
    (ledger.bookAll .free time executions).cash.worth rates base +
        ((ledger.bookAll .free time executions).trades.map fun trade =>
          trade.paid rates base).sum =
      ledger.cash.worth rates base +
        (ledger.trades.map fun trade => trade.paid rates base).sum := by
  refine bookAll_induction (motive := fun books => books.cash.worth rates base +
    (books.trades.map fun trade => trade.paid rates base).sum = _) ?_ rfl
  intro books execution _ before
  rw [← before]
  have fee : FeeModel.free.fee execution = 0 := rfl
  simp only [book, Wallet.withdraw, Wallet.worth_deposit, List.map_append, List.map_cons,
    List.map_nil, List.sum_append, List.sum_cons, List.sum_nil, Trade.paid, Trade.totalCost,
    tradeOf, fee]
  ring

namespace Broker

variable {broker : Broker Rat} {count : Nat} {batch : List (Order Rat)} {event : Event Rat}
  {orders : List (Order Rat × Option (Rejection Rat))} {numbers : List OrderId}

/-! ## Fills of new orders -/

/-- A new order that goes to work open was admitted. -/
theorem Recorded.enlisted_admitted (recorded : broker.Recorded count)
    (taken : broker.refusal? (orders.map Prod.fst) event = none)
    (listed : (registerAll broker.engine event.time orders).result = .ok numbers) :
    (broker.enlisted orders event.time).Each fun number executor =>
      broker.engine.nextId ≤ number -> executor.isOpen = true ->
        Exists fun appraisal => (broker.appraisals orders).get? number = some appraisal ∧
          appraisal.reason = none ∧ appraisal.order.leadingTerms? = some executor.terms := by
  refine recorded.each_new taken listed ?_ ?_
  · intro number executor before numbers live
    rw [Executor.terms_numbered]
    exact before ((Executor.isOpen_of_life (executor.life_numbered numbers)).symm.trans live)
  · rintro ⟨number, order, reason⟩ among engine executor - work live
    rcases exists_appraisal among with ⟨appraisal, found, same, decided⟩
    rcases Executor.create?_ok work with ⟨-, fresh, leading⟩
    rw [Engine.leadingTerms?_written] at leading
    dsimp only at leading live
    unfold Engine.begun at live ⊢
    cases against : Engine.cause? order reason with
    | some cause =>
        simp only [against, Option.isSome_some, if_true] at live
        unfold Executor.isOpen at live
        rw [Executor.life_reject, fresh] at live
        cases live
    | none =>
        simp only [Option.isSome_none, Bool.false_eq_true, if_false, Executor.terms_accept]
        refine ⟨appraisal, found, ?_, same ▸ leading⟩
        rw [decided]
        unfold Engine.cause? at against
        cases reason with
        | none => rfl
        | some _ => cases against

/-! ## What a trade was checked for -/

/-- A figure of the order of a trade as the placing of the trade appraised it; nothing when an
earlier placing registered the order. -/
def appraised (broker : Broker Rat) (orders : List (Order Rat × Option (Rejection Rat)))
    (figure : Appraisal Rat -> Rat) (trade : Trade Rat) : Rat :=
  ((trade.orderId.bind (broker.appraisals orders).get?).map figure).getD 0

theorem appraised_of_none {trade : Trade Rat} {figure : Appraisal Rat -> Rat}
    (nothing : trade.orderId.bind (broker.appraisals orders).get? = none) :
    broker.appraised orders figure trade = 0 := by
  unfold appraised
  rw [nothing]
  rfl

theorem appraised_of_some {trade : Trade Rat} {figure : Appraisal Rat -> Rat}
    {appraisal : Appraisal Rat}
    (found : trade.orderId.bind (broker.appraisals orders).get? = some appraisal) :
    broker.appraised orders figure trade = figure appraisal := by
  unfold appraised
  rw [found]
  rfl

/-- Over trades of different orders a figure adds up to no more than over the whole batch. -/
theorem sum_appraised_le {figure : Appraisal Rat -> Rat}
    (least : forall appraisal, appraisal ∈ (broker.appraisals orders).values ->
      0 ≤ figure appraisal)
    {trades : List (Trade Rat)} (distinct : (trades.map Trade.orderId).Nodup) :
    (trades.map (broker.appraised orders figure)).sum ≤
      (broker.appraisals orders).total figure := by
  have under : (trades.map (broker.appraised orders figure)).sum =
      ((trades.filterMap Trade.orderId).map ((broker.appraisals orders).figureAt figure)).sum := by
    clear distinct
    induction trades with
    | nil => rfl
    | cons trade rest ih =>
        cases borne : trade.orderId with
        | none =>
            have nothing : broker.appraised orders figure trade = 0 :=
              appraised_of_none (by rw [borne, Option.bind_none])
            rw [List.map_cons, List.sum_cons, nothing, zero_add,
              List.filterMap_cons_none borne, ih]
        | some number =>
            have own : broker.appraised orders figure trade =
                (broker.appraisals orders).figureAt figure number := by
              unfold appraised
              rw [borne]
              rfl
            rw [List.map_cons, List.sum_cons, own, List.filterMap_cons_some borne, List.map_cons,
              List.sum_cons, ih]
  have once : (trades.filterMap Trade.orderId).Nodup := by
    have mapped : trades.filterMap Trade.orderId = (trades.map Trade.orderId).filterMap id := by
      rw [List.filterMap_map]
      rfl
    rw [mapped]
    refine distinct.filterMap ?_
    intro one other number first second
    exact first.trans second.symm
  exact under ▸ Table.sum_figureAt_le_total least once

/-- What is paid in the base currency for the units of a trade that its placing did not check
against the buying power. -/
def unchecked (broker : Broker Rat) (orders : List (Order Rat × Option (Rejection Rat)))
    (trade : Trade Rat) : Rat :=
  max 0 ((trade.size - broker.appraised orders Appraisal.units trade) * trade.price *
    broker.house.rates.factor broker.house.base trade.asset.currency)

/-- Whatever a fill costs was charged to the buying power when its order was admitted in this
placing, or is spent unchecked. -/
theorem paid_le_of_fill (recorded : broker.Recorded count) (priced : broker.Priced)
    (base : broker.house.rates.supports broker.house.base = true)
    (positive : broker.house.rates.Positive) (cash : broker.house.CashOnly)
    (taken : broker.refusal? (orders.map Prod.fst) event = none)
    (listed : (registerAll broker.engine event.time orders).result = .ok numbers)
    (fair : WellPriced (orders.map Prod.fst) event)
    {execution : Execution Rat} (filled : execution ∈ broker.fills orders event)
    {trade : Trade Rat} (book : trade.Books event.time execution) :
    trade.paid broker.house.rates broker.house.base ≤
      broker.unchecked orders trade + broker.appraised orders (broker.charge event) trade := by
  unfold fills at filled
  rw [cash.pricing] at filled
  rcases Engine.exists_worked_of_fill filled with
    ⟨⟨number, executor⟩, working, live, after, executions, mine, work⟩
  rcases work.fill_noWorse mine with ⟨observation, seen, noWorse⟩
  rcases work.fill_eq mine with ⟨quantity, price, same⟩
  subst same
  have running := recorded.enlisted_running taken listed
  have under : trade.orderId = some number :=
    book.orderId.trans (running.shown _ working).shown
  have asset : trade.asset = executor.terms.asset := book.asset
  have worth : 0 < broker.house.rates.factor broker.house.base trade.asset.currency := by
    rw [asset]
    exact Rates.factor_pos positive (priced.enlisted taken listed _ working) base
  have valued : 0 < observation.price := fair.observed _ _ seen
  rw [← book.size, ← book.price] at noWorse
  unfold Trade.paid unchecked
  cases found : (broker.appraisals orders).get? number with
  | none =>
      have nothing : trade.orderId.bind (broker.appraisals orders).get? = none := by
        rw [under, Option.bind_some, found]
      have cost := noWorse.cost_le valued (le_refl 0) worth
      rw [zero_mul, zero_mul] at cost
      rw [appraised_of_none nothing, appraised_of_none nothing]
      exact cost
  | some appraisal =>
      have entry := Table.get?_eq_some_iff.mp found
      have own : trade.orderId.bind (broker.appraisals orders).get? = some appraisal := by
        rw [under, Option.bind_some, found]
      rcases recorded.enlisted_admitted taken listed _ working (mem_labelled_bounds entry).1 live
        with ⟨again, repeated, admitted, leading⟩
      cases found.symm.trans repeated
      have charged : broker.charge event appraisal = appraisal.units * observation.price *
          broker.house.rates.factor broker.house.base trade.asset.currency := by
        rw [charge_of_admitted admitted leading, referencePrice?_of_observed seen, asset]
        rfl
      rw [appraised_of_some own, appraised_of_some own, charged]
      exact noWorse.cost_le valued (units_nonneg (mem_labelled_bounds entry).2) worth

/-! ## What a settlement leaves -/

/-- A settlement leaves the cash worth what it was worth, or nothing if that was more, except
for what it spends unchecked. -/
theorem worth_settled (recorded : broker.Recorded count) (priced : broker.Priced)
    (base : broker.house.rates.supports broker.house.base = true)
    (positive : broker.house.rates.Positive) (cash : broker.house.CashOnly)
    (power : broker.ledger.buyingPower.value =
      broker.ledger.cash.worth broker.house.rates broker.house.base)
    (marked : SoundlyMarked broker.ledger)
    (taken : broker.refusal? (orders.map Prod.fst) event = none)
    (decided : broker.admission? (orders.map Prod.fst) event = .ok orders)
    (listed : (registerAll broker.engine event.time orders).result = .ok numbers)
    (fair : WellPriced (orders.map Prod.fst) event) :
    min (broker.ledger.cash.worth broker.house.rates broker.house.base) 0 -
        (((broker.settled orders event).ledger.trades.drop broker.ledger.trades.length).map
          (broker.unchecked orders)).sum ≤
      (broker.settled orders event).ledger.cash.worth broker.house.rates broker.house.base := by
  rcases broker.ledger.bookAll_books broker.house.feeModel event.time
    (broker.fills orders event) with ⟨fresh, trades, books⟩
  have balance := broker.ledger.worth_bookAll_free event.time (broker.fills orders event)
    broker.house.rates broker.house.base
  rw [← cash.feeModel, trades, List.map_append, List.sum_append] at balance
  have costs : (fresh.map fun trade => trade.paid broker.house.rates broker.house.base).sum ≤
      (fresh.map fun trade => broker.unchecked orders trade +
        broker.appraised orders (broker.charge event) trade).sum := by
    refine List.sum_le_sum fun trade booked => ?_
    rcases Ledger.exists_fill_of_books books booked with ⟨execution, filled, book⟩
    exact paid_le_of_fill recorded priced base positive cash taken listed fair filled book
  have distinct : (fresh.map Trade.orderId).Nodup := by
    rw [Ledger.orderIds_of_books books]
    exact (recorded.enlisted_running taken listed).fills_distinct _ _
  have charged := sum_appraised_le
    (fun _ => charge_nonneg rfl taken base positive fair marked) distinct
  have covered := charges_of_admission taken base cash.checks decided
  rw [List.sum_map_add] at costs
  rw [power] at covered
  rw [settled_trades, settled_cash, booked, trades, List.drop_left]
  linarith

/-- After a settlement no holding is marked at a negative price; one that the event does not observe
has not been traded on it. -/
theorem soundlyMarked_settled (cash : broker.house.CashOnly)
    (fair : WellPriced batch event) (marked : SoundlyMarked broker.ledger) :
    SoundlyMarked (broker.settled orders event).ledger := by
  have untouched : forall entry, entry ∈ (broker.booked orders event).positions.entries ->
      event.observation? entry.1 = none -> entry ∈ broker.ledger.positions.entries := by
    refine Ledger.bookAll_induction (motive := fun books => forall entry,
      entry ∈ books.positions.entries -> event.observation? entry.1 = none ->
        entry ∈ broker.ledger.positions.entries) ?_ (fun _ held _ => held)
    intro books execution filled before entry held unseen
    unfold fills at filled
    rw [cash.pricing] at filled
    rcases Engine.exists_worked_of_fill filled with ⟨_, _, _, _, _, mine, work⟩
    rcases work.fill_noWorse mine with ⟨observation, seen, -⟩
    unfold Ledger.book Ledger.applyFill at held
    dsimp only at held
    split at held
    · exact before entry (List.mem_filter.mp held).1 unseen
    · rcases Table.mem_entries_put.mp held with same | old
      · subst same
        cases seen.symm.trans unseen
      · exact before entry old.2 unseen
  intro entry held
  rw [settled_positions] at held
  rcases List.mem_map.mp held with ⟨old, member, same⟩
  subst same
  dsimp only
  cases seen : event.observation? old.1 with
  | some observation => exact le_of_lt (fair.observed _ _ seen)
  | none => exact marked old (untouched old member seen)

end Broker
end Brokerage
